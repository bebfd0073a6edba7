import GpuPlugin.Text.Numeral
import GpuPlugin.Text.Utf8

/-!
# Text/Percent — octets spelled by a percent sign and two digits

Escaping spells the octets of a chosen class in this way, and unescaping undoes every such spelling.
A percent sign without two hexadecimal digits after it stands for itself.  What is escaped can be
read back as long as the class contains the percent sign (`unescape_escape`).
-/

namespace GpuPlugin.Text

/-- The percent sign. -/
def percent : UInt8 := 0x25

/-- The hexadecimal digit of a value below sixteen, in upper case. -/
def hexOctet (n : Nat) : UInt8 := UInt8.ofNat (if n < 10 then 0x30 + n else 0x37 + n)

/-- The value of a hexadecimal digit of either case. -/
def hexValue? (digit : UInt8) : Option Nat := digitOf 16 (Char.ofNat digit.toNat)

/-- An octet, spelled if it belongs to the class. -/
def escapeOctet (special : UInt8 → Bool) (b : UInt8) : Octets :=
  if special b then [percent, hexOctet (b.toNat / 16), hexOctet (b.toNat % 16)] else [b]

/-- **Octets with those of a class spelled.** -/
def escape (special : UInt8 → Bool) (octets : Octets) : Octets :=
  octets.flatMap (escapeOctet special)

/-- **Octets with every spelling undone.** -/
def unescape : Octets → Octets
  | [] => []
  | b :: rest =>
    if b = percent then
      match rest with
      | high :: low :: tail =>
        match hexValue? high, hexValue? low with
        | some x, some y => UInt8.ofNat (16 * x + y) :: unescape tail
        | _, _ => b :: unescape (high :: low :: tail)
      | rest => b :: unescape rest
    else b :: unescape rest

theorem hexValue?_hexOctet : ∀ n < 16, hexValue? (hexOctet n) = some n := by decide

theorem unescape_cons_of_ne {b : UInt8} (h : b ≠ percent) (rest : Octets) :
    unescape (b :: rest) = b :: unescape rest := by
  rw [unescape.eq_def]
  simp [h]

/-- A spelled octet is read back. -/
theorem unescape_spelled (b : UInt8) (rest : Octets) :
    unescape (percent :: hexOctet (b.toNat / 16) :: hexOctet (b.toNat % 16) :: rest) =
      b :: unescape rest := by
  have hb : b.toNat < 256 := b.toNat_lt
  have hsum : 16 * (b.toNat / 16) + b.toNat % 16 = b.toNat := by omega
  rw [unescape.eq_def]
  simp [hexValue?_hexOctet (b.toNat / 16) (by omega), hexValue?_hexOctet (b.toNat % 16) (by omega),
    hsum]

/-- **Unescaping undoes escaping**, when percent signs are escaped. -/
theorem unescape_escape {special : UInt8 → Bool} (h : special percent = true) (octets : Octets) :
    unescape (escape special octets) = octets := by
  induction octets with
  | nil => simp [escape, unescape]
  | cons b rest ih =>
    rw [escape, List.flatMap_cons, ← escape, escapeOctet]
    by_cases hb : special b = true
    · rw [if_pos hb]
      simp only [List.cons_append, List.nil_append]
      rw [unescape_spelled, ih]
    · have hne : b ≠ percent := fun e => hb (e ▸ h)
      rw [if_neg hb]
      simp only [List.cons_append, List.nil_append]
      rw [unescape_cons_of_ne hne, ih]

end GpuPlugin.Text
