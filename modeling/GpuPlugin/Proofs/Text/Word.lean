import GpuPlugin.Text.Blank
import GpuPlugin.Text.Numeral
import Mathlib.Data.List.Induction
import Mathlib.Data.List.TakeWhile

/-!
# Proofs/Text/Word — words, and the numbers they stand for

A run of digits is the printed form of its value after some zeros (`exists_zeros`), so a number has
one numeral for each number of leading zeros.  Just these are read as the number, up to a plus sign
before them (`word64?_eq_some_iff`).  A word is what is left of a text when the white space around
it is taken off (`trimBlank_eq_iff`), and whatever is no letter has no case (`map_toLower_eq_iff`).
-/

namespace GpuPlugin.Text

variable {cs word : List Char} {c d : Char} {acc n : Nat}

/-! ## Digits -/

theorem toNat_of_isDigit (hc : c.isDigit = true) : 48 ≤ c.toNat ∧ c.toNat ≤ 57 :=
  Char.isDigit_iff_toNat.mp hc

theorem digitOf_ten_eq_some_iff {v : Nat} :
    digitOf 10 c = some v ↔ c.isDigit = true ∧ c.toNat - '0'.toNat = v := by
  have hdigit : c.isDigit = true ↔ '0' ≤ c ∧ c ≤ '9' := Char.isDigit_iff_toNat
  rw [digitOf, digitValue, hdigit]
  split_ifs with hten hlower hupper
  · have hle : c.toNat ≤ 57 := hten.2
    have hvalue : c.toNat - '0'.toNat < 10 := Nat.lt_succ_of_le (Nat.sub_le_sub_right hle 48)
    rw [Option.bind_some, if_pos hvalue, and_iff_right hten, Option.some_inj]
  -- a letter has a value from ten on
  · have hlarge : ¬ c.toNat - 'a'.toNat + 10 < 10 := Nat.not_lt.mpr (Nat.le_add_left 10 _)
    rw [Option.bind_some, if_neg hlarge]
    exact iff_of_false nofun fun h => hten h.1
  · have hlarge : ¬ c.toNat - 'A'.toNat + 10 < 10 := Nat.not_lt.mpr (Nat.le_add_left 10 _)
    rw [Option.bind_some, if_neg hlarge]
    exact iff_of_false nofun fun h => hten h.1
  · exact iff_of_false nofun fun h => hten h.1

theorem digits?_eq_some_iff : digits? 10 cs acc = some n ↔
    (∀ c ∈ cs, c.isDigit = true) ∧ Nat.ofDigitChars 10 cs acc = n := by
  induction cs generalizing acc with
  | nil => simp [digits?]
  | cons c cs ih =>
    rw [digits?, List.forall_mem_cons, Nat.ofDigitChars_cons]
    cases hc : digitOf 10 c with
    | none =>
      have hnot : c.isDigit ≠ true := fun h => by
        rw [digitOf_ten_eq_some_iff.mpr ⟨h, rfl⟩] at hc
        cases hc
      simp [hnot]
    | some v =>
      obtain ⟨hdigit, rfl⟩ := digitOf_ten_eq_some_iff.mp hc
      rw [and_iff_right hdigit]
      exact ih

theorem toDigits_digit (hc : c.isDigit = true) :
    c.toNat - '0'.toNat < 10 ∧ Nat.toDigits 10 (c.toNat - '0'.toNat) = [c] := by
  obtain ⟨hlow, hhigh⟩ := toNat_of_isDigit hc
  have hvalue : c.toNat - '0'.toNat < 10 := Nat.lt_succ_of_le (Nat.sub_le_sub_right hhigh 48)
  refine ⟨hvalue, ?_⟩
  rw [Nat.toDigits_of_lt_base hvalue, List.cons.injEq, ← Char.toNat_inj,
    Nat.toNat_digitChar_of_lt_ten hvalue]
  exact ⟨Nat.add_sub_cancel' hlow, rfl⟩

/-- **Digits are the printed form of their value**, after some zeros. -/
theorem exists_zeros (hne : cs ≠ []) (hdigits : ∀ c ∈ cs, c.isDigit = true) :
    ∃ zeros, cs = List.replicate zeros '0' ++ Nat.toDigits 10 (Nat.ofDigitChars 10 cs 0) := by
  induction cs using List.reverseRecOn with
  | nil => exact absurd rfl hne
  | append_singleton cs c ih =>
    obtain ⟨hcs, hc⟩ := List.forall_mem_append.mp hdigits
    obtain ⟨hvalue, hprinted⟩ := toDigits_digit (hc c List.mem_cons_self)
    rw [Nat.ofDigitChars_append, Nat.ofDigitChars_cons, Nat.ofDigitChars_nil]
    rcases eq_or_ne cs [] with rfl | hfront
    · refine ⟨0, ?_⟩
      rw [Nat.ofDigitChars_nil, Nat.mul_zero, Nat.zero_add, hprinted]
      rfl
    obtain ⟨zeros, hzeros⟩ := ih hfront hcs
    rcases Nat.eq_zero_or_pos (Nat.ofDigitChars 10 cs 0) with hzero | hpos
    · -- nothing but zeros so far
      refine ⟨zeros + 1, ?_⟩
      rw [hzero, Nat.toDigits_zero, ← List.replicate_succ'] at hzeros
      rw [hzero, Nat.mul_zero, Nat.zero_add, hprinted, ← hzeros]
    · refine ⟨zeros, ?_⟩
      rw [← Nat.toDigits_append_toDigits (by decide) hpos hvalue, hprinted, ← List.append_assoc,
        ← hzeros]

/-! ## Numerals -/

/-- **A numeral of a number** is its printed form after any number of zeros. -/
def IsNumeral (n : Nat) (cs : List Char) : Prop :=
  ∃ zeros, cs = List.replicate zeros '0' ++ (toString n).toList

theorem toList_toString (n : Nat) : (toString n).toList = Nat.toDigits 10 n := by
  rw [Nat.toString_eq_repr, Nat.toList_repr]

theorem isNumeral_toString (n : Nat) : IsNumeral n (toString n).toList := ⟨0, rfl⟩

theorem IsNumeral.isDigit (h : IsNumeral n cs) : ∀ c ∈ cs, c.isDigit = true := by
  obtain ⟨zeros, rfl⟩ := h
  rw [toList_toString]
  refine List.forall_mem_append.mpr ⟨fun c hc => ?_, fun c hc => ?_⟩
  · rw [List.eq_of_mem_replicate hc]
    rfl
  · exact Nat.isDigit_of_mem_toDigits (by decide) (by decide) hc

theorem IsNumeral.ne_nil (h : IsNumeral n cs) : cs ≠ [] := by
  obtain ⟨zeros, rfl⟩ := h
  rw [toList_toString]
  exact List.append_ne_nil_of_right_ne_nil _ Nat.toDigits_ne_nil

theorem IsNumeral.value (h : IsNumeral n cs) : Nat.ofDigitChars 10 cs 0 = n := by
  obtain ⟨zeros, rfl⟩ := h
  rw [toList_toString, Nat.ofDigitChars_append, Nat.ofDigitChars_replicate_zero, Nat.mul_zero,
    Nat.ofDigitChars_ten_toDigits]

/-- **Just the numerals of a number are read as it**, where there is no sign. -/
theorem natural?_eq_some_iff : natural? 10 cs = some n ↔ IsNumeral n cs := by
  rcases eq_or_ne cs [] with rfl | hne
  · exact iff_of_false nofun fun h => h.ne_nil rfl
  rw [natural?.eq_2 _ _ hne, digits?_eq_some_iff]
  constructor
  · rintro ⟨hdigits, rfl⟩
    rw [IsNumeral, toList_toString]
    exact exists_zeros hne hdigits
  · exact fun h => ⟨h.isDigit, h.value⟩

/-! ## Signs -/

/-- A numeral that may have a plus sign before it. -/
def IsUnsigned (n : Nat) (cs : List Char) : Prop :=
  IsNumeral n cs ∨ ∃ ds, cs = '+' :: ds ∧ IsNumeral n ds

theorem IsUnsigned.isDigit (h : IsUnsigned n cs) : ∀ c ∈ cs, c.isDigit = true ∨ c = '+' := by
  rcases h with h | ⟨ds, rfl, h⟩
  · exact fun c hc => .inl (h.isDigit c hc)
  · exact List.forall_mem_cons.mpr ⟨.inr rfl, fun c hc => .inl (h.isDigit c hc)⟩

theorem IsUnsigned.ne_nil (h : IsUnsigned n cs) : cs ≠ [] := by
  rcases h with h | ⟨ds, rfl, -⟩
  · exact h.ne_nil
  · exact List.cons_ne_nil '+' ds

theorem isUnsigned_plus_iff : IsUnsigned n ('+' :: cs) ↔ IsNumeral n cs := by
  have hplus : ¬ IsNumeral n ('+' :: cs) := fun h =>
    absurd (h.isDigit '+' List.mem_cons_self) (by decide)
  rw [IsUnsigned, or_iff_right hplus]
  simp

theorem isUnsigned_iff_of_no_plus (h : ∀ ds, cs ≠ '+' :: ds) : IsUnsigned n cs ↔ IsNumeral n cs :=
  or_iff_left fun ⟨ds, hds, _⟩ => h ds hds

theorem bind_below_eq_some_iff {r : Option Nat} {bound : Nat} :
    (r.bind fun m => if m < bound then some m else none) = some n ↔ n < bound ∧ r = some n := by
  rw [Option.bind_eq_some_iff]
  constructor
  · rintro ⟨m, hr, hm⟩
    split_ifs at hm with hlt
    obtain rfl := Option.some.inj hm
    exact ⟨hlt, hr⟩
  · rintro ⟨hlt, hr⟩
    exact ⟨n, hr, if_pos hlt⟩

/-- **Just the numerals of a number of 64 bits are read as it**, with a plus sign or without. -/
theorem word64?_eq_some_iff : word64? cs = some n ↔ n < UInt64.size ∧ IsUnsigned n cs := by
  unfold word64? bounded?
  split
  next ds =>
    rw [isUnsigned_plus_iff, ← natural?_eq_some_iff]
    exact bind_below_eq_some_iff
  next hno =>
    rw [isUnsigned_iff_of_no_plus hno, ← natural?_eq_some_iff]
    exact bind_below_eq_some_iff

/-! ## White space -/

/-- The visible characters of ASCII are no white space. -/
theorem isBlank_of_visible (hlow : 33 ≤ c.toNat) (hhigh : c.toNat ≤ 126) : isBlank c = false := by
  simp only [isBlank]
  grind

theorem IsUnsigned.isBlank_eq_false (h : IsUnsigned n cs) : ∀ c ∈ cs, isBlank c = false := by
  intro c hc
  rcases h.isDigit c hc with hdigit | rfl
  · obtain ⟨hlow, hhigh⟩ := toNat_of_isDigit hdigit
    exact isBlank_of_visible (by omega) (by omega)
  · rfl

/-- A text is a word with white space around it, or without. -/
def Pads (word cs : List Char) : Prop :=
  ∃ front back, cs = front ++ (word ++ back) ∧
    (∀ c ∈ front, isBlank c = true) ∧ ∀ c ∈ back, isBlank c = true

theorem pads_self (word : List Char) : Pads word word :=
  ⟨[], [], (List.append_nil word).symm, nofun, nofun⟩

theorem pads_trimBlank (cs : List Char) : Pads (trimBlank cs) cs := by
  refine ⟨cs.takeWhile isBlank, ((cs.dropWhile isBlank).reverse.takeWhile isBlank).reverse, ?_,
    fun c hc => List.mem_takeWhile_imp hc,
    fun c hc => List.mem_takeWhile_imp (List.mem_reverse.mp hc)⟩
  rw [trimBlank, ← List.reverse_append, List.takeWhile_append_dropWhile, List.reverse_reverse,
    List.takeWhile_append_dropWhile]

theorem dropWhile_append_of_blank {front : List Char} (hfront : ∀ c ∈ front, isBlank c = true)
    (hne : word ≠ []) (hword : ∀ c ∈ word, isBlank c = false) (rest : List Char) :
    (front ++ (word ++ rest)).dropWhile isBlank = word ++ rest := by
  obtain ⟨c, cs, rfl⟩ := List.exists_cons_of_ne_nil hne
  have hc : isBlank c ≠ true := by simp [hword]
  rw [List.dropWhile_append_of_pos hfront, List.cons_append, List.dropWhile_cons_of_neg hc]

/-- **White space around a word is taken off**, where the word has none itself. -/
theorem trimBlank_eq_iff (hne : word ≠ []) (hword : ∀ c ∈ word, isBlank c = false) :
    trimBlank cs = word ↔ Pads word cs := by
  constructor
  · rintro rfl
    exact pads_trimBlank cs
  · rintro ⟨front, back, rfl, hfront, hback⟩
    have hend := dropWhile_append_of_blank (fun c hc => hback c (List.mem_reverse.mp hc))
      (mt List.reverse_eq_nil_iff.mp hne) (fun c hc => hword c (List.mem_reverse.mp hc)) []
    rw [List.append_nil] at hend
    rw [trimBlank, dropWhile_append_of_blank hfront hne hword, List.reverse_append, hend,
      List.reverse_reverse]

/-! ## Letters -/

theorem isAlpha_iff_toNat :
    c.isAlpha = true ↔ 65 ≤ c.toNat ∧ c.toNat ≤ 90 ∨ 97 ≤ c.toNat ∧ c.toNat ≤ 122 := by
  have hupper : c.isUpper = true ↔ 65 ≤ c.toNat ∧ c.toNat ≤ 90 := decide_eq_true_iff
  have hlower : c.isLower = true ↔ 97 ≤ c.toNat ∧ c.toNat ≤ 122 :=
    Bool.and_eq_true_iff.trans (and_congr decide_eq_true_iff decide_eq_true_iff)
  rw [← hupper, ← hlower]
  exact Bool.or_eq_true_iff

/-- A letter in lower case comes 32 after its upper case. -/
theorem toNat_toLower (c : Char) : c.toLower.toNat =
    if 65 ≤ c.toNat ∧ c.toNat ≤ 90 then c.toNat + 32 else c.toNat := by
  by_cases hupper : 65 ≤ c.toNat ∧ c.toNat ≤ 90
  · have hlower : c.toLower.val = c.val + 32 := congrArg Char.val (dif_pos hupper)
    have hsmall : c.toNat + 32 < 2 ^ 32 := by omega
    change c.toLower.val.toNat = _
    rw [if_pos hupper, hlower, UInt32.toNat_add]
    exact Nat.mod_eq_of_lt hsmall
  · have hsame : c.toLower = c := dif_neg hupper
    rw [hsame, if_neg hupper]

/-- What is no letter is the lower case of itself alone. -/
theorem toLower_eq_iff (hd : d.isAlpha = false) : c.toLower = d ↔ c = d := by
  rw [← Bool.not_eq_true, isAlpha_iff_toNat] at hd
  rw [← Char.toNat_inj, ← Char.toNat_inj, toNat_toLower]
  split_ifs <;> omega

theorem isBlank_of_isAlpha (hc : c.isAlpha = true) : isBlank c = false := by
  have hrange := isAlpha_iff_toNat.mp hc
  exact isBlank_of_visible (by omega) (by omega)

/-- White space has no case. -/
theorem isBlank_toLower (c : Char) : isBlank c.toLower = isBlank c := by
  by_cases hupper : 65 ≤ c.toNat ∧ c.toNat ≤ 90
  · have hlower : c.toLower.toNat = c.toNat + 32 := by rw [toNat_toLower, if_pos hupper]
    have hblank : isBlank c = false := isBlank_of_visible (by omega) (by omega)
    rw [hblank]
    exact isBlank_of_visible (by omega) (by omega)
  · have hsame : c.toLower = c := by rw [← Char.toNat_inj, toNat_toLower, if_neg hupper]
    rw [hsame]

theorem map_toLower_eq_iff (hword : ∀ d ∈ word, d.isAlpha = false) :
    cs.map Char.toLower = word ↔ cs = word := by
  induction cs generalizing word with
  | nil => rw [List.map_nil]
  | cons c cs ih =>
    cases word with
    | nil => exact iff_of_false (List.cons_ne_nil _ _) (List.cons_ne_nil _ _)
    | cons d word =>
      obtain ⟨hd, hrest⟩ := List.forall_mem_cons.mp hword
      rw [List.map_cons, List.cons.injEq, List.cons.injEq, toLower_eq_iff hd, ih hrest]

theorem IsUnsigned.isAlpha_eq_false (h : IsUnsigned n cs) : ∀ c ∈ cs, c.isAlpha = false := by
  intro c hc
  rcases h.isDigit c hc with hdigit | rfl
  · obtain ⟨hlow, hhigh⟩ := toNat_of_isDigit hdigit
    rw [← Bool.not_eq_true, isAlpha_iff_toNat]
    omega
  · rfl

end GpuPlugin.Text
