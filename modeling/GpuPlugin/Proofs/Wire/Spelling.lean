import GpuPlugin.Wire.Field
import Mathlib.Data.List.Basic

/-!
# Proofs/Wire/Spelling — the bytes that a field can be read from

A number may be spelled with more bytes than it needs, and with it a key and the length of a block.
Here is what bytes spell a field, without any word on how they are read, and reading gives back just
the field that is spelled (`readField_append`), whatever follows it.  What is written is one of the
spellings (`Field.spells_bytes`).
-/

namespace GpuPlugin.Wire

/-! ## Numbers -/

namespace Varint

/-- Bytes that spell a number: groups of seven bits, the lowest first, of which the last ones may be
idle. -/
inductive Spells : Nat → Bytes → Prop
  | last {b : UInt8} (hb : b < 128) : Spells b.toNat [b]
  | more {b : UInt8} {n : Nat} {bs : Bytes} (hb : 128 ≤ b) (h : Spells n bs) :
      Spells (b.toNat - 128 + 128 * n) (b :: bs)

/-- **A number of 64 bits is spelled** in ten bytes at most. -/
structure Spelled (n : Nat) (bs : Bytes) : Prop where
  spells : Spells n bs
  length : bs.length ≤ 10
  bound : n < UInt64.size

variable {k n : Nat} {bs : Bytes}

theorem Spells.length_pos (h : Spells n bs) : 0 < bs.length := by
  rcases h with _ | _
  · exact Nat.one_pos
  · exact Nat.succ_pos _

/-- After one more byte, numbers of seven bits less fit. -/
theorem bound_succ {m : Nat} (hk : k < 9) (h : 128 * n ≤ m) (hm : m < 2 * Nat.pow 128 (9 - k)) :
    n < 2 * Nat.pow 128 (9 - (k + 1)) := by
  obtain ⟨j, hj⟩ : ∃ j, 9 - k = j + 1 := ⟨8 - k, by omega⟩
  rw [hj] at hm
  rw [show 9 - (k + 1) = j by omega]
  have hpow : Nat.pow 128 (j + 1) = Nat.pow 128 j * 128 := rfl
  omega

theorem readFrom_append (rest : Bytes) (h : Spells n bs) (hlength : k + bs.length ≤ 10)
    (hbound : n < 2 * Nat.pow 128 (9 - k)) : readFrom k (bs ++ rest) = some (n, rest) := by
  induction h generalizing k with
  | @last b hb =>
    have hfits : ¬(k = 9 ∧ 2 ≤ b) := by
      rintro ⟨rfl, htwo⟩
      have htwo : 2 ≤ b.toNat := htwo
      simp at hbound
      omega
    rw [List.singleton_append, readFrom, if_pos hb, if_neg hfits]
  | @more b n bs hb hspells ih =>
    have hpos := hspells.length_pos
    rw [List.length_cons] at hlength
    have hk : k < 9 := by omega
    have hread := ih (k := k + 1) (by omega) (bound_succ hk (Nat.le_add_left _ _) hbound)
    have hmore : ¬ b < 128 := UInt8.not_lt.mpr hb
    rw [List.cons_append, readFrom, if_neg hmore, if_neg (Nat.not_le.mpr hk), hread]

/-- **A spelled number is read**, whatever follows it. -/
theorem Spelled.read_append (h : Spelled n bs) (rest : Bytes) : read (bs ++ rest) = some (n, rest) :=
  readFrom_append rest h.spells (by simpa using h.length) (by simpa using h.bound)

theorem toNat_ofNat_of_lt {m : Nat} (h : m < 256) : (UInt8.ofNat m).toNat = m :=
  UInt8.toNat_ofNat_of_lt' h

theorem spells_write (n : Nat) : Spells n (write n) := by
  induction n using Nat.strongRecOn with
  | _ n ih =>
    rw [write]
    split
    next hlt =>
      have hn : (UInt8.ofNat n).toNat = n := toNat_ofNat_of_lt (by omega)
      have hb : UInt8.ofNat n < 128 := by
        rw [UInt8.lt_iff_toNat_lt, hn]
        exact hlt
      have hlast := Spells.last hb
      rwa [hn] at hlast
    next hge =>
      have hlow : (UInt8.ofNat (n % 128 + 128)).toNat = n % 128 + 128 :=
        toNat_ofNat_of_lt (by omega)
      have hb : 128 ≤ UInt8.ofNat (n % 128 + 128) := by
        rw [UInt8.le_iff_toNat_le, hlow]
        exact Nat.le_add_left 128 _
      have hmore := Spells.more hb (ih (n / 128) (by omega))
      rwa [hlow, Nat.add_sub_cancel, Nat.mod_add_div] at hmore

theorem length_write_le (j : Nat) (h : n < 2 * Nat.pow 128 j) : (write n).length ≤ j + 1 := by
  induction j generalizing n with
  | zero =>
    have hn : n < 128 := by simp at h; omega
    rw [write, if_pos hn]
    exact Nat.le_refl 1
  | succ j ih =>
    rw [write]
    split
    · exact Nat.le_add_left 1 _
    · have hpow : Nat.pow 128 (j + 1) = Nat.pow 128 j * 128 := rfl
      exact Nat.succ_le_succ (ih (by omega))

theorem length_write_mono {m n : Nat} (h : m ≤ n) : (write m).length ≤ (write n).length := by
  induction n using Nat.strongRecOn generalizing m with
  | _ n ih =>
    rw [write.eq_def m, write.eq_def n]
    split_ifs with hm hn hn
    · exact Nat.le_refl 1
    · exact Nat.le_add_left 1 _
    · omega
    · exact Nat.succ_le_succ (ih (n / 128) (by omega) (Nat.div_le_div_right h))

theorem spelled_write (h : n < UInt64.size) : Spelled n (write n) :=
  ⟨spells_write n, length_write_le 9 (by simpa using h), h⟩

end Varint

/-! ## Fields -/

/-- Bytes that spell what comes after a key. -/
def Payload.Spells : Payload → Bytes → Prop
  | .varint n, bs => Varint.Spelled n bs
  | .fixed64 content, bs => content.length = 8 ∧ bs = content
  | .block content, bs => ∃ length, Varint.Spelled content.length length ∧ bs = length ++ content
  | .group, _ => False
  | .fixed32 content, bs => content.length = 4 ∧ bs = content

/-- **Bytes that spell a field**: a key with its number and the shape of its payload, and the
payload.  Groups are left out. -/
structure Field.Spells (f : Field) (bs : Bytes) : Prop where
  isNumber : IsNumber f.number
  key_payload : ∃ key payload, Varint.Spelled (8 * f.number + f.payload.shape.code) key ∧
    f.payload.Spells payload ∧ bs = key ++ payload

variable {number depth : Nat} {shape : Shape} {p : Payload} {f : Field} {bs : Bytes}
  {isBlock : Nat → Bool}

theorem Shape.code_lt (s : Shape) : s.code < 8 := by rcases s <;> decide

theorem readKey_append (rest : Bytes) (hnumber : IsNumber number)
    (h : Varint.Spelled (8 * number + shape.code) bs) :
    readKey (bs ++ rest) = some ((number, shape), rest) := by
  have hcode := shape.code_lt
  have hmod : (8 * number + shape.code) % 8 = shape.code := by omega
  have hdiv : (8 * number + shape.code) / 8 = number := by omega
  have hkey : 8 * number + shape.code < keyBound := by
    have := hnumber.2
    omega
  simp only [readKey, h.read_append rest, hmod, hdiv, Shape.ofCode?_code]
  rw [if_pos ⟨hkey, hnumber.1⟩]

theorem takeBytes_append {n : Nat} {content : Bytes} (rest : Bytes) (h : content.length = n) :
    takeBytes n (content ++ rest) = some (content, rest) := by
  subst h
  simp [takeBytes]

theorem readBlock_append {content length : Bytes} (rest : Bytes)
    (h : Varint.Spelled content.length length) :
    readBlock (length ++ content ++ rest) = some (content, rest) := by
  rw [List.append_assoc, readBlock, h.read_append]
  exact takeBytes_append rest rfl

/-- **A spelled payload is read by its shape.** -/
theorem readPlain_append (rest : Bytes) (h : p.Spells bs) :
    readPlain p.shape (bs ++ rest) = some (p, rest) := by
  rcases p with n | content | content | _ | content
  · change (Varint.read (bs ++ rest)).map _ = _
    rw [Varint.Spelled.read_append h]
    rfl
  · obtain ⟨hlength, rfl⟩ := h
    change (takeBytes 8 _).map _ = _
    rw [takeBytes_append rest hlength]
    rfl
  · obtain ⟨length, hlength, rfl⟩ := h
    change (readBlock _).map _ = _
    rw [readBlock_append rest hlength]
    rfl
  · exact h.elim
  · obtain ⟨hlength, rfl⟩ := h
    change (takeBytes 4 _).map _ = _
    rw [takeBytes_append rest hlength]
    rfl

theorem Payload.Spells.shape_ne (h : p.Spells bs) : p.shape ≠ .groupStart := by
  rcases p with _ | _ | _ | _ | _
  case group => exact h.elim
  all_goals exact nofun

/-- **A spelled field is read**, whatever follows it. -/
theorem readField_append (rest : Bytes) (h : f.Spells bs)
    (hblock : isBlock f.number = true → ∃ content, f.payload = .block content) :
    readField isBlock depth (bs ++ rest) = some (f, rest) := by
  obtain ⟨hnumber, key, payload, hkey, hpayload, rfl⟩ := h
  obtain ⟨number, p⟩ := f
  rw [List.append_assoc, readField, readKey_append _ hnumber hkey]
  dsimp only
  split_ifs with hisBlock hgroup
  · obtain ⟨content, rfl⟩ := hblock hisBlock
    obtain ⟨length, hlength, rfl⟩ := hpayload
    rw [readBlock_append rest hlength]
    rfl
  · exact absurd hgroup hpayload.shape_ne
  · exact absurd hgroup hpayload.shape_ne
  · rw [readPlain_append rest hpayload]
    rfl

theorem Field.Spells.ne_nil (h : f.Spells bs) : bs ≠ [] := by
  obtain ⟨-, key, payload, hkey, -, rfl⟩ := h
  exact List.append_ne_nil_of_left_ne_nil (List.ne_nil_of_length_pos hkey.spells.length_pos) payload

/-- The fields of a message are read one after another. -/
theorem readFields_append (rest : Bytes) (h : f.Spells bs)
    (hblock : isBlock f.number = true → ∃ content, f.payload = .block content) :
    readFields isBlock depth (bs ++ rest) = (readFields isBlock depth rest).map (f :: ·) := by
  have hread : readField isBlock depth (bs ++ rest) = some (f, rest) :=
    readField_append rest h hblock
  rw [readFields, if_neg (List.append_ne_nil_of_left_ne_nil h.ne_nil rest)]
  split
  next hnone => exact absurd (hread.symm.trans hnone) (Option.some_ne_none _)
  next f' rest' hsome =>
    rw [hread] at hsome
    obtain ⟨rfl, rfl⟩ := Prod.mk.inj (Option.some.inj hsome)
    rfl

/-! ## What is written -/

/-- A payload that can be written, if it is not too long. -/
def Payload.IsPlain : Payload → Prop
  | .varint n => n < UInt64.size
  | .fixed64 content => content.length = 8
  | .block _ => True
  | .group => False
  | .fixed32 content => content.length = 4

/-- A payload whose length can be written. -/
def Payload.Fits (p : Payload) : Prop := p.bytes.length < UInt64.size

/-- A block holds no more than its length can say. -/
theorem length_lt_of_fits {content : Bytes} (h : (Payload.block content).Fits) :
    content.length < UInt64.size := by
  rw [Payload.Fits, Payload.bytes, List.length_append] at h
  omega

theorem Payload.spells_bytes (hplain : p.IsPlain) (hfits : p.Fits) : p.Spells p.bytes := by
  rcases p with n | content | content | _ | content
  · exact Varint.spelled_write hplain
  · exact ⟨hplain, rfl⟩
  · exact ⟨_, Varint.spelled_write (length_lt_of_fits hfits), rfl⟩
  · exact hplain
  · exact ⟨hplain, rfl⟩

/-- **What is written spells the field.** -/
theorem Field.spells_bytes (hnumber : IsNumber f.number) (hplain : f.payload.IsPlain)
    (hfits : f.payload.Fits) : f.Spells f.bytes := by
  have hcode := f.payload.shape.code_lt
  have hkey : 8 * f.number + f.payload.shape.code < UInt64.size := by
    have hword : keyBound < UInt64.size := by decide
    have := hnumber.2
    omega
  exact ⟨hnumber, _, _, Varint.spelled_write hkey, Payload.spells_bytes hplain hfits, rfl⟩

/-- Longer blocks take more bytes. -/
theorem length_bytes_block_le {content content' : Bytes} (h : content.length ≤ content'.length) :
    (Payload.block content).bytes.length ≤ (Payload.block content').bytes.length := by
  have hlength := Varint.length_write_mono h
  simp only [Payload.bytes, List.length_append]
  omega

end GpuPlugin.Wire
