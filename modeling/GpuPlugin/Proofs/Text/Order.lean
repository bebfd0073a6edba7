import GpuPlugin.Text.Utf8
import Mathlib.Data.String.Basic

/-!
# Proofs/Text/Order — the order of octets is the order of characters

Of two characters the one with the smaller number has the smaller octets, because it has fewer of
them and then a smaller first one, or else the two differ first where their numbers do
(`octets_lt_of_lt`).  So texts stand in one order, whether they are compared by their characters or
by their octets (`octetsOf_lt_iff`).
-/

namespace GpuPlugin.Text

/-- **The smaller character has the smaller octets**, whatever comes after them. -/
theorem octets_lt_of_lt {c d : Char} (h : c < d) (u v : Octets) :
    String.utf8EncodeChar c ++ u < String.utf8EncodeChar d ++ v := by
  have hlt : c.val.toNat < d.val.toNat := h
  have hbound : d.val.toNat < 0x110000 := by
    have hvalid := d.valid
    simp only [UInt32.isValidChar, Nat.isValidChar] at hvalid
    omega
  unfold String.utf8EncodeChar
  generalize c.val.toNat = m at hlt
  generalize d.val.toNat = n at hlt hbound
  -- the number of octets of either one, then the first octet that differs
  simp only
  split_ifs <;>
    simp (disch := omega) only [List.cons_append, List.nil_append, List.cons_lt_cons_iff,
      UInt8.lt_iff_toNat_lt, ← UInt8.toNat_inj, UInt8.toNat_ofNat', Nat.mod_eq_of_lt] <;> omega

theorem octetsOf_eq_flatMap (s : String) :
    octetsOf s = s.toList.flatMap String.utf8EncodeChar := by
  rw [octetsOf, String.toUTF8_eq_toByteArray, ← String.utf8Encode_toList, List.utf8Encode,
    List.data_toByteArray]

theorem flatMap_octets_lt {cs ds : List Char} (h : cs < ds) :
    cs.flatMap String.utf8EncodeChar < ds.flatMap String.utf8EncodeChar := by
  have hlex := List.lex_lt.mpr h
  clear h
  induction hlex with
  | @nil c ds =>
    rw [List.flatMap_nil, List.flatMap_cons]
    have hne : String.utf8EncodeChar c ++ ds.flatMap String.utf8EncodeChar ≠ [] := by simp
    obtain ⟨octet, rest, hrest⟩ := List.exists_cons_of_ne_nil hne
    exact hrest ▸ List.nil_lt_cons octet rest
  | rel hcd => exact octets_lt_of_lt hcd _ _
  | cons _ ih => exact List.append_left_lt ih

/-- **Texts are ordered by their octets as by their characters.** -/
theorem octetsOf_lt_iff {s t : String} : octetsOf s < octetsOf t ↔ s < t := by
  have hmono : ∀ {s t : String}, s < t → octetsOf s < octetsOf t := by
    intro s t h
    rw [octetsOf_eq_flatMap, octetsOf_eq_flatMap]
    exact flatMap_octets_lt (String.lt_iff.mp h)
  refine ⟨fun h => ?_, hmono⟩
  rcases lt_trichotomy s t with hst | rfl | hts
  · exact hst
  · exact absurd h (List.lt_irrefl _)
  · exact absurd (hmono hts) (List.lt_asymm h)

end GpuPlugin.Text
