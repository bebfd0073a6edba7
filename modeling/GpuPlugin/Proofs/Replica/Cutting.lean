import GpuPlugin.Proofs.Replica.Naming
import GpuPlugin.Proofs.Repetition

/-!
# Proofs/Replica/Cutting — cutting an id at its last separator

A separator may overlap another one, and may stand in the id of a device.  The last one is the one
that has neither a separator nor a colon after it (`splitLast_eq_some_iff`); where there is none the
id is left as it is.  So naming a replica and cutting its name undo each other as far as they can
(`inverts`): a replica leads back to its device, and any id is put together again from what it is
cut to and the rest of it.
-/

namespace GpuPlugin.Replica

variable {l before after : List Char}

/-! ## Where a text is cut -/

theorem splitLast_cons_ne_none {c : Char} (h : splitLast l ≠ none) : splitLast (c :: l) ≠ none := by
  obtain ⟨⟨before, after⟩, hsome⟩ := Option.ne_none_iff_exists'.mp h
  rw [splitLast_cons_of_some hsome]
  exact Option.some_ne_none _

/-- Wherever there is a separator, there is a last one. -/
theorem splitLast_ne_none (before after : List Char) :
    splitLast (before ++ ':' :: ':' :: after) ≠ none := by
  induction before with
  | nil =>
    rw [List.nil_append]
    cases hrest : splitLast (':' :: after) with
    | none =>
      rw [splitLast, hrest]
      exact Option.some_ne_none _
    | some parts => exact splitLast_cons_ne_none (hrest ▸ Option.some_ne_none parts)
  | cons c cs ih => exact splitLast_cons_ne_none ih

theorem splitLast_eq_none_iff : splitLast l = none ↔ ¬ separator.toList <:+: l := by
  refine ⟨?_, splitLast_of_not_infix⟩
  rintro hnone ⟨before, after, rfl⟩
  rw [List.append_assoc] at hnone
  exact splitLast_ne_none before after hnone

theorem splitLast_colon_cons_eq_none_iff :
    splitLast (':' :: l) = none ↔ splitLast l = none ∧ l.head? ≠ some ':' := by
  constructor
  · intro hnone
    refine ⟨by_contra fun h => splitLast_cons_ne_none h hnone, fun hhead => ?_⟩
    obtain ⟨rest, rfl⟩ := List.head?_eq_some_iff.mp hhead
    exact splitLast_ne_none [] rest hnone
  · rintro ⟨hnone, hhead⟩
    exact splitLast_colon_cons hnone hhead

/-- **A text is cut at the separator with none after it**, and no colon right after it. -/
theorem splitLast_eq_some_iff : splitLast l = some (before, after) ↔
    l = before ++ ':' :: ':' :: after ∧ splitLast after = none ∧ after.head? ≠ some ':' := by
  constructor
  · intro h
    induction l generalizing before with
    | nil => cases h
    | cons c cs ih =>
      cases hcs : splitLast cs with
      | some parts =>
        rw [splitLast_cons_of_some hcs] at h
        obtain ⟨rfl, rfl⟩ := Prod.mk.inj (Option.some.inj h)
        obtain ⟨rfl, hlast⟩ := ih hcs
        exact ⟨rfl, hlast⟩
      | none =>
        unfold splitLast at h
        simp only [hcs] at h
        split at h
        next rest =>
          obtain ⟨rfl, rfl⟩ := Prod.mk.inj (Option.some.inj h)
          exact ⟨rfl, splitLast_colon_cons_eq_none_iff.mp hcs⟩
        next => cases h
  · rintro ⟨rfl, hnone, hhead⟩
    exact splitLast_append hnone hhead

/-! ## Ids -/

/-- What is left of an id after its last separator: no other separator, and no colon that would
overlap it. -/
def IsLast (rest : String) : Prop := ¬ HasSeparator rest ∧ rest.toList.head? ≠ some ':'

theorem isLast_iff {rest : String} :
    IsLast rest ↔ splitLast rest.toList = none ∧ rest.toList.head? ≠ some ':' := by
  rw [IsLast, HasSeparator, splitLast_eq_none_iff]

theorem toList_parted (device rest : String) :
    (device ++ separator ++ rest).toList = device.toList ++ ':' :: ':' :: rest.toList := by
  rw [String.toList_append, String.toList_append, List.append_assoc]
  rfl

/-- **An id that is parted at its last separator is cut to what stands before it.** -/
theorem deviceId_parted (device : String) {rest : String} (hlast : IsLast rest) :
    deviceId (device ++ separator ++ rest) = device := by
  obtain ⟨hnone, hhead⟩ := isLast_iff.mp hlast
  rw [deviceId, toList_parted, splitLast_append hnone hhead]
  exact String.ofList_toList

/-- **An id with a separator is put together again** from what it is cut to and the rest. -/
theorem exists_parted {id : String} (h : HasSeparator id) :
    ∃ rest, id = deviceId id ++ separator ++ rest ∧ IsLast rest := by
  obtain ⟨⟨before, after⟩, hsplit⟩ := Option.ne_none_iff_exists'.mp
    (mt splitLast_eq_none_iff.mp (not_not_intro h))
  obtain ⟨hid, hlast⟩ := splitLast_eq_some_iff.mp hsplit
  refine ⟨String.ofList after, ?_, ?_⟩
  · rw [deviceId, hsplit, ← String.toList_inj, toList_parted, String.toList_ofList,
      String.toList_ofList, hid]
  · rwa [isLast_iff, String.toList_ofList]

/-! ## Naming and cutting -/

/-- **Ways to name replicas and to cut names that undo each other**, for one id and for a list. -/
structure Inverts (name : String → Nat → String) (cut : String → String)
    (cutAll : List String → List String) : Prop where
  /-- A replica's name is cut to its device. -/
  cut_name : ∀ device index, cut (name device index) = device
  /-- A name belongs to one device and one index. -/
  name_inj : ∀ device index device' index',
    name device index = name device' index' → device = device' ∧ index = index'
  /-- An id without a separator is cut to itself; any other one is parted at its last separator. -/
  parted : ∀ id, ¬ HasSeparator id ∧ cut id = id ∨
    ∃ rest, id = cut id ++ separator ++ rest ∧ IsLast rest
  /-- There is no other way to part an id. -/
  unique : ∀ device rest, IsLast rest → cut (device ++ separator ++ rest) = device
  /-- A list is cut to the first occurrences of what its ids are cut to. -/
  cutAll : ∀ ids, Repetition.FirstOccurrences (ids.map cut) (cutAll ids)

/-- **Naming a replica and cutting its name undo each other**, for any device and any id. -/
theorem inverts : Inverts id deviceId deviceIds where
  cut_name := deviceId_id
  name_inj _ _ _ _ := id_inj.mp
  parted id := by
    by_cases h : HasSeparator id
    · exact .inr (exists_parted h)
    · exact .inl ⟨h, deviceId_of_not_hasSeparator h⟩
  unique device _ := deviceId_parted device
  cutAll ids := Repetition.firstOccurrences_eraseDups (ids.map deviceId)

/-- Separators that overlap, at the end of a device's id and alone. -/
example : ["a:::0", "::::", ":::", "a::b", "a:"].map deviceId = ["a:", "::", ":", "a", "a:"] := by
  decide +kernel

end GpuPlugin.Replica
