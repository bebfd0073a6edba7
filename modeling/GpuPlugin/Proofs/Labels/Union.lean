import GpuPlugin.Labels
import Mathlib.Data.List.Nodup
import Mathlib.Data.List.Perm.Basic
import Mathlib.Data.String.Basic

/-!
# Proofs/Labels/Union — labels laid over labels

Labels are what is found under their names (`ext_get?`).  So entries with different names can be put
in in any order, and labels can be laid over others: what is found under a name is found in the
upper ones, or else in the lower ones (`get?_union`).
-/

namespace GpuPlugin.Labels

variable {m m' : Labels} {k n v : String}

/-! ## Entries and names -/

theorem mem_iff_lookup {l : List (String × String)} (h : l.Pairwise (·.1 < ·.1)) :
    (k, v) ∈ l ↔ l.lookup k = some v := by
  induction l with
  | nil => simp
  | cons e l ih =>
    obtain ⟨hfirst, hrest⟩ := List.pairwise_cons.mp h
    obtain ⟨n, t⟩ := e
    rw [List.mem_cons, List.lookup_cons, ih hrest]
    by_cases hkn : k = n
    · subst hkn
      have hnone : (k, v) ∉ l := fun hmem => lt_irrefl k (hfirst _ hmem)
      rw [ih hrest] at hnone
      simp [hnone, eq_comm]
    · have hbeq : (k == n) = false := beq_false_of_ne hkn
      simp [hkn, hbeq]

theorem mem_entries_iff : (k, v) ∈ m.entries ↔ m.get? k = some v :=
  mem_iff_lookup m.sorted

theorem nodup_entries (m : Labels) : m.entries.Nodup := by
  refine m.sorted.imp ?_
  rintro a b hlt rfl
  exact lt_irrefl _ hlt

/-- **Labels are equal if the same is found under each name.** -/
theorem ext_get? (h : ∀ k, m.get? k = m'.get? k) : m = m' := by
  have hperm : m.entries.Perm m'.entries := by
    refine (List.perm_ext_iff_of_nodup m.nodup_entries m'.nodup_entries).mpr ?_
    rintro ⟨k, v⟩
    rw [mem_entries_iff, mem_entries_iff, h]
  have hentries : m.entries = m'.entries :=
    hperm.eq_of_pairwise (fun a b _ _ hab hba => absurd hab (lt_asymm hba)) m.sorted m'.sorted
  obtain ⟨l, hl⟩ := m
  obtain ⟨l', hl'⟩ := m'
  obtain rfl : l = l' := hentries
  rfl

theorem get?_insert (m : Labels) (k n v : String) :
    (m.insert k v).get? n = if n = k then some v else m.get? n := by
  split_ifs with h
  · rw [h, get?_insert_self]
  · exact get?_insert_of_ne m v h

/-- **Entries with different names can be put in in any order.** -/
theorem insert_comm (m : Labels) {k k' : String} (v v' : String) (h : k ≠ k') :
    (m.insert k v).insert k' v' = (m.insert k' v').insert k v := by
  refine ext_get? fun n => ?_
  simp only [get?_insert]
  split_ifs with hk' hk hk
  · exact absurd (hk.symm.trans hk') h
  all_goals rfl

/-! ## Union -/

/-- Put in entries, one after another. -/
def insertAll (m : Labels) (l : List (String × String)) : Labels :=
  l.foldl (fun m e => m.insert e.1 e.2) m

/-- **Labels over other labels.** -/
def union (m upper : Labels) : Labels := m.insertAll upper.entries

theorem get?_insertAll {l : List (String × String)} (h : l.Pairwise (·.1 < ·.1)) (m : Labels)
    (k : String) : (m.insertAll l).get? k = (l.lookup k).or (m.get? k) := by
  induction l generalizing m with
  | nil => rfl
  | cons e l ih =>
    obtain ⟨hfirst, hrest⟩ := List.pairwise_cons.mp h
    obtain ⟨n, t⟩ := e
    have hstep := ih hrest (m.insert n t)
    rw [insertAll, List.foldl_cons]
    refine hstep.trans ?_
    rw [get?_insert, List.lookup_cons]
    split_ifs with hkn
    · subst hkn
      have hnone : l.lookup k = none := by
        refine Option.eq_none_iff_forall_ne_some.mpr fun v hv => ?_
        exact lt_irrefl k (hfirst _ ((mem_iff_lookup hrest).mpr hv))
      simp [hnone]
    · have hbeq : (k == n) = false := beq_false_of_ne hkn
      simp [hbeq]

theorem get?_union (m upper : Labels) (k : String) :
    (m.union upper).get? k = (upper.get? k).or (m.get? k) :=
  get?_insertAll upper.sorted m k

theorem empty_union (m : Labels) : (∅ : Labels).union m = m := by
  refine ext_get? fun k => ?_
  rw [get?_union]
  exact Option.or_none

/-- The entries of labels can be put in in any order. -/
theorem insertAll_of_perm {l : List (String × String)} {upper : Labels}
    (h : l.Perm upper.entries) (m : Labels) : m.insertAll l = m.union upper := by
  refine h.foldl_eq' ?_ m
  rintro ⟨k, v⟩ hk ⟨k', v'⟩ hk' z
  by_cases hkk : k = k'
  · subst hkk
    have hv := mem_entries_iff.mp (h.subset hk)
    have hv' := mem_entries_iff.mp (h.subset hk')
    obtain rfl := Option.some.inj (hv.symm.trans hv')
    rfl
  · exact insert_comm z v v' hkk

end GpuPlugin.Labels
