import GpuPlugin.Proofs.Ranking.Selection

/-!
# Proofs/Ranking/Redundancy — what a choice does not depend on

Picks are made one after another, so whoever asks for more replicas gets the same ones first
(`selected_grows`).  And a choice depends on nothing but the first occurrences of the required ids
and those of the spare ones (`select_congr`): repetitions, and required ids among the available ones,
make no difference to it.
-/

namespace GpuPlugin.Ranking

open Repetition

variable {available available' requiredIds requiredIds' : List String} {n m : Nat}

/-! ## Asking for more -/

/-- **More picks come after the same picks.** -/
theorem extend_grows (h : n ≤ m) (selection candidates : List Candidate) :
    extend n selection candidates <+: extend m selection candidates := by
  induction n generalizing m selection candidates with
  | zero =>
    obtain ⟨picked, left, -, heq, -⟩ := exists_run m selection candidates
    exact ⟨picked, heq.symm⟩
  | succ n ih =>
    obtain ⟨k, rfl⟩ : ∃ k, m = k + 1 := Nat.exists_eq_add_one.mpr (Nat.zero_lt_of_lt h)
    rw [extend, extend]
    split
    next => exact List.prefix_refl _
    next c _ => exact ih (Nat.le_of_succ_le_succ h) (selection ++ [c]) (candidates.erase c)

theorem selected_grows (h : n ≤ m) (available requiredIds : List String) :
    selected available requiredIds n <+: selected available requiredIds m := by
  rw [selected_eq_map_picks, selected_eq_map_picks]
  refine List.IsPrefix.map _ (extend_grows ?_ _ _)
  exact Nat.sub_le_sub_right h _

/-! ## Redundant ids -/

/-- **A choice depends on the required and the spare ids**, each taken once. -/
theorem select_congr (hrequired : requiredIds'.eraseDups = requiredIds.eraseDups)
    (hspare : spare available' requiredIds' = spare available requiredIds) (size : Nat) :
    select available' requiredIds' size = select available requiredIds size := by
  have hpicks : picks available' requiredIds' size = picks available requiredIds size := by
    rw [picks, picks, optional_eq_map, optional_eq_map, required_eq_map, required_eq_map,
      hrequired, hspare]
  rw [select, select, hpicks]

/-- What is spare does not depend on how often an id is required. -/
theorem spare_congr_required (h : ∀ id, id ∈ requiredIds' ↔ id ∈ requiredIds) :
    spare available requiredIds' = spare available requiredIds := by
  simp only [spare, h]

theorem spare_eraseDups (available requiredIds : List String) :
    spare available.eraseDups requiredIds = spare available requiredIds := by
  rw [spare, eraseDups_eraseDups, spare]

/-- Required ids are not spare, whether they are available or not. -/
theorem spare_filter (available requiredIds : List String) :
    spare (available.filter (· ∉ requiredIds)) requiredIds = spare available requiredIds := by
  rw [spare, ← filter_eraseDups, List.filter_filter, spare]
  simp only [Bool.and_self]

/-- **A choice grows with what is asked for and ignores what is redundant.**  Whoever asks for more
replicas is given the same ones first.  An answer, reported or not, is the same for all lists with
the same first occurrences of required and of spare ids: also when repetitions are left out of the
available or of the required ids, and when the required ids are no longer available. -/
theorem select_incremental (available requiredIds : List String) :
    (∀ n m, n ≤ m →
      selected available requiredIds n <+: selected available requiredIds m) ∧
    (∀ available' requiredIds', requiredIds'.eraseDups = requiredIds.eraseDups →
      available'.eraseDups.filter (· ∉ requiredIds')
        = available.eraseDups.filter (· ∉ requiredIds) →
      ∀ size, select available' requiredIds' size = select available requiredIds size) ∧
    ∀ size,
      select available.eraseDups requiredIds size = select available requiredIds size ∧
      select available requiredIds.eraseDups size = select available requiredIds size ∧
      select (available.filter (· ∉ requiredIds)) requiredIds size
        = select available requiredIds size ∧
      select (available.filter (· ∉ requiredIds)).eraseDups requiredIds.eraseDups size
        = select available requiredIds size := by
  have honce : requiredIds.eraseDups.eraseDups = requiredIds.eraseDups := eraseDups_eraseDups _
  refine ⟨fun n m h => selected_grows h available requiredIds,
    fun available' requiredIds' hrequired hspare => select_congr hrequired hspare,
    fun size => ⟨?_, ?_, ?_, ?_⟩⟩
  · exact select_congr rfl (spare_eraseDups available requiredIds) size
  · exact select_congr honce (spare_congr_required fun _ => List.mem_eraseDups) size
  · exact select_congr rfl (spare_filter available requiredIds) size
  · refine select_congr honce ?_ size
    rw [spare_congr_required (fun _ => List.mem_eraseDups), spare_eraseDups, spare_filter]

/-- A required replica that is also available, and another one that is available twice. -/
theorem select_incremental_of_overlap :
    let available := ["a::0", "b::1", "b::0", "a::0", "a::1"]
    let requiredIds := ["b::1", "b::1"]
    1 ≤ 3 ∧ selected available requiredIds 1 <+: selected available requiredIds 3 ∧
      selected available requiredIds 3 = ["b::1", "a::0", "b::0"] ∧
      select ["a::0", "b::0", "a::1"] ["b::1"] 3 = select available requiredIds 3 := by
  intro available requiredIds
  obtain ⟨hgrows, hcongr, -⟩ := select_incremental available requiredIds
  have hthree : selected available requiredIds 3 = ["b::1", "a::0", "b::0"] := by
    rw [selected_eq_map_picks]
    decide +kernel
  exact ⟨by decide, hgrows 1 3 (by decide), hthree,
    hcongr _ _ (by decide) (by decide) 3⟩

end GpuPlugin.Ranking
