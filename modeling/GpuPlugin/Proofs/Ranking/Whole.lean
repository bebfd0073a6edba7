import GpuPlugin.Proofs.Ranking.Contract

/-!
# Proofs/Ranking/Whole — choosing among devices that are not split

Where every candidate is the only one of its device, and its device is not in use, all candidates
have the same key.  Each pick is then the first candidate that is left (`Run.append_eq_of_nodup`).
So of ids that are cut to themselves a choice takes the required ones and then the spare ones in
order, and it never hands a device out twice (`select_of_whole`).
-/

namespace GpuPlugin.Ranking

variable {selection candidates picked left : List Candidate} {c : Candidate}

/-! ## Candidates of different devices -/

/-- **Candidates of different devices tie**: no device is in use, and of each there is one left. -/
theorem key_of_nodup (hnodup : ((selection ++ candidates).map (·.device)).Nodup)
    (hc : c ∈ candidates) : key selection candidates c = ⟨0, 1⟩ := by
  rw [List.map_append, List.nodup_append] at hnodup
  obtain ⟨-, hcandidates, hapart⟩ := hnodup
  have hdevice : c.device ∈ candidates.map (·.device) := List.mem_map_of_mem hc
  have hused : load selection c.device = 0 := by
    rw [← count_map_device]
    exact List.count_eq_zero_of_not_mem fun hmem => hapart _ hmem _ hdevice rfl
  have hfree : load candidates c.device = 1 := by
    rw [← count_map_device]
    exact List.count_eq_one_of_mem hcandidates hdevice
  exact congrArg₂ Key.mk hused hfree

/-- The next pick is then the first candidate. -/
theorem eq_cons_of_next? (hnodup : ((selection ++ candidates).map (·.device)).Nodup)
    (hnext : next? selection candidates = some c) : ∃ rest,
      candidates = c :: rest ∧ candidates.erase c = rest := by
  obtain ⟨before, after, hsplit, herase, hbetter⟩ := exists_split_of_next? hnext
  obtain rfl : before = [] := by
    refine List.eq_nil_iff_forall_not_mem.mpr fun d hd => ?_
    have hmem : d ∈ candidates := hsplit ▸ List.mem_append_left _ hd
    have hbefore := hbetter d hd
    rw [key_of_nodup hnodup (mem_of_next? hnext), key_of_nodup hnodup hmem, Key.before_self]
      at hbefore
    cases hbefore
  exact ⟨after, hsplit, herase⟩

/-- **A run picks candidates of different devices in their order.** -/
theorem Run.append_eq_of_nodup (hrun : Run selection candidates picked left)
    (hnodup : ((selection ++ candidates).map (·.device)).Nodup) : picked ++ left = candidates := by
  induction hrun with
  | done => rfl
  | @pick selection candidates picked left c hnext _ ih =>
    obtain ⟨rest, rfl, herase⟩ := eq_cons_of_next? hnodup hnext
    rw [herase, List.append_assoc, List.singleton_append] at ih
    rw [List.cons_append, ih hnodup]

/-! ## Ids of whole devices -/

section Whole

variable {available requiredIds : List String}
  (hwhole : ∀ id ∈ requiredIds ++ available, Replica.deviceId id = id)

include hwhole

/-- The candidates are of different devices if their ids are those of devices. -/
theorem nodup_map_device_pool :
    ((pool available requiredIds).map (·.device)).Nodup := by
  rw [pool_eq_map, map_device_ofId, List.map_congr_left (g := id), List.map_id]
  · exact Repetition.nodup_eraseDups _
  · exact fun id hid => hwhole id (List.mem_eraseDups.mp hid)

/-- **Whole devices are chosen in order**: the required ones and then the spare ones. -/
theorem selected_of_whole (size : Nat) :
    selected available requiredIds size
      = requiredIds.eraseDups ++
        (spare available requiredIds).take (size - requiredIds.eraseDups.length) := by
  obtain ⟨picked, left, hrun, heq, hlength⟩ := exists_run_picks available requiredIds size
  have hpicked : picked ++ left = optional available (required requiredIds) :=
    hrun.append_eq_of_nodup (nodup_map_device_pool hwhole)
  have hprefix : picked.map (·.id) <+: spare available requiredIds := by
    rw [← map_id_ofId (spare available requiredIds), ← optional_eq_map, ← hpicked, List.map_append]
    exact List.prefix_append _ _
  rw [selected_eq_map_picks, heq, List.map_append, map_id_required,
    List.prefix_iff_eq_take.mp hprefix, List.length_map, hlength, ← List.take_eq_take_min]

theorem times_selected_le_one (size : Nat) (device : String) :
    times (selected available requiredIds size) device ≤ 1 := by
  obtain ⟨-, left, -, hperm⟩ := exists_picks_append_perm available requiredIds size
  have hnodup := (hperm.map (·.device)).nodup_iff.mpr (nodup_map_device_pool hwhole)
  rw [List.map_append] at hnodup
  rw [times_selected, ← count_map_device]
  exact List.nodup_iff_count_le_one.mp hnodup.of_append_left device

/-- **A choice of whole devices hands none out twice.** -/
theorem select_of_whole (size : Nat) :
    select available requiredIds size
      = .ok (requiredIds.eraseDups ++
          (spare available requiredIds).take (size - requiredIds.eraseDups.length)) :=
  select_eq_ok_iff.mpr ⟨(selected_of_whole hwhole size).symm, times_selected_le_one hwhole size⟩

end Whole

end GpuPlugin.Ranking
