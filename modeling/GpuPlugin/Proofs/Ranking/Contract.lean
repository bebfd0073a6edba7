import GpuPlugin.Proofs.Ranking.Sharing
import GpuPlugin.Proofs.Text.Order

/-!
# Proofs/Ranking/Contract — what a choice of replicas keeps to

A selection begins with the required ids and goes on with spare ones, as a run of picks takes them
from the candidates.  It is as long as asked for, unless more are required or fewer are there, and it
is reported with exactly the devices that it hands out more than once (`contract_select`).
-/

namespace GpuPlugin.Ranking

open Repetition

variable {available requiredIds : List String} {size : Nat}

/-! ## The selection -/

theorem map_id_required (ids : List String) : (required ids).map (·.id) = ids.eraseDups := by
  rw [required_eq_map, map_id_ofId]

theorem length_selected (available requiredIds : List String) (size : Nat) :
    (selected available requiredIds size).length
      = max requiredIds.eraseDups.length
          (min size (requiredIds ++ available).eraseDups.length) := by
  obtain ⟨picked, left, -, heq, hlength⟩ := exists_run_picks available requiredIds size
  rw [selected_eq_map_picks, heq, List.map_append, map_id_required, eraseDups_append_eq,
    List.length_append, List.length_append, List.length_map, hlength]
  omega

/-- The ids of a list that lead to a device are those of its replicas. -/
theorem filter_map_id (l : List Candidate) (device : String) :
    (l.map (·.id)).filter (Replica.deviceId · = device)
      = (l.filter (·.device == device)).map (·.id) := by
  rw [List.filter_map]
  refine congrArg (List.map Candidate.id) (List.filter_congr fun c _ => ?_)
  rw [c.device_eq, Bool.beq_eq_decide_eq]
  rfl

theorem exists_added (available requiredIds : List String) (size : Nat) :
    ∃ further, selected available requiredIds size = requiredIds.eraseDups ++ further ∧
      (∀ id ∈ further, id ∈ available ∧ id ∉ requiredIds) ∧
      ∀ device, further.filter (Replica.deviceId · = device)
        <+: (spare available requiredIds).filter (Replica.deviceId · = device) := by
  obtain ⟨picked, left, hrun, heq, -⟩ := exists_run_picks available requiredIds size
  refine ⟨picked.map (·.id), ?_, ?_, fun device => ?_⟩
  · rw [selected_eq_map_picks, heq, List.map_append, map_id_required]
  · intro id hid
    obtain ⟨c, hc, rfl⟩ := List.mem_map.mp hid
    exact mem_optional.mp (hrun.perm.subset (List.mem_append_left left hc))
  · rw [← map_id_ofId (spare available requiredIds), ← optional_eq_map, filter_map_id,
      filter_map_id, ← hrun.filter_device device, List.map_append]
    exact List.prefix_append _ _

/-! ## The answer -/

/-- How many ids of a list lead to a device. -/
def times (ids : List String) (device : String) : Nat :=
  ids.countP (Replica.deviceId · = device)

theorem times_selected (device : String) :
    times (selected available requiredIds size) device
      = load (picks available requiredIds size) device := by
  rw [times, selected_eq_map_picks, List.countP_map, load]
  refine List.countP_congr fun c _ => ?_
  simp [c.device_eq]

/-- **The devices that are reported stand in the order of their octets**, each once. -/
theorem shared_sorted (selection : List Candidate) :
    (shared selection).Pairwise (Text.octetsOf · < Text.octetsOf ·) := by
  have hnodup : (shared selection).Nodup :=
    (List.mergeSort_perm _ _).nodup_iff.mpr ((nodup_eraseDups _).filter _)
  have hsorted : (shared selection).Pairwise (fun a b => decide (a ≤ b) = true) := by
    refine List.pairwise_mergeSort (fun a b c hab hbc => ?_) (fun a b => ?_) _
    · exact decide_eq_true (le_trans (of_decide_eq_true hab) (of_decide_eq_true hbc))
    · simpa using le_total a b
  refine hsorted.imp₂ (fun a b hle hne => ?_) hnodup
  exact Text.octetsOf_lt_iff.mpr (lt_of_le_of_ne (of_decide_eq_true hle) hne)

/-- Lists in the order of their octets that have the same members are the same. -/
theorem eq_of_sorted {devices devices' : List String}
    (h : devices.Pairwise (Text.octetsOf · < Text.octetsOf ·))
    (h' : devices'.Pairwise (Text.octetsOf · < Text.octetsOf ·))
    (hmem : ∀ device, device ∈ devices ↔ device ∈ devices') : devices = devices' := by
  simp only [Text.octetsOf_lt_iff] at h h'
  have hnodup : ∀ {l : List String}, l.Pairwise (· < ·) → l.Nodup := fun hl =>
    hl.imp fun hlt => ne_of_lt hlt
  have hperm := (List.perm_ext_iff_of_nodup (hnodup h) (hnodup h')).mpr hmem
  exact hperm.eq_of_pairwise (fun a b _ _ hab hba => absurd hab (lt_asymm hba)) h h'

theorem select_of_shared_eq_nil (h : shared (picks available requiredIds size) = []) :
    select available requiredIds size = .ok (selected available requiredIds size) := by
  rw [selected_eq_map_picks, select, h]

theorem select_of_shared_ne_nil (h : shared (picks available requiredIds size) ≠ []) :
    select available requiredIds size
      = .error ⟨shared (picks available requiredIds size),
          selected available requiredIds size⟩ := by
  rw [selected_eq_map_picks, select]
  split
  next hnil => exact absurd hnil h
  next => rfl

theorem mem_shared_picks {device : String} :
    device ∈ shared (picks available requiredIds size) ↔
      2 ≤ times (selected available requiredIds size) device := by
  rw [mem_shared, times_selected]
  exact Nat.lt_iff_add_one_le

theorem shared_picks_eq_nil_iff :
    shared (picks available requiredIds size) = [] ↔
      ∀ device, times (selected available requiredIds size) device ≤ 1 := by
  simp only [List.eq_nil_iff_forall_not_mem, mem_shared_picks, Nat.not_le, Nat.lt_succ_iff]

theorem select_eq_ok_iff {ids : List String} :
    select available requiredIds size = .ok ids ↔
      ids = selected available requiredIds size ∧
        ∀ device, times (selected available requiredIds size) device ≤ 1 := by
  rw [← shared_picks_eq_nil_iff]
  by_cases h : shared (picks available requiredIds size) = []
  · rw [select_of_shared_eq_nil h, Except.ok.injEq, eq_comm, and_iff_left h]
  · rw [select_of_shared_ne_nil h]
    exact ⟨nofun, fun hids => absurd hids.2 h⟩

/-- A report of the devices that are handed out twice or more often. -/
structure Reports (selection devices : List String) : Prop where
  mem_iff : ∀ device, device ∈ devices ↔ 2 ≤ times selection device
  sorted : devices.Pairwise (Text.octetsOf · < Text.octetsOf ·)

theorem select_eq_error_iff {e : NotUnique} :
    select available requiredIds size = .error e ↔
      e.selection = selected available requiredIds size ∧
        (∃ device, 2 ≤ times (selected available requiredIds size) device) ∧
        Reports (selected available requiredIds size) e.devices := by
  obtain ⟨devices, selection⟩ := e
  have hreports : Reports (selected available requiredIds size)
      (shared (picks available requiredIds size)) :=
    ⟨fun _ => mem_shared_picks, shared_sorted _⟩
  by_cases h : shared (picks available requiredIds size) = []
  · rw [select_of_shared_eq_nil h]
    refine ⟨nofun, fun ⟨_, ⟨device, htwice⟩, _⟩ => ?_⟩
    exact absurd (shared_picks_eq_nil_iff.mp h device) (Nat.not_le.mpr htwice)
  · rw [select_of_shared_ne_nil h, Except.error.injEq, NotUnique.mk.injEq]
    constructor
    · rintro ⟨rfl, rfl⟩
      obtain ⟨device, hdevice⟩ := List.exists_mem_of_ne_nil _ h
      exact ⟨rfl, ⟨device, mem_shared_picks.mp hdevice⟩, hreports⟩
    · rintro ⟨rfl, -, hown⟩
      refine ⟨eq_of_sorted hreports.sorted hown.sorted fun device => ?_, rfl⟩
      rw [hreports.mem_iff, hown.mem_iff]

/-! ## The contract -/

/-- **What a choice of replicas keeps to**, whatever it is asked for. -/
structure Contract (available requiredIds : List String) (size : Nat) : Prop where
  nodup : (selected available requiredIds size).Nodup
  /-- What is required comes first, each id once and in the order in which it is first required.
  What is added is available and not required, and of the replicas of one device the first ones that
  are available are added, in their order. -/
  added : ∃ further, selected available requiredIds size = requiredIds.eraseDups ++ further ∧
    (∀ id ∈ further, id ∈ available ∧ id ∉ requiredIds) ∧
    ∀ device, further.filter (Replica.deviceId · = device)
      <+: (available.eraseDups.filter (· ∉ requiredIds)).filter (Replica.deviceId · = device)
  length : (selected available requiredIds size).length
    = max requiredIds.eraseDups.length (min size (requiredIds ++ available).eraseDups.length)
  /-- A selection is unique if no device is handed out twice. -/
  unique : ∀ ids, select available requiredIds size = .ok ids ↔
    ids = selected available requiredIds size ∧
      ∀ device, times (selected available requiredIds size) device ≤ 1
  /-- Otherwise it is reported, with just the devices that are handed out more often. -/
  reported : ∀ e, select available requiredIds size = .error e ↔
    e.selection = selected available requiredIds size ∧
      (∃ device, 2 ≤ times (selected available requiredIds size) device) ∧
      Reports (selected available requiredIds size) e.devices

/-- **A choice of replicas keeps to its contract**, with whatever repetitions and overlaps it is
asked for. -/
theorem contract_select (available requiredIds : List String) (size : Nat) :
    Contract available requiredIds size where
  nodup := (alternative_selected available requiredIds size).nodup
  added := exists_added available requiredIds size
  length := length_selected available requiredIds size
  unique _ := select_eq_ok_iff
  reported _ := select_eq_error_iff

end GpuPlugin.Ranking
