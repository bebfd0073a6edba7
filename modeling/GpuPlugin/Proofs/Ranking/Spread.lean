import GpuPlugin.Proofs.Ranking.Contract
import GpuPlugin.Proofs.Ranking.Redundancy

/-!
# Proofs/Ranking/Spread — as long as there are unused devices

A device that has no replica in the selection is preferred to all that have one, and its candidates
are all still there.  So the unused devices are taken one after another, each by its first replica:
those with more replicas first, and of equal ones the device that is named first.  This is a stable
sort, done once and for all (`selected_eq_ranked`).
-/

namespace GpuPlugin.Ranking

open Repetition

/-! ## Stable sorting -/

section Sorting

variable {α : Type} {S : α → α → Prop} {le : α → α → Bool}
  (trans : ∀ a b c, le a b = true → le b c = true → le a c = true)
  (total : ∀ a b, (le a b || le b a) = true)

include trans total

/-- **A stable sort keeps the order of members that tie**, whatever relation they stood in. -/
theorem pairwise_mergeSort_of_pairwise {l : List α} (h : l.Pairwise S) :
    (l.mergeSort le).Pairwise fun a b => le a b = true ∧ (le b a = true → S a b) := by
  induction l with
  | nil => simp
  | cons a l ih =>
    obtain ⟨hfirst, hrest⟩ := List.pairwise_cons.mp h
    obtain ⟨before, after, hsort, hsplit, hstrict⟩ := List.mergeSort_cons trans total a l
    have hordered := List.pairwise_mergeSort trans total (a :: l)
    have hold := ih hrest
    have hmem : ∀ b ∈ after, b ∈ l := fun b hb =>
      List.mem_mergeSort.mp (hsplit ▸ List.mem_append_right before hb)
    rw [hsort, List.pairwise_append, List.pairwise_cons] at hordered
    rw [hsplit, List.pairwise_append] at hold
    rw [hsort, List.pairwise_append, List.pairwise_cons]
    refine ⟨hold.1, ⟨fun b hb => ⟨hordered.2.1.1 b hb, fun _ => hfirst b (hmem b hb)⟩, hold.2.1⟩,
      fun b hb c hc => ?_⟩
    rcases List.mem_cons.mp hc with rfl | hc
    · refine ⟨hordered.2.2 b hb c List.mem_cons_self, fun hle => ?_⟩
      simpa [hle] using hstrict b hb
    · exact hold.2.2 b hb c hc

/-- **A list that is sorted, and keeps the order of members that tie, is the stable sort.** -/
theorem eq_mergeSort_of_perm {l l' : List α} (hperm : l'.Perm l) (h : l.Pairwise S)
    (hasymm : ∀ a b, S a b → ¬ S b a)
    (h' : l'.Pairwise fun a b => le a b = true ∧ (le b a = true → S a b)) :
    l' = l.mergeSort le := by
  refine (hperm.trans (List.mergeSort_perm l le).symm).eq_of_pairwise (fun a b _ _ hab hba => ?_) h'
    (pairwise_mergeSort_of_pairwise trans total h)
  exact absurd (hba.2 hab.1) (hasymm a b (hab.2 hba.1))

end Sorting

/-! ## Picks of unused devices -/

variable {all selection candidates picked left : List Candidate} {c : Candidate}

/-- What picking keeps of all candidates: those that are left keep their order, and those of devices
that are not in use are all left. -/
structure Keeps (all selection candidates : List Candidate) : Prop where
  sublist : candidates.Sublist all
  filter_eq : ∀ device, load selection device = 0 →
    candidates.filter (·.device == device) = all.filter (·.device == device)

theorem Keeps.pick (hkeeps : Keeps all selection candidates)
    (hnext : next? selection candidates = some c) :
    Keeps all (selection ++ [c]) (candidates.erase c) := by
  refine ⟨List.erase_sublist.trans hkeeps.sublist, fun device hload => ?_⟩
  rw [load_snoc, Nat.add_eq_zero_iff] at hload
  have hne : c.device ≠ device := by
    intro h
    rw [if_pos h] at hload
    cases hload.2
  obtain ⟨before, after, hsplit, herase, -⟩ := exists_split_of_next? hnext
  rw [← hkeeps.filter_eq device hload.1, herase, hsplit, List.filter_append, List.filter_append,
    List.filter_cons_of_neg (by simpa using hne)]

theorem Keeps.load_eq (hkeeps : Keeps all selection candidates) {device : String}
    (hunused : load selection device = 0) : load candidates device = load all device := by
  rw [load, load, List.countP_eq_length_filter, List.countP_eq_length_filter,
    hkeeps.filter_eq device hunused]

/-- **The candidate picked of an unused device is the first of its replicas.** -/
theorem Keeps.find?_eq (hkeeps : Keeps all selection candidates)
    (hnext : next? selection candidates = some c) (hunused : load selection c.device = 0) :
    all.find? (·.device == c.device) = some c := by
  obtain ⟨before, after, hsplit, -, hbetter⟩ := exists_split_of_next? hnext
  have hnone : before.filter (·.device == c.device) = [] := by
    refine List.filter_eq_nil_iff.mpr fun d hd hsame => ?_
    exact device_ne_of_before (hbetter d hd) (beq_iff_eq.mp hsame)
  rw [← List.head?_filter, ← hkeeps.filter_eq c.device hunused, hsplit, List.filter_append, hnone,
    List.nil_append, List.filter_cons_of_pos (by simp), List.head?_cons]

/-- A candidate outranks another: its device has more replicas, or it has as many and the candidate
stands first. -/
def Outranks (all : List Candidate) (S : Candidate → Candidate → Prop) (c d : Candidate) : Prop :=
  load all d.device ≤ load all c.device ∧ (load all c.device ≤ load all d.device → S c d)

/-- **The pick of an unused device outranks the candidates of all others.** -/
theorem Keeps.outranks {S : Candidate → Candidate → Prop} (hkeeps : Keeps all selection candidates)
    (hall : all.Pairwise S) (hnext : next? selection candidates = some c)
    (hunused : load selection c.device = 0) {d : Candidate} (hd : d ∈ candidates.erase c)
    (hd' : load selection d.device = 0) : Outranks all S c d := by
  obtain ⟨before, after, hsplit, herase, hbetter⟩ := exists_split_of_next? hnext
  rw [Outranks, ← hkeeps.load_eq hunused, ← hkeeps.load_eq hd']
  rw [herase] at hd
  rcases List.mem_append.mp hd with hd | hd
  · -- a device that the pick overtakes has fewer replicas
    have hkey : load selection c.device < load selection d.device ∨
        load selection c.device = load selection d.device ∧
          load candidates d.device < load candidates c.device := Key.before_iff.mp (hbetter d hd)
    omega
  · have hmem : d ∈ candidates := hsplit ▸ List.mem_append_right before (.tail c hd)
    have hkey := Key.before_eq_false_iff.mp (before_next? hnext hmem)
    refine ⟨hkey.2 (hd'.trans hunused.symm), fun _ => ?_⟩
    have hordered := hall.sublist hkeeps.sublist
    rw [hsplit, List.pairwise_append, List.pairwise_cons] at hordered
    exact hordered.2.1.1 d hd

/-- **A run that is no longer than there are unused devices takes them one by one**, each by its first
replica and by rank. -/
theorem Run.spread {S : Candidate → Candidate → Prop} (hrun : Run selection candidates picked left)
    (hkeeps : Keeps all selection candidates) (hall : all.Pairwise S) {devices : List String}
    (hnodup : devices.Nodup)
    (hunused : ∀ device ∈ devices, load selection device = 0 ∧ ∃ d ∈ candidates, d.device = device)
    (hlength : picked.length ≤ devices.length) :
    (∀ c ∈ picked, load selection c.device = 0 ∧ all.find? (·.device == c.device) = some c) ∧
      picked.Pairwise fun c d => c.device ≠ d.device ∧ Outranks all S c d := by
  induction hrun generalizing devices with
  | done => exact ⟨nofun, .nil⟩
  | @pick selection candidates picked left c hnext hrest ih =>
    rw [List.length_cons] at hlength
    obtain ⟨device, hdevice⟩ := List.exists_mem_of_length_pos (Nat.zero_lt_of_lt hlength)
    obtain ⟨hzero, d, hd, rfl⟩ := hunused device hdevice
    have hc : load selection c.device = 0 :=
      Nat.le_zero.mp (hzero ▸ load_le_of_next? hnext d hd)
    obtain ⟨hrestUnused, hrestOrdered⟩ := ih (hkeeps.pick hnext) (hnodup.erase c.device)
      (fun device hmem => by
        obtain ⟨hne, hmem⟩ := hnodup.mem_erase_iff.mp hmem
        obtain ⟨hzero, d, hd, rfl⟩ := hunused device hmem
        have hdc : d ≠ c := fun h => hne (h ▸ rfl)
        rw [load_snoc, if_neg (Ne.symm hne)]
        exact ⟨hzero, d, (List.mem_erase_of_ne hdc).mpr hd, rfl⟩)
      (by
        have hle := List.le_length_erase (l := devices) (a := c.device)
        omega)
    -- what is picked later is not of the device picked now
    have hlater : ∀ d ∈ picked, load selection d.device = 0 ∧ c.device ≠ d.device := by
      intro d hd
      have hload := (hrestUnused d hd).1
      rw [load_snoc, Nat.add_eq_zero_iff] at hload
      refine ⟨hload.1, fun h => ?_⟩
      rw [if_pos h] at hload
      cases hload.2
    refine ⟨List.forall_mem_cons.mpr ⟨⟨hc, hkeeps.find?_eq hnext hc⟩, fun d hd =>
        ⟨(hlater d hd).1, (hrestUnused d hd).2⟩⟩,
      List.pairwise_cons.mpr ⟨fun d hd => ⟨(hlater d hd).2, ?_⟩, hrestOrdered⟩⟩
    have hleft : d ∈ candidates.erase c := hrest.perm.subset (List.mem_append_left left hd)
    exact hkeeps.outranks hall hnext hc hleft (hlater d hd).1

/-! ## The unused devices of a choice -/

variable {available requiredIds : List String} {size : Nat} {device : String}

/-- **The unused devices**: a replica of each is available and none is required.  They are in the
order in which they are first named. -/
def unused (available requiredIds : List String) : List String :=
  (available.map Replica.deviceId).eraseDups.filter (· ∉ requiredIds.map Replica.deviceId)

theorem mem_unused :
    device ∈ unused available requiredIds ↔
      device ∈ available.map Replica.deviceId ∧ device ∉ requiredIds.map Replica.deviceId := by
  rw [unused, List.mem_filter, List.mem_eraseDups, decide_eq_true_iff]

theorem nodup_unused (available requiredIds : List String) :
    (unused available requiredIds).Nodup :=
  (nodup_eraseDups _).filter _

/-- How many different replicas of a device are available. -/
def copies (available : List String) (device : String) : Nat := times available.eraseDups device

/-- The first replica of a device that is available. -/
def firstReplica? (available : List String) (device : String) : Option String :=
  available.find? (Replica.deviceId · = device)

/-- **The unused devices by rank**: more replicas come first, and of equal ones the device that is
named first. -/
def ranked (available requiredIds : List String) : List String :=
  (unused available requiredIds).mergeSort fun d e => decide (copies available e ≤ copies available d)

/-- A device is not in use from the beginning if none of its replicas is required. -/
theorem load_required_eq_zero_iff :
    load (required requiredIds) device = 0 ↔ device ∉ requiredIds.map Replica.deviceId := by
  rw [load, List.countP_eq_zero, required_eq_map, List.forall_mem_map]
  simp only [List.mem_eraseDups, Candidate.ofId, beq_iff_eq, List.mem_map, not_exists, not_and]

section Unused

variable (hunused : device ∉ requiredIds.map Replica.deviceId)

include hunused

/-- All available replicas of an unused device are spare. -/
theorem filter_spare :
    (spare available requiredIds).filter (Replica.deviceId · = device)
      = available.eraseDups.filter (Replica.deviceId · = device) := by
  rw [spare, List.filter_filter]
  refine List.filter_congr fun id _ => ?_
  by_cases hid : Replica.deviceId id = device
  · have hnot : id ∉ requiredIds := fun h => hunused (List.mem_map.mpr ⟨id, h, hid⟩)
    simp [hid, hnot]
  · simp [hid]

theorem filter_optional :
    ((optional available (required requiredIds)).filter (·.device == device)).map (·.id)
      = available.eraseDups.filter (Replica.deviceId · = device) := by
  rw [← filter_map_id, optional_eq_map, map_id_ofId, filter_spare hunused]

theorem load_optional :
    load (optional available (required requiredIds)) device = copies available device := by
  rw [copies, times, List.countP_eq_length_filter, ← filter_optional hunused, List.length_map, load,
    List.countP_eq_length_filter]

/-- The first candidate of an unused device is its first available replica. -/
theorem firstReplica?_eq_some
    (hfirst : (optional available (required requiredIds)).find? (·.device == device) = some c) :
    firstReplica? available device = some c.id := by
  rw [firstReplica?, ← find?_eraseDups, ← List.head?_filter, ← filter_optional hunused,
    List.head?_map, List.head?_filter, hfirst]
  rfl

end Unused

/-- A device is first named by its first replica. -/
theorem idxOf_map_deviceId {id : String} (hfirst : firstReplica? available device = some id) :
    (available.map Replica.deviceId).idxOf device = available.idxOf id := by
  obtain ⟨hid, before, after, rfl, hbefore⟩ := List.find?_eq_some_iff_append.mp hfirst
  obtain rfl := of_decide_eq_true hid
  have hother : ∀ other ∈ before, Replica.deviceId other ≠ Replica.deviceId id := by
    simpa using hbefore
  have hid : id ∉ before := fun h => hother id h rfl
  have hdevice : Replica.deviceId id ∉ before.map Replica.deviceId := by
    rintro h
    obtain ⟨other, hmem, hsame⟩ := List.mem_map.mp h
    exact hother other hmem hsame
  rw [List.map_append, List.map_cons, List.idxOf_append_of_notMem hdevice,
    List.idxOf_append_of_notMem hid, List.idxOf_cons_self, List.idxOf_cons_self, List.length_map]

/-- The candidates stand in the order in which their ids are first available. -/
theorem pairwise_optional (available requiredIds : List String) :
    (optional available (required requiredIds)).Pairwise
      fun c d => available.idxOf c.id < available.idxOf d.id := by
  rw [optional_eq_map, List.pairwise_map]
  exact (pairwise_idxOf_eraseDups available).sublist List.filter_sublist

/-- Each unused device has a spare replica. -/
theorem exists_mem_optional (hdevice : device ∈ unused available requiredIds) :
    ∃ c ∈ optional available (required requiredIds), c.device = device := by
  obtain ⟨hnamed, hnot⟩ := mem_unused.mp hdevice
  obtain ⟨id, hid, rfl⟩ := List.mem_map.mp hnamed
  have hnot : id ∉ requiredIds := fun h => hnot (List.mem_map_of_mem h)
  exact ⟨Candidate.ofId id, mem_optional.mpr ⟨hid, hnot⟩, rfl⟩

/-- There are no more unused devices than spare replicas. -/
theorem length_unused_le (available requiredIds : List String) :
    (unused available requiredIds).length ≤ (spare available requiredIds).length := by
  have hsubset : unused available requiredIds
      ⊆ (optional available (required requiredIds)).map (·.device) := by
    intro device hdevice
    obtain ⟨c, hc, rfl⟩ := exists_mem_optional hdevice
    exact List.mem_map_of_mem hc
  have hle := ((nodup_unused available requiredIds).subperm hsubset).length_le
  rwa [optional_eq_map, List.length_map, List.length_map] at hle

/-! ## The ranking -/

/-- **The unused devices are ranked** if those with more replicas come first, and of equal ones those
that are named first. -/
theorem eq_ranked {devices : List String} (hperm : devices.Perm (unused available requiredIds))
    (hordered : devices.Pairwise fun d e => copies available e ≤ copies available d ∧
      (copies available d ≤ copies available e →
        (available.map Replica.deviceId).idxOf d < (available.map Replica.deviceId).idxOf e)) :
    devices = ranked available requiredIds := by
  refine eq_mergeSort_of_perm (S := fun d e => (available.map Replica.deviceId).idxOf d
    < (available.map Replica.deviceId).idxOf e) ?_ ?_ hperm ?_ (fun _ _ => Nat.lt_asymm) ?_
  · exact fun a b c hab hbc =>
      decide_eq_true ((of_decide_eq_true hbc).trans (of_decide_eq_true hab))
  · exact fun a b => by simpa using Nat.le_total _ _
  · exact (pairwise_idxOf_eraseDups _).filter _
  · exact hordered.imp fun ⟨hmore, hearlier⟩ =>
      ⟨decide_eq_true hmore, fun hle => hearlier (of_decide_eq_true hle)⟩

/-- **With one pick for each unused device, the devices are taken by rank.** -/
theorem selected_all_unused (available requiredIds : List String) :
    selected available requiredIds
        (requiredIds.eraseDups.length + (unused available requiredIds).length)
      = requiredIds.eraseDups ++
        (ranked available requiredIds).filterMap (firstReplica? available) := by
  obtain ⟨picked, left, hrun, heq, hlength⟩ := exists_run_picks available requiredIds
    (requiredIds.eraseDups.length + (unused available requiredIds).length)
  rw [Nat.add_sub_cancel_left, Nat.min_eq_left (length_unused_le available requiredIds)] at hlength
  obtain ⟨hfirst, hordered⟩ := hrun.spread ⟨.refl _, fun _ _ => rfl⟩
    (pairwise_optional available requiredIds) (nodup_unused available requiredIds)
    (fun device hdevice => ⟨load_required_eq_zero_iff.mpr (mem_unused.mp hdevice).2,
      exists_mem_optional hdevice⟩) hlength.le
  have hunused : ∀ c ∈ picked, c.device ∉ requiredIds.map Replica.deviceId := fun c hc =>
    load_required_eq_zero_iff.mp (hfirst c hc).1
  have hreplica : ∀ c ∈ picked, firstReplica? available c.device = some c.id := fun c hc =>
    firstReplica?_eq_some (hunused c hc) (hfirst c hc).2
  have hperm : (picked.map (·.device)).Perm (unused available requiredIds) := by
    have hnodup : (picked.map (·.device)).Nodup :=
      List.pairwise_map.mpr (hordered.imp And.left)
    refine (hnodup.subperm fun device hdevice => ?_).perm_of_length_le ?_
    · obtain ⟨c, hc, rfl⟩ := List.mem_map.mp hdevice
      have hid : c.id ∈ available := List.mem_of_find?_eq_some (hreplica c hc)
      exact mem_unused.mpr ⟨c.device_eq ▸ List.mem_map_of_mem hid, hunused c hc⟩
    · rw [List.length_map, hlength]
  have hsort : picked.map (·.device) = ranked available requiredIds := by
    refine eq_ranked hperm (List.pairwise_map.mpr ?_)
    refine hordered.imp_of_mem fun {c d} hc hd h => ?_
    have hrank := h.2
    rwa [Outranks, load_optional (hunused c hc), load_optional (hunused d hd),
      ← idxOf_map_deviceId (hreplica c hc), ← idxOf_map_deviceId (hreplica d hd)] at hrank
  rw [selected_eq_map_picks, heq, List.map_append, map_id_required, ← hsort, List.filterMap_map,
    List.filterMap_congr (g := fun c => some c.id) hreplica, List.filterMap_eq_map']

/-- **While unused devices remain, a choice is a stable sort.**  What is added to the required ids are
the first replicas of the unused devices by rank, as many as are asked for. -/
theorem selected_eq_ranked (available requiredIds : List String) (size : Nat)
    (hsize : size ≤ requiredIds.eraseDups.length + (unused available requiredIds).length) :
    selected available requiredIds size
      = requiredIds.eraseDups ++
        ((ranked available requiredIds).filterMap (firstReplica? available)).take
          (size - requiredIds.eraseDups.length) := by
  have hlength : (selected available requiredIds size).length
      = requiredIds.eraseDups.length + (size - requiredIds.eraseDups.length) := by
    have hle := length_unused_le available requiredIds
    rw [length_selected, eraseDups_append_eq, List.length_append]
    omega
  rw [List.prefix_iff_eq_take.mp (selected_grows hsize available requiredIds), hlength,
    selected_all_unused, List.take_length_add_append]

/-- Of three unused devices two have equally many replicas, one of which is available twice; the
device named first has fewer, and a fourth one is in use. -/
theorem selected_eq_ranked_of_ties :
    let available := ["c::0", "b::1", "a::0", "b::1", "d::0", "a::1", "b::0"]
    let requiredIds := ["d::1", "d::1"]
    3 ≤ requiredIds.eraseDups.length + (unused available requiredIds).length ∧
      ranked available requiredIds = ["b", "a", "c"] ∧
      selected available requiredIds 3 = ["d::1", "b::1", "a::0"] := by
  intro available requiredIds
  have hsize : 3 ≤ requiredIds.eraseDups.length + (unused available requiredIds).length := by
    decide +kernel
  have hunused : unused available requiredIds = ["c", "b", "a"] := by decide +kernel
  have hcopies : ["a", "b", "c"].map (copies available) = [2, 2, 1] := by decide +kernel
  have hranked : ranked available requiredIds = ["b", "a", "c"] := by
    simp only [List.map_cons, List.cons.injEq] at hcopies
    simp [ranked, hunused, List.mergeSort, hcopies]
  have hselected := selected_eq_ranked available requiredIds 3 hsize
  rw [hranked] at hselected
  exact ⟨hsize, hranked, hselected.trans (by decide +kernel)⟩

end GpuPlugin.Ranking
