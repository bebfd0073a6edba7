import GpuPlugin.Proofs.Ranking.Selection
import Mathlib.Data.Finset.Lattice.Fold
import Mathlib.Data.List.Nodup
import Mathlib.Data.List.Perm.Subperm
import Mathlib.Order.Lattice.Nat

/-!
# Proofs/Ranking/Sharing — no choice shares devices less

The **load** of a device is the number of replicas of it in a list, and the sharing of a list is its
largest load.  A pick goes to a device whose load is least among those with a replica left.  So when
a pick raises the largest load, every other list of that length that fits into this load would have
to be longer than what there is (`Thrifty.snoc`), and no list that could be handed out in its place
shares less than a selection (`sharing_least`).
-/

namespace GpuPlugin.Ranking

open Repetition (nodup_eraseDups)

/-! ## Loads -/

/-- How many members of a list are replicas of a device. -/
def load (l : List Candidate) (device : String) : Nat := l.countP (·.device == device)

variable {req all selection candidates t : List Candidate} {c : Candidate} {n : Nat}

theorem count_map_device (l : List Candidate) (device : String) :
    (l.map (·.device)).count device = load l device := by
  rw [List.count_eq_countP, List.countP_map]
  rfl

theorem load_snoc (l : List Candidate) (c : Candidate) (device : String) :
    load (l ++ [c]) device = load l device + if c.device = device then 1 else 0 := by
  rw [load, List.countP_append, List.countP_singleton]
  simp only [beq_iff_eq]
  rfl

/-- A list without repetitions has no larger loads than one that has all its replicas. -/
theorem load_le_of_subset {device : String} (hnodup : t.Nodup)
    (hsubset : ∀ c ∈ t, c.device = device → c ∈ selection) :
    load t device ≤ load selection device := by
  have hfilter : t.filter (·.device == device) ⊆ selection.filter (·.device == device) := by
    intro c hc
    obtain ⟨hc, hdevice⟩ := List.mem_filter.mp hc
    exact List.mem_filter.mpr ⟨hsubset c hc (beq_iff_eq.mp hdevice), hdevice⟩
  have hlength := ((hnodup.filter _).subperm hfilter).length_le
  rwa [← List.countP_eq_length_filter, ← List.countP_eq_length_filter] at hlength

/-- **A list whose loads are no larger is no longer.** -/
theorem length_le_of_load_le (h : ∀ device, load t device ≤ load selection device) :
    t.length ≤ selection.length := by
  have hsubperm : (t.map (·.device)).Subperm (selection.map (·.device)) := by
    refine List.subperm_ext_iff.mpr fun device _ => ?_
    rw [count_map_device, count_map_device]
    exact h device
  simpa only [List.length_map] using hsubperm.length_le

/-! ## Thrift

What a selection is compared with: the lists that are as long, keep to the pool and hold all that
is required. -/

/-- A list that could be handed out instead of one with `n` members. -/
structure Rival (req all : List Candidate) (n : Nat) (t : List Candidate) : Prop where
  nodup : t.Nodup
  subset : t ⊆ all
  required : req ⊆ t
  length : n ≤ t.length

theorem Rival.of_le {m : Nat} (h : Rival req all n t) (hle : m ≤ n) : Rival req all m t :=
  ⟨h.nodup, h.subset, h.required, hle.trans h.length⟩

/-- A selection is **thrifty** if whatever bounds the loads of a rival bounds its own. -/
def Thrifty (req all selection : List Candidate) : Prop :=
  ∀ t, Rival req all selection.length t → ∀ bound, (∀ device, load t device ≤ bound) →
    ∀ device, load selection device ≤ bound

theorem thrifty_required (hreq : req.Nodup) : Thrifty req all req := by
  intro t ht bound hbound device
  exact (load_le_of_subset hreq fun c hc _ => ht.required hc).trans (hbound device)

/-- **A pick of a least loaded device keeps thrift.**  If it went beyond the bound of a rival, every
device with a candidate left would be at the bound already and the others exhausted, so the rival
would fit into the selection as it was. -/
theorem Thrifty.snoc (hthrifty : Thrifty req all selection)
    (hpool : ∀ d ∈ all, d ∈ selection ∨ d ∈ candidates)
    (hleast : ∀ d ∈ candidates, load selection c.device ≤ load selection d.device) :
    Thrifty req all (selection ++ [c]) := by
  intro t ht bound hbound device
  rw [List.length_append, List.length_singleton] at ht
  have hbefore : ∀ device, load selection device ≤ bound :=
    hthrifty t (ht.of_le (Nat.le_succ _)) bound hbound
  have hpicked : load selection c.device < bound := by
    by_contra hfull
    have hfits : ∀ device, load t device ≤ load selection device := by
      intro device
      by_cases hleft : ∃ d ∈ candidates, d.device = device
      · obtain ⟨d, hd, rfl⟩ := hleft
        have hd := hleast d hd
        have ht := hbound d.device
        omega
      · refine load_le_of_subset ht.nodup fun d hd hdevice => ?_
        exact (hpool d (ht.subset hd)).resolve_right fun hd' => hleft ⟨d, hd', hdevice⟩
    exact absurd ht.length (Nat.not_le.mpr (Nat.lt_succ_of_le (length_le_of_load_le hfits)))
  rw [load_snoc]
  split_ifs with hdevice
  · exact hdevice ▸ hpicked
  · exact hbefore device

theorem load_le_of_next? (h : next? selection candidates = some c) :
    ∀ d ∈ candidates, load selection c.device ≤ load selection d.device := by
  intro d hd
  exact (Key.before_eq_false_iff.mp (before_next? h hd)).1

/-- **A run of picks keeps thrift.** -/
theorem Thrifty.run {picked left : List Candidate} (hrun : Run selection candidates picked left)
    (hthrifty : Thrifty req all selection)
    (hpool : ∀ d ∈ all, d ∈ selection ∨ d ∈ candidates) :
    Thrifty req all (selection ++ picked) := by
  induction hrun with
  | done => rwa [List.append_nil]
  | @pick selection candidates picked left c hnext _ ih =>
    have hpicked := ih (hthrifty.snoc hpool (load_le_of_next? hnext)) fun d hd => by
      by_cases hdc : d = c
      · exact .inl (hdc ▸ List.mem_concat_self)
      · refine (hpool d hd).imp (List.mem_append_left [c]) fun hleft => ?_
        exact (List.mem_erase_of_ne hdc).mpr hleft
    rwa [List.append_assoc, List.singleton_append] at hpicked

/-! ## The pool -/

variable {available requiredIds ids : List String} {size : Nat}

/-- What a selection is taken from: the required candidates and the optional ones. -/
def pool (available requiredIds : List String) : List Candidate :=
  required requiredIds ++ optional available (required requiredIds)

theorem pool_eq_map (available requiredIds : List String) :
    pool available requiredIds = (requiredIds ++ available).eraseDups.map Candidate.ofId := by
  rw [pool, optional_eq_map, required_eq_map, ← List.map_append, eraseDups_append_eq]

theorem mem_pool : c ∈ pool available requiredIds ↔ c.id ∈ available ++ requiredIds := by
  rw [pool_eq_map, mem_map_ofId, List.mem_eraseDups, List.mem_append, List.mem_append, or_comm]

theorem nodup_pool (available requiredIds : List String) : (pool available requiredIds).Nodup := by
  rw [pool_eq_map]
  exact (nodup_eraseDups _).map ofId_injective

/-- **A selection starts with what is required**, and goes on in the pool without repetitions. -/
theorem exists_picks_append_perm (available requiredIds : List String) (size : Nat) :
    ∃ picked left, picks available requiredIds size = required requiredIds ++ picked ∧
      (picks available requiredIds size ++ left).Perm (pool available requiredIds) := by
  obtain ⟨picked, left, hrun, heq, -⟩ := exists_run_picks available requiredIds size
  refine ⟨picked, left, heq, ?_⟩
  rw [heq, List.append_assoc]
  exact hrun.perm.append_left _

theorem thrifty_picks (available requiredIds : List String) (size : Nat) :
    Thrifty (required requiredIds) (pool available requiredIds)
      (picks available requiredIds size) := by
  obtain ⟨picked, left, hrun, heq, -⟩ := exists_run_picks available requiredIds size
  rw [heq]
  exact Thrifty.run hrun (thrifty_required (nodup_eraseDups _)) fun _ => List.mem_append.mp

/-- A selection could be handed out in its own place. -/
theorem rival_picks (available requiredIds : List String) (size : Nat) :
    Rival (required requiredIds) (pool available requiredIds)
      (picks available requiredIds size).length (picks available requiredIds size) := by
  obtain ⟨picked, left, heq, hperm⟩ := exists_picks_append_perm available requiredIds size
  refine ⟨?_, ?_, ?_, le_rfl⟩
  · exact (hperm.nodup_iff.mpr (nodup_pool available requiredIds)).of_append_left
  · exact fun c hc => hperm.subset (List.mem_append_left left hc)
  · exact fun c hc => heq ▸ List.mem_append_left picked hc

/-! ## Sharing -/

/-- **How much a list of ids shares**: the largest number of them that lead to one device. -/
def sharing (ids : List String) : Nat :=
  ids.toFinset.sup fun id => (ids.map Replica.deviceId).count (Replica.deviceId id)

/-- Two different ids of the list lead to one device. -/
def HandsOutTwice (ids : List String) : Prop :=
  ∃ id ∈ ids, ∃ id' ∈ ids, id ≠ id' ∧ Replica.deviceId id = Replica.deviceId id'

/-- A list of ids that could be handed out instead of one with `n` ids. -/
structure Alternative (available requiredIds : List String) (n : Nat) (ids : List String) :
    Prop where
  nodup : ids.Nodup
  drawn : ∀ id ∈ ids, id ∈ available ++ requiredIds
  required : ∀ id ∈ requiredIds, id ∈ ids
  length : n ≤ ids.length

theorem map_device_ofId (ids : List String) :
    (ids.map Candidate.ofId).map (·.device) = ids.map Replica.deviceId :=
  List.map_map

theorem map_ofId_id (l : List Candidate) : (l.map (·.id)).map Candidate.ofId = l := by
  rw [List.map_map]
  exact List.map_id'' Candidate.ofId_id l

/-- **A list shares no more than a bound if no load goes beyond it.** -/
theorem sharing_le_iff {bound : Nat} :
    sharing ids ≤ bound ↔ ∀ device, load (ids.map Candidate.ofId) device ≤ bound := by
  rw [sharing, Finset.sup_le_iff]
  simp only [← count_map_device, map_device_ofId]
  constructor
  · intro h device
    by_cases hdevice : device ∈ ids.map Replica.deviceId
    · obtain ⟨id, hid, rfl⟩ := List.mem_map.mp hdevice
      exact h id (List.mem_toFinset.mpr hid)
    · rw [List.count_eq_zero_of_not_mem hdevice]
      exact Nat.zero_le bound
  · exact fun h id _ => h (Replica.deviceId id)

theorem handsOutTwice_iff (hnodup : ids.Nodup) : HandsOutTwice ids ↔ 1 < sharing ids := by
  rw [← not_iff_not, Nat.not_lt, sharing_le_iff]
  simp only [← count_map_device, map_device_ofId]
  rw [← List.nodup_iff_count_le_one, List.nodup_map_iff_inj_on hnodup]
  simp only [HandsOutTwice]
  grind

theorem mem_shared {device : String} : device ∈ shared selection ↔ 1 < load selection device := by
  rw [shared, List.mem_mergeSort, List.mem_filter, List.mem_eraseDups, decide_eq_true_iff,
    count_map_device]
  refine and_iff_right_of_imp fun hload => ?_
  rw [← count_map_device] at hload
  exact List.count_pos_iff.mp (Nat.zero_lt_of_lt hload)

/-- **A selection is reported if it shares a device.** -/
theorem exists_select_eq_error_iff :
    (∃ e, select available requiredIds size = .error e) ↔
      1 < sharing (selected available requiredIds size) := by
  have hshared : shared (picks available requiredIds size) = [] ↔
      sharing (selected available requiredIds size) ≤ 1 := by
    rw [sharing_le_iff, selected_eq_map_picks, map_ofId_id, List.eq_nil_iff_forall_not_mem]
    simp only [mem_shared, Nat.not_lt]
  rw [← Nat.not_le, ← hshared, select]
  split
  next hnone =>
    refine ⟨?_, fun hsome => absurd hnone hsome⟩
    rintro ⟨e, ⟨⟩⟩
  next hsome => exact ⟨fun _ => hsome, fun _ => ⟨_, rfl⟩⟩

/-! ## No alternative shares less -/

theorem Alternative.rival (h : Alternative available requiredIds n ids) :
    Rival (Ranking.required requiredIds) (pool available requiredIds) n
      (ids.map Candidate.ofId) := by
  refine ⟨?_, ?_, ?_, ?_⟩
  · exact h.nodup.map fun a b hab => congrArg Candidate.id hab
  · intro c hc
    obtain ⟨id, hid, rfl⟩ := List.mem_map.mp hc
    exact mem_pool.mpr (h.drawn id hid)
  · intro c hc
    exact List.mem_map.mpr ⟨c.id, h.required _ (mem_required.mp hc), c.ofId_id⟩
  · rw [List.length_map]
    exact h.length

theorem alternative_selected (available requiredIds : List String) (size : Nat) :
    Alternative available requiredIds (selected available requiredIds size).length
      (selected available requiredIds size) := by
  have hown := rival_picks available requiredIds size
  rw [selected_eq_map_picks]
  refine ⟨?_, ?_, ?_, le_rfl⟩
  · exact hown.nodup.map fun a b hab => Candidate.ext hab
  · intro id hid
    obtain ⟨c, hc, rfl⟩ := List.mem_map.mp hid
    exact mem_pool.mp (hown.subset hc)
  · intro id hid
    have hreq : Candidate.ofId id ∈ required requiredIds := mem_required.mpr hid
    exact List.mem_map_of_mem (f := Candidate.id) (hown.required hreq)

theorem sharing_selected_le
    (h : Alternative available requiredIds (selected available requiredIds size).length ids) :
    sharing (selected available requiredIds size) ≤ sharing ids := by
  rw [sharing_le_iff, selected_eq_map_picks, map_ofId_id]
  rw [selected_eq_map_picks, List.length_map] at h
  exact thrifty_picks available requiredIds size _ h.rival _ (sharing_le_iff.mp le_rfl)

/-- **A selection shares devices as little as possible.**  It is one of the lists that could be
handed out, and none of these shares less; it is reported as not unique if all of them hand out two
replicas of some device. -/
theorem sharing_least (available requiredIds : List String) (size : Nat) :
    Alternative available requiredIds (selected available requiredIds size).length
        (selected available requiredIds size) ∧
      (∀ ids, Alternative available requiredIds (selected available requiredIds size).length ids →
        sharing (selected available requiredIds size) ≤ sharing ids) ∧
      ((∃ e, select available requiredIds size = .error e) ↔
        ∀ ids, Alternative available requiredIds (selected available requiredIds size).length ids →
          HandsOutTwice ids) := by
  have hown := alternative_selected available requiredIds size
  refine ⟨hown, fun ids h => sharing_selected_le h, ?_⟩
  rw [exists_select_eq_error_iff]
  constructor
  · intro hshared ids h
    exact (handsOutTwice_iff h.nodup).mpr (hshared.trans_le (sharing_selected_le h))
  · intro h
    exact (handsOutTwice_iff hown.nodup).mp (h _ hown)

/-- A device is required, and of the others two are left with one replica more to hand out. -/
example : selected ["a::0", "b::0", "a::1", "b::0", "a::2"] ["b::1", "c::0", "b::1"] 5
      = ["b::1", "c::0", "a::0", "a::1", "b::0"] := by
  rw [selected_eq_map_picks]
  decide +kernel

end GpuPlugin.Ranking
