import GpuPlugin.Proofs.Repetition
import GpuPlugin.Ranking

/-!
# Proofs/Ranking/Selection — where the chosen replicas come from

Every pick is the first of the candidates that are left, none of which has a better key
(`exists_split_of_next?`, `before_next?`).  A selection is a run of such picks after the required
candidates (`exists_run_picks`), so it has nothing in it but required and available ids
(`mem_of_mem_selected`), whether or not it is unique.
-/

namespace GpuPlugin.Ranking

/-! ## Keys -/

namespace Key

variable {a b c : Key}

theorem before_iff :
    a.before b = true ↔ a.used < b.used ∨ a.used = b.used ∧ b.free < a.free := by
  simp only [before, Bool.or_eq_true, Bool.and_eq_true, decide_eq_true_iff, beq_iff_eq]

theorem before_eq_false_iff :
    a.before b = false ↔ b.used ≤ a.used ∧ (a.used = b.used → a.free ≤ b.free) := by
  simp only [before, Bool.or_eq_false_iff, Bool.and_eq_false_iff, decide_eq_false_iff_not,
    beq_eq_false_iff_ne]
  omega

theorem before_self (a : Key) : a.before a = false :=
  before_eq_false_iff.mpr ⟨Nat.le_refl _, fun _ => Nat.le_refl _⟩

theorem before_asymm (h : a.before b = true) : b.before a = false := by
  have hnot : ¬ a.before b = false := by simp [h]
  rw [before_eq_false_iff] at hnot ⊢
  omega

theorem before_eq_false_trans (hab : a.before b = false) (hbc : b.before c = false) :
    a.before c = false := by
  rw [before_eq_false_iff] at *
  omega

end Key

/-! ## One pick -/

theorem mem_of_firstBest {l : List (Key × Candidate)} {x : Key × Candidate}
    (h : firstBest l = some x) : x ∈ l := by
  induction l generalizing x with
  | nil => cases h
  | cons y l ih =>
    rw [firstBest] at h
    cases hl : firstBest l with
    | none =>
      rw [hl] at h
      obtain rfl := Option.some.inj h
      exact List.mem_cons_self
    | some z =>
      simp only [hl] at h
      split at h
      · obtain rfl := Option.some.inj h
        exact List.mem_cons_of_mem y (ih hl)
      · obtain rfl := Option.some.inj h
        exact List.mem_cons_self

theorem firstBest_eq_none_iff {l : List (Key × Candidate)} : firstBest l = none ↔ l = [] := by
  refine ⟨fun h => ?_, fun h => h ▸ rfl⟩
  rcases l with _ | ⟨x, l⟩
  · rfl
  · rw [firstBest] at h
    split at h
    · nomatch h
    · split at h <;> nomatch h

/-- **No key is before the best.** -/
theorem before_firstBest {l : List (Key × Candidate)} {x y : Key × Candidate}
    (h : firstBest l = some x) (hy : y ∈ l) : y.1.before x.1 = false := by
  induction l generalizing x with
  | nil => nomatch hy
  | cons z l ih =>
    rw [firstBest] at h
    split at h
    next hl =>
      obtain rfl := Option.some.inj h
      obtain rfl := firstBest_eq_none_iff.mp hl
      obtain rfl := List.mem_singleton.mp hy
      exact Key.before_self _
    next w hl =>
      split at h
      next hbefore =>
        obtain rfl := Option.some.inj h
        rcases List.mem_cons.mp hy with rfl | hy
        · exact Key.before_asymm hbefore
        · exact ih hl hy
      next hbefore =>
        obtain rfl := Option.some.inj h
        rcases List.mem_cons.mp hy with rfl | hy
        · exact Key.before_self _
        · exact Key.before_eq_false_trans (ih hl hy) (Bool.eq_false_iff.mpr hbefore)

/-- **The best key is before those of all earlier entries.** -/
theorem exists_split_of_firstBest {l : List (Key × Candidate)} {x : Key × Candidate}
    (h : firstBest l = some x) :
    ∃ before after, l = before ++ x :: after ∧ ∀ y ∈ before, x.1.before y.1 = true := by
  induction l generalizing x with
  | nil => cases h
  | cons z l ih =>
    rw [firstBest] at h
    split at h
    next =>
      obtain rfl := Option.some.inj h
      exact ⟨[], l, rfl, nofun⟩
    next w hl =>
      split at h
      next hbefore =>
        obtain rfl := Option.some.inj h
        obtain ⟨before, after, rfl, hall⟩ := ih hl
        exact ⟨z :: before, after, rfl, List.forall_mem_cons.mpr ⟨hbefore, hall⟩⟩
      next =>
        obtain rfl := Option.some.inj h
        exact ⟨[], l, rfl, nofun⟩

/-- **The next pick is one of the candidates.** -/
theorem mem_of_next? {selection candidates : List Candidate} {c : Candidate}
    (h : next? selection candidates = some c) : c ∈ candidates := by
  obtain ⟨x, hx, rfl⟩ := Option.map_eq_some_iff.mp h
  obtain ⟨c, hc, rfl⟩ := List.mem_map.mp (mem_of_firstBest hx)
  exact hc

/-- **No candidate has a better key than the next pick.** -/
theorem before_next? {selection candidates : List Candidate} {c d : Candidate}
    (h : next? selection candidates = some c) (hd : d ∈ candidates) :
    (key selection candidates d).before (key selection candidates c) = false := by
  obtain ⟨x, hx, rfl⟩ := Option.map_eq_some_iff.mp h
  obtain ⟨c, -, rfl⟩ := List.mem_map.mp (mem_of_firstBest hx)
  exact before_firstBest hx (List.mem_map_of_mem hd)

theorem next?_eq_none_iff {selection candidates : List Candidate} :
    next? selection candidates = none ↔ candidates = [] := by
  rw [next?, Option.map_eq_none_iff, firstBest_eq_none_iff, List.map_eq_nil_iff]

/-- **The next pick has a better key than all candidates before it.**  What is left are the
candidates before and after it. -/
theorem exists_split_of_next? {selection candidates : List Candidate} {c : Candidate}
    (h : next? selection candidates = some c) :
    ∃ before after, candidates = before ++ c :: after ∧ candidates.erase c = before ++ after ∧
      ∀ d ∈ before, (key selection candidates c).before (key selection candidates d) = true := by
  obtain ⟨x, hx, rfl⟩ := Option.map_eq_some_iff.mp h
  obtain ⟨kept, rest, hsplit, hbest⟩ := exists_split_of_firstBest hx
  obtain ⟨before, tail, hcandidates, rfl, htail⟩ := List.map_eq_append_iff.mp hsplit
  obtain ⟨c, after, rfl, rfl, rfl⟩ := List.map_eq_cons_iff.mp htail
  have hbefore : ∀ d ∈ before,
      (key selection candidates c).before (key selection candidates d) = true :=
    fun d hd => hbest _ (List.mem_map_of_mem hd)
  have hnot : c ∉ before := fun hc => by simpa [Key.before_self] using hbefore c hc
  refine ⟨before, after, hcandidates, ?_, hbefore⟩
  rw [hcandidates, List.erase_append_right _ hnot, List.erase_cons_head]

/-- A candidate that another one comes before is not of the same device. -/
theorem device_ne_of_before {selection candidates : List Candidate} {c d : Candidate}
    (h : (key selection candidates c).before (key selection candidates d) = true) :
    d.device ≠ c.device := by
  intro hsame
  have hkey : key selection candidates d = key selection candidates c := by
    rw [key, key, sameDevice, sameDevice, sameDevice, sameDevice, hsame]
  rw [hkey, Key.before_self] at h
  cases h

/-! ## All picks -/

/-- **A run of picks**: what is picked, one candidate after another, and what is left. -/
inductive Run : List Candidate → List Candidate → List Candidate → List Candidate → Prop
  | done (selection candidates : List Candidate) : Run selection candidates [] candidates
  | pick {selection candidates picked left : List Candidate} {c : Candidate}
      (hnext : next? selection candidates = some c)
      (hrest : Run (selection ++ [c]) (candidates.erase c) picked left) :
      Run selection candidates (c :: picked) left

/-- **Picking on is a run of picks**, which ends early only when no candidate is left. -/
theorem exists_run (n : Nat) (selection candidates : List Candidate) :
    ∃ picked left, Run selection candidates picked left ∧
      extend n selection candidates = selection ++ picked ∧
      picked.length = min n candidates.length := by
  induction n generalizing selection candidates with
  | zero =>
    exact ⟨[], candidates, .done .., (List.append_nil _).symm, (Nat.zero_min _).symm⟩
  | succ n ih =>
    rw [extend]
    split
    next hnone =>
      obtain rfl := next?_eq_none_iff.mp hnone
      exact ⟨[], [], .done .., (List.append_nil _).symm, rfl⟩
    next c hnext =>
      obtain ⟨picked, left, hrun, heq, hlength⟩ := ih (selection ++ [c]) (candidates.erase c)
      have hc := mem_of_next? hnext
      have hpos : 0 < candidates.length := List.length_pos_of_mem hc
      rw [List.length_erase_of_mem hc] at hlength
      refine ⟨c :: picked, left, .pick hnext hrun, ?_, ?_⟩
      · rw [heq, List.append_assoc, List.singleton_append]
      · rw [List.length_cons]
        omega

/-- A run loses no candidate. -/
theorem Run.perm {selection candidates picked left : List Candidate}
    (hrun : Run selection candidates picked left) : (picked ++ left).Perm candidates := by
  induction hrun with
  | done => exact .refl _
  | pick hnext _ ih => exact (ih.cons _).trans (List.perm_cons_erase (mem_of_next? hnext)).symm

/-- **The replicas of a device are picked in the order of the candidates.**  They share one key, so
the first of them is the one to be picked. -/
theorem Run.filter_device {selection candidates picked left : List Candidate}
    (hrun : Run selection candidates picked left) (device : String) :
    picked.filter (·.device == device) ++ left.filter (·.device == device)
      = candidates.filter (·.device == device) := by
  induction hrun with
  | done => rfl
  | @pick selection candidates picked left c hnext _ ih =>
    obtain ⟨before, after, hcandidates, herase, hbetter⟩ := exists_split_of_next? hnext
    rw [herase, List.filter_append] at ih
    by_cases hdevice : c.device = device
    · have hnone : before.filter (·.device == device) = [] := by
        refine List.filter_eq_nil_iff.mpr fun d hd hsame => ?_
        exact device_ne_of_before (hbetter d hd) ((beq_iff_eq.mp hsame).trans hdevice.symm)
      rw [hnone, List.nil_append] at ih
      rw [hcandidates, List.filter_append, hnone, List.filter_cons_of_pos (by simpa using hdevice),
        List.filter_cons_of_pos (by simpa using hdevice), List.cons_append, ih, List.nil_append]
    · rw [hcandidates, List.filter_append, List.filter_cons_of_neg (by simpa using hdevice),
        List.filter_cons_of_neg (by simpa using hdevice), ih]

/-! ## The candidates

A selection is made of candidates, but asked for and answered in ids.  Each id is one candidate. -/

section Candidates

variable {available requiredIds ids : List String} {c : Candidate}

theorem ofId_injective : Function.Injective Candidate.ofId := fun _ _ h => congrArg Candidate.id h

theorem mem_map_ofId : c ∈ ids.map Candidate.ofId ↔ c.id ∈ ids := by
  rw [← List.mem_map_of_injective ofId_injective, c.ofId_id]

theorem map_id_ofId (ids : List String) : (ids.map Candidate.ofId).map (·.id) = ids := by
  rw [List.map_map]
  exact List.map_id ids

theorem eraseDups_map_ofId (ids : List String) :
    (ids.map Candidate.ofId).eraseDups = ids.eraseDups.map Candidate.ofId :=
  Repetition.eraseDups_map_of_injOn fun _ _ _ _ h => ofId_injective h

/-- The required candidates are the required ids, each once. -/
theorem required_eq_map (ids : List String) :
    required ids = ids.eraseDups.map Candidate.ofId :=
  eraseDups_map_ofId ids

theorem mem_required : c ∈ required ids ↔ c.id ∈ ids := by
  rw [required_eq_map, mem_map_ofId, List.mem_eraseDups]

/-- **The spare ids**: the available ones, each once, that are not required. -/
def spare (available requiredIds : List String) : List String :=
  available.eraseDups.filter (· ∉ requiredIds)

theorem mem_spare {id : String} :
    id ∈ spare available requiredIds ↔ id ∈ available ∧ id ∉ requiredIds := by
  rw [spare, List.mem_filter, List.mem_eraseDups, decide_eq_true_iff]

/-- What is required and what is spare are all ids there are, each once. -/
theorem eraseDups_append_eq (available requiredIds : List String) :
    (requiredIds ++ available).eraseDups = requiredIds.eraseDups ++ spare available requiredIds :=
  Repetition.eraseDups_append_eq_filter requiredIds available

/-- The optional candidates are the spare ids. -/
theorem optional_eq_map (available requiredIds : List String) :
    optional available (required requiredIds)
      = (spare available requiredIds).map Candidate.ofId := by
  rw [optional, eraseDups_map_ofId, List.filter_map, spare]
  refine congrArg (List.map Candidate.ofId) (List.filter_congr fun id _ => ?_)
  have hmem : Candidate.ofId id ∈ required requiredIds ↔ id ∈ requiredIds := mem_required
  simp [hmem]

theorem mem_optional :
    c ∈ optional available (required requiredIds) ↔ c.id ∈ available ∧ c.id ∉ requiredIds := by
  rw [optional_eq_map, mem_map_ofId, mem_spare]

end Candidates

/-! ## The selection -/

section Selected

variable {available requiredIds : List String} {size : Nat}

/-- **A selection is what is required and then a run of picks**, up to the size or to the last
candidate. -/
theorem exists_run_picks (available requiredIds : List String) (size : Nat) :
    ∃ picked left,
      Run (required requiredIds) (optional available (required requiredIds)) picked left ∧
        picks available requiredIds size = required requiredIds ++ picked ∧
        picked.length = min (size - requiredIds.eraseDups.length)
          (spare available requiredIds).length := by
  obtain ⟨picked, left, hrun, heq, hlength⟩ := exists_run (size - (required requiredIds).length)
    (required requiredIds) (optional available (required requiredIds))
  refine ⟨picked, left, hrun, heq, ?_⟩
  rwa [optional_eq_map, required_eq_map, List.length_map, List.length_map] at hlength

/-- The ids of a selection, unique or not. -/
def selected (available requiredIds : List String) (size : Nat) : List String :=
  match select available requiredIds size with
  | .ok ids => ids
  | .error e => e.selection

theorem selected_eq_map_picks (available requiredIds : List String) (size : Nat) :
    selected available requiredIds size = (picks available requiredIds size).map (·.id) := by
  rw [selected, select]
  cases shared (picks available requiredIds size) <;> rfl

/-- **A selection has nothing in it but required and available ids.** -/
theorem mem_of_mem_selected {id : String} (h : id ∈ selected available requiredIds size) :
    id ∈ available ++ requiredIds := by
  obtain ⟨picked, left, hrun, heq, -⟩ := exists_run_picks available requiredIds size
  rw [selected_eq_map_picks, heq] at h
  obtain ⟨c, hc, rfl⟩ := List.mem_map.mp h
  rcases List.mem_append.mp hc with hrequired | hpicked
  · exact List.mem_append_right available (mem_required.mp hrequired)
  · have hoptional := hrun.perm.subset (List.mem_append_left left hpicked)
    exact List.mem_append_left requiredIds (mem_optional.mp hoptional).1

end Selected

end GpuPlugin.Ranking
