import Mathlib.Data.List.Basic

/-!
# Proofs/Runs — what every action keeps, every run keeps

A system is moved by actions, each of which may be out of place; a run is a list of actions that can
all happen, one after another.  Whatever the system, what holds at the beginning of a run and is
kept by each action holds at its end.  Of each action something may be noted; a run then has a
`log`, and what is kept may speak of it.
-/

namespace GpuPlugin.Runs

variable {σ α : Type} {act : σ → α → Option σ} {s s' t : σ} {a : α} {actions more : List α}

theorem eq_of_run_nil (hrun : ([] : List α).foldlM act s = some s') : s' = s :=
  (Option.some.inj hrun).symm

/-- A run is an action and the run after it. -/
theorem run_cons : (a :: actions).foldlM act s = some s' ↔
    ∃ t, act s a = some t ∧ actions.foldlM act t = some s' := by
  rw [List.foldlM_cons]
  exact Option.bind_eq_some_iff

/-- A run goes on from where an earlier one has come to. -/
theorem run_append : (actions ++ more).foldlM act s = some s' ↔
    ∃ t, actions.foldlM act s = some t ∧ more.foldlM act t = some s' := by
  rw [List.foldlM_append]
  exact Option.bind_eq_some_iff

/-- **What each action keeps is kept by a run.** -/
theorem kept_of_run {P : σ → Prop} (hact : ∀ {s a t}, P s → act s a = some t → P t)
    (hrun : actions.foldlM act s = some s') (hs : P s) : P s' := by
  induction actions generalizing s with
  | nil =>
    obtain rfl := eq_of_run_nil hrun
    exact hs
  | cons a actions ih =>
    obtain ⟨t, hstep, hrest⟩ := run_cons.mp hrun
    exact ih hrest (hact hs hstep)

/-- **A system comes from one state to another** if there is a run between them. -/
def ComesTo (act : σ → α → Option σ) (s s' : σ) : Prop :=
  ∃ actions : List α, actions.foldlM act s = some s'

theorem ComesTo.refl (s : σ) : ComesTo act s s := ⟨[], rfl⟩

theorem ComesTo.trans (h : ComesTo act s t) (h' : ComesTo act t s') : ComesTo act s s' := by
  obtain ⟨early, hearly⟩ := h
  obtain ⟨late, hlate⟩ := h'
  exact ⟨early ++ late, run_append.mpr ⟨t, hearly, hlate⟩⟩

theorem ComesTo.of_act (hact : act s a = some t) : ComesTo act s t :=
  ⟨[a], run_cons.mpr ⟨t, hact, rfl⟩⟩

/-! ## What is noted of a run -/

variable {δ : Type} {note : σ → α → List δ} {past : List δ}

/-- What is noted of actions in order, as far as they can happen. -/
def log (act : σ → α → Option σ) (note : σ → α → List δ) (s : σ) : List α → List δ
  | [] => []
  | a :: actions =>
    match act s a with
    | some t => note s a ++ log act note t actions
    | none => []

theorem log_cons (hact : act s a = some t) :
    log act note s (a :: actions) = note s a ++ log act note t actions := by
  rw [log, hact]

theorem log_append (hrun : actions.foldlM act s = some t) :
    log act note s (actions ++ more) = log act note s actions ++ log act note t more := by
  induction actions generalizing s with
  | nil =>
    obtain rfl := eq_of_run_nil hrun
    rfl
  | cons a actions ih =>
    obtain ⟨next, hact, hrest⟩ := run_cons.mp hrun
    rw [List.cons_append, log_cons hact, log_cons hact, ih hrest, List.append_assoc]

/-- **What each action keeps of a system and its log, a run keeps.** -/
theorem kept_of_run_log {P : σ → List δ → Prop}
    (hact : ∀ {s past a t}, P s past → act s a = some t → P t (past ++ note s a))
    (hrun : actions.foldlM act s = some s') (hs : P s past) :
    P s' (past ++ log act note s actions) := by
  induction actions generalizing s past with
  | nil =>
    obtain rfl := eq_of_run_nil hrun
    rwa [log, List.append_nil]
  | cons a actions ih =>
    obtain ⟨next, hnext, hrest⟩ := run_cons.mp hrun
    rw [log_cons hnext, ← List.append_assoc]
    exact ih hrest (hact hs hnext)

theorem log_eq_of_run (hrun : actions.foldlM act s = some s') :
    log act (fun _ a => [a]) s actions = actions := by
  induction actions generalizing s with
  | nil => rfl
  | cons a actions ih =>
    obtain ⟨next, hact, hrest⟩ := run_cons.mp hrun
    rw [log_cons hact, ih hrest]
    rfl

/-- What each action keeps of a system and of all that was done, a run keeps. -/
theorem kept_of_run_past {P : σ → List α → Prop}
    (hact : ∀ {s past a t}, P s past → act s a = some t → P t (past ++ [a]))
    (hrun : actions.foldlM act s = some s') (hs : P s []) : P s' actions := by
  have hkept := kept_of_run_log hact hrun hs
  rwa [log_eq_of_run hrun] at hkept

end GpuPlugin.Runs
