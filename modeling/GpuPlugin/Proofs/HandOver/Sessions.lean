import GpuPlugin.Proofs.HandOver.Tasks

/-!
# Proofs/HandOver/Sessions — one session after another

The tasks of a session go on for as long as they like, whatever the plugin does in the meantime.
What keeps checkers apart is the way the plugin moves from stage to stage (`Moves`): it comes to the
next start only through the return of the latest checker.  So all sessions but the latest are over
at any time, and the latest is as far as the stage allows (`Kept`).
-/

namespace GpuPlugin.HandOver

/-- What the checker of a session finds in an action. -/
def Action.found (i : Nat) : Action → List String
  | .task j a => if j = i then a.found else []
  | _ => []

/-- The list of replicas that an action begins a session with. -/
def Action.begun : Action → List (List Device)
  | .started replicas => [replicas]
  | _ => []

/-- Whether an action is a call from outside. -/
def Action.isCall : Action → Bool
  | .start | .stop => true
  | _ => false

/-- **What the checker of a session has found** in the course of actions. -/
def found (i : Nat) (actions : List Action) : List String := actions.flatMap (Action.found i)

/-- The lists of replicas that sessions have begun with. -/
def begun (actions : List Action) : List (List Device) := actions.flatMap Action.begun

theorem found_concat (i : Nat) (past : List Action) (a : Action) :
    found i (past ++ [a]) = found i past ++ a.found i := by
  rw [found, List.flatMap_append, List.flatMap_singleton]
  rfl

theorem begun_concat (past : List Action) (a : Action) :
    begun (past ++ [a]) = begun past ++ a.begun := by
  rw [begun, List.flatMap_append, List.flatMap_singleton]
  rfl

/-- **What a stage allows of the tasks of the latest session.** -/
def Stage.Allows : Stage → Tasks → Prop
  | .idle, t | .starting, t | .clearing _, t => t.IsOver
  | .serving, t => t.isCancelled = false
  | .awaitingServer _, t | .awaitingRelay _, t | .awaitingChecker _, t => t.isCancelled = true

/-- Whether there is a session at a stage. -/
def Stage.hasSession : Stage → Bool
  | .idle | .starting => false
  | .serving | .awaitingServer _ | .awaitingRelay _ | .awaitingChecker _ | .clearing _ => true

theorem found_of_isCall {a : Action} (hcall : a.isCall = true) (i : Nat) : a.found i = [] := by
  cases a with
  | start | stop => rfl
  | _ => cases hcall

theorem begun_of_isCall {a : Action} (hcall : a.isCall = true) : a.begun = [] := by
  cases a with
  | start | stop => rfl
  | _ => cases hcall

namespace State

variable {st st' : State} {a : Action} {past : List Action} {i : Nat} {t t' : Tasks}

/-! ## What an action can be -/

/-- **How the plugin moves from stage to stage** while all tasks stay as they are. -/
inductive Moves (st : State) : Action → Stage → Prop where
  | start (hstage : st.stage = .idle) : Moves st .start .starting
  | stop (hstage : st.stage = .idle) : Moves st .stop .idle
  | failed (hstage : st.stage = .starting) : Moves st .startFailed .idle
  | server {again : Bool} (hstage : st.stage = .awaitingServer again) :
    Moves st .serverAwaited (.awaitingRelay again)
  | relay {again : Bool} (hstage : st.stage = .awaitingRelay again) :
    Moves st .relayAwaited (.awaitingChecker again)
  | checker {again : Bool} {t : Tasks} (hstage : st.stage = .awaitingChecker again)
    (hlatest : st.latest? = some t) (hreturned : t.checker = .returned) :
    Moves st .checkerAwaited (.clearing again)
  | cleared {again : Bool} (ok : Bool) (hstage : st.stage = .clearing again) :
    Moves st (.cleared ok) (if again ∧ ok then .starting else .idle)

/-- **What an action can be.** -/
inductive Effect (st : State) : Action → State → Prop where
  | acted {i : Nat} {a : Tasks.Action} {t t' : Tasks} (ht : st.sessions[i]? = some t)
    (hact : t.act a = some t') : Effect st (.task i a) { st with sessions := st.sessions.set i t' }
  | cancelled {a : Action} (again : Bool) (hcall : a.isCall = true) (hstage : st.stage = .serving) :
    Effect st a (st.cancel again)
  | began (replicas : List Device) (hstage : st.stage = .starting) :
    Effect st (.started replicas)
      { stage := .serving, sessions := st.sessions ++ [{ replicas }] }
  | moved {a : Action} {stage : Stage} (hmoves : st.Moves a stage) : Effect st a { st with stage }

theorem exists_of_updateTasks {f : Tasks → Option Tasks} (h : st.updateTasks i f = some st') :
    ∃ t t', st.sessions[i]? = some t ∧ f t = some t' ∧
      st' = { st with sessions := st.sessions.set i t' } := by
  obtain ⟨t, ht, h⟩ := Option.bind_eq_some_iff.mp h
  obtain ⟨t', ht', h⟩ := Option.bind_eq_some_iff.mp h
  exact ⟨t, t', ht, ht', (Option.some.inj h).symm⟩

theorem effect_of_act (hact : st.act a = some st') : st.Effect a st' := by
  unfold act at hact
  split at hact
  next hstage =>
    obtain rfl := Option.some.inj hact
    exact .moved (.start hstage)
  next hstage =>
    obtain rfl := Option.some.inj hact
    exact .cancelled true rfl hstage
  next hstage =>
    obtain rfl := Option.some.inj hact
    have hmoves : st.Moves .stop st.stage := hstage ▸ .stop hstage
    exact .moved hmoves
  next hstage =>
    obtain rfl := Option.some.inj hact
    exact .cancelled false rfl hstage
  next replicas hstage =>
    obtain rfl := Option.some.inj hact
    exact .began replicas hstage
  next hstage =>
    obtain rfl := Option.some.inj hact
    exact .moved (.failed hstage)
  next again hstage =>
    obtain rfl := Option.some.inj hact
    exact .moved (.server hstage)
  next again hstage =>
    obtain rfl := Option.some.inj hact
    exact .moved (.relay hstage)
  next again hstage =>
    split_ifs at hact with hreturned
    obtain rfl := Option.some.inj hact
    obtain ⟨t, hlatest, hreturned⟩ := (Option.any_eq_true _ _).mp hreturned
    exact .moved (.checker hstage hlatest (of_decide_eq_true hreturned))
  next again ok hstage =>
    obtain rfl := Option.some.inj hact
    exact .moved (.cleared ok hstage)
  next i a =>
    obtain ⟨t, t', ht, htask, rfl⟩ := exists_of_updateTasks hact
    exact .acted ht htask
  next => cases hact

theorem Moves.found_eq_nil {stage : Stage} (hmoves : st.Moves a stage) (i : Nat) :
    a.found i = [] := by
  cases hmoves <;> rfl

theorem Moves.begun_eq_nil {stage : Stage} (hmoves : st.Moves a stage) : a.begun = [] := by
  cases hmoves <;> rfl

theorem Moves.hasSession {stage : Stage} (hmoves : st.Moves a stage)
    (hsession : stage.hasSession = true) : st.stage.hasSession = true := by
  cases hmoves with
  | start hstage | stop hstage | failed hstage => cases hsession
  | server hstage | relay hstage | checker hstage =>
    rw [hstage]
    rfl
  | cleared ok hstage =>
    rw [hstage]
    rfl

/-- **The plugin moves on only as far as the latest tasks are.** -/
theorem Moves.allows {stage : Stage} (hmoves : st.Moves a stage) (hlatest : st.latest? = some t)
    (hallows : st.stage.Allows t) : stage.Allows t := by
  cases hmoves with
  | start hstage | stop hstage | failed hstage | server hstage | relay hstage =>
    rw [hstage] at hallows
    exact hallows
  | checker hstage hlatest' hreturned =>
    rw [hstage] at hallows
    obtain rfl := Option.some.inj (hlatest.symm.trans hlatest')
    exact ⟨hallows, hreturned⟩
  | cleared ok hstage =>
    rw [hstage] at hallows
    split_ifs
    · exact hallows
    · exact hallows

/-! ## The sessions after an action -/

theorem eq_or_of_getElem?_set {sessions : List Tasks} {j : Nat} {u : Tasks}
    (hu : (sessions.set i t)[j]? = some u) : j = i ∧ u = t ∨ i ≠ j ∧ sessions[j]? = some u := by
  rcases eq_or_ne i j with rfl | hne
  · obtain ⟨hlt, hu⟩ := List.getElem?_eq_some_iff.mp hu
    rw [List.getElem_set_self] at hu
    exact .inl ⟨rfl, hu.symm⟩
  · rw [List.getElem?_set_ne hne] at hu
    exact .inr ⟨hne, hu⟩

theorem eq_or_of_getElem?_concat {sessions : List Tasks} {j : Nat} {u : Tasks}
    (hu : (sessions ++ [t])[j]? = some u) :
    j = sessions.length ∧ u = t ∨ sessions[j]? = some u := by
  rcases Nat.lt_trichotomy j sessions.length with hlt | rfl | hgt
  · rw [List.getElem?_append_left hlt] at hu
    exact .inr hu
  · rw [List.getElem?_concat_length] at hu
    exact .inl ⟨rfl, (Option.some.inj hu).symm⟩
  · have hle := (List.getElem?_eq_some_iff.mp hu).1
    rw [List.length_append, List.length_singleton] at hle
    omega

theorem map_replicas_set {sessions : List Tasks} (ht : sessions[i]? = some t)
    (hsame : t'.replicas = t.replicas) :
    (sessions.set i t').map Tasks.replicas = sessions.map Tasks.replicas := by
  refine List.ext_getElem? fun j => ?_
  rw [List.getElem?_map, List.getElem?_map]
  rcases eq_or_ne i j with rfl | hne
  · rw [List.getElem?_set_self (List.getElem?_eq_some_iff.mp ht).1, ht]
    exact congrArg some hsame
  · rw [List.getElem?_set_ne hne]

theorem getElem?_cancel (st : State) (again : Bool) (j : Nat) :
    (st.cancel again).sessions[j]? = st.sessions[j]?.map fun t =>
      if st.sessions.length - 1 = j then { t with isCancelled := true } else t :=
  List.getElem?_modify _ _ _ _

theorem length_cancel (st : State) (again : Bool) :
    (st.cancel again).sessions.length = st.sessions.length :=
  List.length_modify _ _ _

/-- The latest session is at the last position. -/
theorem latest?_eq_some_iff :
    st.latest? = some t ↔ ∃ i, st.sessions[i]? = some t ∧ i + 1 = st.sessions.length := by
  rw [latest?, List.getLast?_eq_getElem?]
  constructor
  · intro hlatest
    have hlt := (List.getElem?_eq_some_iff.mp hlatest).1
    exact ⟨_, hlatest, by omega⟩
  · rintro ⟨i, hi, hlength⟩
    rwa [← hlength, Nat.add_sub_cancel]

/-! ## What holds of all sessions -/

/-- **What holds of the plugin and of all that has happened.** -/
structure Kept (st : State) (past : List Action) : Prop where
  begun : st.sessions.map Tasks.replicas = begun past
  /-- Nothing has been found by checkers that are still to come. -/
  fresh : ∀ i, st.sessions.length ≤ i → found i past = []
  faithful : ∀ {i} {t : Tasks}, st.sessions[i]? = some t → t.Faithful (found i past)
  earlier : ∀ {i} {t : Tasks}, st.sessions[i]? = some t → i + 1 < st.sessions.length → t.IsOver
  latest : ∀ {i} {t : Tasks}, st.sessions[i]? = some t → i + 1 = st.sessions.length →
    st.stage.Allows t
  held : st.stage.hasSession = true → 0 < st.sessions.length

theorem kept_nil : Kept {} [] where
  begun := rfl
  fresh _ _ := rfl
  faithful := nofun
  earlier := nofun
  latest := nofun
  held := nofun

/-- A stage allows what it has allowed, whatever the tasks do. -/
theorem allows_act {stage : Stage} {b : Tasks.Action} (hact : t.act b = some t')
    (hallows : stage.Allows t) : stage.Allows t' := by
  cases stage with
  | idle | starting | clearing => exact hallows.act hact
  | serving | awaitingServer | awaitingRelay | awaitingChecker =>
    exact (Tasks.isCancelled_act hact).trans hallows

theorem Kept.acted {b : Tasks.Action} (hkept : st.Kept past) (ht : st.sessions[i]? = some t)
    (hact : t.act b = some t') :
    Kept { st with sessions := st.sessions.set i t' } (past ++ [.task i b]) where
  begun := by
    rw [begun_concat, ← hkept.begun, map_replicas_set ht (Tasks.replicas_act hact)]
    exact (List.append_nil _).symm
  fresh j hj := by
    rw [List.length_set] at hj
    have hlt := (List.getElem?_eq_some_iff.mp ht).1
    rw [found_concat, hkept.fresh j hj, Action.found, if_neg (by omega)]
    rfl
  faithful {j u} hu := by
    rw [found_concat, Action.found]
    rcases eq_or_of_getElem?_set hu with ⟨rfl, rfl⟩ | ⟨hne, hu⟩
    · rw [if_pos rfl]
      exact (hkept.faithful ht).act hact
    · rw [if_neg hne, List.append_nil]
      exact hkept.faithful hu
  earlier {j u} hu hlt := by
    rw [List.length_set] at hlt
    rcases eq_or_of_getElem?_set hu with ⟨rfl, rfl⟩ | ⟨-, hu⟩
    · exact (hkept.earlier ht hlt).act hact
    · exact hkept.earlier hu hlt
  latest {j u} hu hlast := by
    rw [List.length_set] at hlast
    rcases eq_or_of_getElem?_set hu with ⟨rfl, rfl⟩ | ⟨-, hu⟩
    · exact allows_act hact (hkept.latest ht hlast)
    · exact hkept.latest hu hlast
  held hsession := by
    rw [List.length_set]
    exact hkept.held hsession

theorem Kept.cancelled (hkept : st.Kept past) (again : Bool) (hcall : a.isCall = true)
    (hstage : st.stage = .serving) :
    (st.cancel again).Kept (past ++ [a]) where
  begun := by
    rw [begun_concat, begun_of_isCall hcall, List.append_nil, ← hkept.begun]
    refine List.ext_getElem? fun j => ?_
    rw [List.getElem?_map, getElem?_cancel, List.getElem?_map, Option.map_map]
    refine congrFun (congrArg Option.map (funext fun t => ?_)) _
    rw [Function.comp]
    split_ifs <;> rfl
  fresh j hj := by
    rw [length_cancel] at hj
    rw [found_concat, hkept.fresh j hj, found_of_isCall hcall]
    rfl
  faithful {j u} hu := by
    rw [getElem?_cancel] at hu
    obtain ⟨t, ht, rfl⟩ := Option.map_eq_some_iff.mp hu
    rw [found_concat, found_of_isCall hcall, List.append_nil]
    split_ifs
    · exact (hkept.faithful ht).cancel
    · exact hkept.faithful ht
  earlier {j u} hu hlt := by
    rw [length_cancel] at hlt
    rw [getElem?_cancel] at hu
    obtain ⟨t, ht, rfl⟩ := Option.map_eq_some_iff.mp hu
    rw [if_neg (by omega)]
    exact hkept.earlier ht hlt
  latest {j u} hu hlast := by
    rw [length_cancel] at hlast
    rw [getElem?_cancel] at hu
    obtain ⟨t, ht, rfl⟩ := Option.map_eq_some_iff.mp hu
    rw [if_pos (by omega)]
    rfl
  held _ := by
    rw [length_cancel]
    exact hkept.held (hstage ▸ rfl)

theorem Kept.began (hkept : st.Kept past) (hstage : st.stage = .starting)
    (replicas : List Device) :
    Kept { stage := .serving, sessions := st.sessions ++ [{ replicas }] }
      (past ++ [.started replicas]) where
  begun := by
    rw [begun_concat, ← hkept.begun, List.map_append]
    rfl
  fresh j hj := by
    rw [List.length_append] at hj
    rw [found_concat, hkept.fresh j (Nat.le_of_add_right_le hj)]
    rfl
  faithful {j u} hu := by
    have hfound : found j (past ++ [.started replicas]) = found j past := by
      rw [found_concat]
      exact List.append_nil _
    rw [hfound]
    rcases eq_or_of_getElem?_concat hu with ⟨rfl, rfl⟩ | hu
    · rw [hkept.fresh _ (Nat.le_refl _)]
      exact Tasks.faithful_begin replicas
    · exact hkept.faithful hu
  earlier {j u} hu hlt := by
    rw [List.length_append, List.length_singleton] at hlt
    rcases eq_or_of_getElem?_concat hu with ⟨rfl, -⟩ | hu
    · omega
    · -- The session before the new one was the latest, and is over since the plugin is starting.
      rcases Nat.lt_or_eq_of_le (Nat.succ_le_of_lt (Nat.lt_of_succ_lt_succ hlt)) with hlt | hlast
      · exact hkept.earlier hu hlt
      · have hallows := hkept.latest hu hlast
        rwa [hstage] at hallows
  latest {j u} hu hlast := by
    rw [List.length_append, List.length_singleton] at hlast
    rcases eq_or_of_getElem?_concat hu with ⟨-, rfl⟩ | hu
    · rfl
    · have hlt := (List.getElem?_eq_some_iff.mp hu).1
      omega
  held _ := by
    rw [List.length_append]
    exact Nat.succ_pos _

theorem Kept.moved {stage : Stage} (hkept : st.Kept past) (hmoves : st.Moves a stage) :
    Kept { st with stage } (past ++ [a]) where
  begun := by
    rw [begun_concat, hmoves.begun_eq_nil, List.append_nil]
    exact hkept.begun
  fresh j hj := by
    rw [found_concat, hkept.fresh j hj, hmoves.found_eq_nil]
    rfl
  faithful {j u} hu := by
    rw [found_concat, hmoves.found_eq_nil, List.append_nil]
    exact hkept.faithful hu
  earlier := hkept.earlier
  latest hu hlast :=
    hmoves.allows (latest?_eq_some_iff.mpr ⟨_, hu, hlast⟩) (hkept.latest hu hlast)
  held hsession := hkept.held (hmoves.hasSession hsession)

/-- **Every action keeps what holds of all sessions.** -/
theorem Kept.act (hkept : st.Kept past) (hact : st.act a = some st') : st'.Kept (past ++ [a]) := by
  cases effect_of_act hact with
  | acted ht htask => exact hkept.acted ht htask
  | cancelled again hcall hstage => exact hkept.cancelled again hcall hstage
  | began replicas hstage => exact hkept.began hstage replicas
  | moved hmoves => exact hkept.moved hmoves

theorem kept_of_run {actions : List Action} (hrun : State.run {} actions = some st) :
    st.Kept actions :=
  Runs.kept_of_run_past Kept.act hrun kept_nil

end State

end GpuPlugin.HandOver
