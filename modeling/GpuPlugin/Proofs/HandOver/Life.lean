import GpuPlugin.Proofs.HandOver.Progress
import GpuPlugin.Proofs.Plugin.Lifecycle

/-!
# Proofs/HandOver/Life — a plugin's life is a run of hand-overs

A plugin that is started and stopped as a whole has nothing to wait for: each report is applied as
soon as it is found, and each checker returns as soon as its session ends.  That is one of the ways
in which starting, stopping and the tasks of the sessions can be interleaved (`mirrored_run`), so
whatever holds of every interleaving holds of it.
-/

namespace GpuPlugin.HandOver

/-- Tasks that have caught up **show** a session: what it began with, and what it advertises. -/
structure Tasks.Shows (t : Tasks) (s : Session) : Prop where
  replicas : t.replicas = s.inventory.replicas
  snapshot : t.snapshot = s.snapshot
  running : t.checker = .running
  relaying : t.isRelaying = true
  queue : t.queue = []

/-- A report that is found at once, sent at once and applied at once. -/
theorem Tasks.run_report {t : Tasks} {s : Session} (hshows : t.Shows s) (id : String) :
    ∃ t', [Action.find id, .send, .receive].foldlM act t = some t' ∧ t'.Shows (s.report id) := by
  obtain ⟨replicas, snapshot, checker, queue, isRelaying, isCancelled, sent, applied⟩ := t
  obtain ⟨hreplicas, hsnapshot, hrunning, hrelaying, hqueue⟩ := hshows
  obtain rfl : checker = .running := hrunning
  obtain rfl : isRelaying = true := hrelaying
  obtain rfl : queue = [] := hqueue
  exact ⟨_, rfl, hreplicas, congrArg (Session.reported id) hsnapshot, rfl, rfl, rfl⟩

/-- **A state mirrors a plugin** if it is at rest without a session, or serves the same one. -/
inductive Mirrors (p : Plugin) (st : State) : Prop where
  | idle (hsession : p.session = none) (hstage : st.stage = .idle)
  | serving {s : Session} {t : Tasks} (hsession : p.session = some s)
    (hstage : st.stage = .serving) (hlatest : st.latest? = some t) (hshows : t.Shows s)

namespace State

variable {st st' : State} {i : Nat} {t : Tasks} {p p' : Plugin}

/-- Whether a state can come to be another. -/
abbrev ComesTo (st st' : State) : Prop := Runs.ComesTo act st st'

/-! ## Calls -/

/-- **A stop comes to its end** once the checker has returned. -/
theorem comesTo_of_cancel (hlatest : st.latest? = some t) (hrunning : t.checker = .running)
    (again : Bool) :
    ∃ st', (st.cancel again).ComesTo st' ∧ st'.stage = if again then .starting else .idle := by
  obtain ⟨i, ht, hlast⟩ := latest?_eq_some_iff.mp hlatest
  let cancelled : Tasks := { t with isCancelled := true }
  let returned : Tasks := { cancelled with checker := .returned }
  have hcancelled : (st.cancel again).sessions[i]? = some cancelled := by
    rw [getElem?_cancel, ht, Option.map_some, if_pos (by omega)]
  have hreturn : [Tasks.Action.giveUp].foldlM Tasks.act cancelled = some returned :=
    Runs.run_cons.mpr ⟨returned, Tasks.act_giveUp hrunning, rfl⟩
  obtain ⟨⟨stage, sessions⟩, hrun, hstage, hlength, hreturned⟩ :=
    exists_run_tasks hcancelled hreturn
  obtain rfl : stage = .awaitingServer again := hstage
  have hchecker : State.act ⟨.awaitingChecker again, sessions⟩ .checkerAwaited
      = some ⟨.clearing again, sessions⟩ := by
    have hlatest : State.latest? ⟨.awaitingChecker again, sessions⟩ = some returned :=
      latest?_eq_some_iff.mpr ⟨i, hreturned, by rw [hlength, length_cancel, hlast]⟩
    exact act_checkerAwaited rfl hlatest rfl
  have hclear : State.ComesTo ⟨.awaitingServer again, sessions⟩ _ :=
    ⟨[.serverAwaited, .relayAwaited, .checkerAwaited, .cleared true],
      Runs.run_cons.mpr ⟨_, rfl, Runs.run_cons.mpr ⟨_, rfl, Runs.run_cons.mpr ⟨_, hchecker,
        Runs.run_cons.mpr ⟨_, rfl, rfl⟩⟩⟩⟩⟩
  refine ⟨_, Runs.ComesTo.trans ⟨_, hrun⟩ hclear, ?_⟩
  cases again <;> rfl

/-- A plugin that is stopped comes to rest. -/
theorem comesTo_idle (hmirrors : Mirrors p st) : ∃ st', st.ComesTo st' ∧ st'.stage = .idle := by
  cases hmirrors with
  | idle hsession hstage => exact ⟨st, .refl st, hstage⟩
  | serving hsession hstage hlatest hshows =>
    obtain ⟨st', hstop, hrest⟩ := comesTo_of_cancel hlatest hshows.running false
    have hcall : st.act .stop = some (st.cancel false) := by
      unfold act
      rw [hstage]
    exact ⟨st', (Runs.ComesTo.of_act hcall).trans hstop, hrest⟩

/-- A plugin that is started has no session any more before it begins one. -/
theorem comesTo_starting (hmirrors : Mirrors p st) :
    ∃ st', st.ComesTo st' ∧ st'.stage = .starting := by
  cases hmirrors with
  | idle hsession hstage =>
    have hcall : st.act .start = some { st with stage := .starting } := by
      unfold act
      rw [hstage]
    exact ⟨_, .of_act hcall, rfl⟩
  | serving hsession hstage hlatest hshows =>
    obtain ⟨st', hstop, hstarting⟩ := comesTo_of_cancel hlatest hshows.running true
    have hcall : st.act .start = some (st.cancel true) := by
      unfold act
      rw [hstage]
    exact ⟨st', (Runs.ComesTo.of_act hcall).trans hstop, hstarting⟩

theorem mirrors_start (hmirrors : Mirrors p st) (hkept : p.Kept) (w : World) :
    ∃ st', st.ComesTo st' ∧ Mirrors (p.start w).plugin st' := by
  obtain ⟨next, hcomes, hstarting⟩ := comesTo_starting hmirrors
  cases Plugin.started_start hkept w with
  | failed e hresult hend =>
    have hfailed : next.act .startFailed = some { next with stage := .idle } := by
      unfold act
      rw [hstarting]
    exact ⟨_, hcomes.trans (.of_act hfailed), .idle hend.session rfl⟩
  | succeeded devices hresult hend =>
    obtain ⟨s, hsession, -, hinventory, hsnapshot, -⟩ := hend.session
    let begun : Tasks := { replicas := s.snapshot }
    have hstarted : next.act (.started s.snapshot)
        = some { stage := .serving, sessions := next.sessions ++ [begun] } := by
      unfold act
      rw [hstarting]
    have hreplicas : begun.replicas = s.inventory.replicas := by
      rw [hinventory]
      exact hsnapshot
    exact ⟨_, hcomes.trans (.of_act hstarted),
      .serving hsession rfl List.getLast?_concat ⟨hreplicas, rfl, rfl, rfl, rfl⟩⟩

theorem mirrors_stop (hmirrors : Mirrors p st) (w : World) :
    ∃ st', st.ComesTo st' ∧ Mirrors (p.stop w).plugin st' := by
  obtain ⟨st', hcomes, hidle⟩ := comesTo_idle hmirrors
  exact ⟨st', hcomes, .idle (Plugin.session_eq_none (Plugin.isServing_stop p w)) hidle⟩

/-! ## Reports -/

theorem mirrors_report (hmirrors : Mirrors p st) (id : String) :
    ∃ st', st.ComesTo st' ∧ Mirrors (p.report id) st' := by
  cases hmirrors with
  | idle hsession hstage =>
    refine ⟨st, .refl st, .idle ?_ hstage⟩
    rw [Plugin.report, hsession]
    rfl
  | @serving s t hsession hstage hlatest hshows =>
    obtain ⟨i, ht, hlast⟩ := latest?_eq_some_iff.mp hlatest
    obtain ⟨t', hacts, hshows'⟩ := Tasks.run_report hshows id
    obtain ⟨st', hrun, hstage', hlength, ht'⟩ := exists_run_tasks ht hacts
    have hlatest' : st'.latest? = some t' :=
      latest?_eq_some_iff.mpr ⟨i, ht', hlast.trans hlength.symm⟩
    exact ⟨st', ⟨_, hrun⟩, .serving (Plugin.session_report hsession id) (hstage'.trans hstage)
      hlatest' hshows'⟩

/-! ## Whole lives -/

theorem mirrors_of_session (hmirrors : Mirrors p st) (hsame : p'.session = p.session) :
    Mirrors p' st := by
  cases hmirrors with
  | idle hsession hstage => exact .idle (hsame.trans hsession) hstage
  | serving hsession hstage hlatest hshows =>
    exact .serving (hsame.trans hsession) hstage hlatest hshows

theorem mirrors_after {l : Life} (hkept : l.Kept) (hmirrors : Mirrors l.plugin st)
    (event : Life.Event) : ∃ st', st.ComesTo st' ∧ Mirrors (l.after event).plugin st' := by
  cases event with
  | call c =>
    cases c with
    | start => exact mirrors_start hmirrors hkept.plugin l.world
    | stop => exact mirrors_stop hmirrors l.world
    | register =>
      refine ⟨st, .refl st, mirrors_of_session hmirrors ?_⟩
      exact congrArg Plugin.session (Plugin.plugin_register l.plugin l.world)
  | watch =>
    refine ⟨st, .refl st, mirrors_of_session hmirrors ?_⟩
    rw [Life.after]
    split
    next => rfl
    next list p hwatch =>
      obtain ⟨s, -, rfl⟩ := Plugin.eq_of_watch hwatch
      rfl
  | report id => exact mirrors_report hmirrors id
  | change w => exact ⟨st, .refl st, hmirrors⟩

theorem mirrors_run {l : Life} (hkept : l.Kept) (hmirrors : Mirrors l.plugin st)
    (events : List Life.Event) : ∃ st', st.ComesTo st' ∧ Mirrors (l.run events).plugin st' := by
  induction events generalizing l st with
  | nil => exact ⟨st, .refl st, hmirrors⟩
  | cons event events ih =>
    obtain ⟨next, hcomes, hnext⟩ := mirrors_after hkept hmirrors event
    obtain ⟨st', hcomes', hst'⟩ := ih (hkept.after event) hnext
    exact ⟨st', hcomes.trans hcomes', hst'⟩

end State

/-- **Every life of a plugin is a run of hand-overs**, of which the last session is the one that the
plugin serves. -/
theorem mirrored_run (settings : Settings) (policy : Option Policy) (w : World)
    (events : List Life.Event) : ∃ actions st, State.run {} actions = some st ∧
      Mirrors ((Life.begin settings policy w).run events).plugin st := by
  obtain ⟨st, ⟨actions, hrun⟩, hmirrors⟩ := State.mirrors_run
    (Life.kept_begin settings policy w) (.idle rfl rfl : Mirrors _ {}) events
  exact ⟨actions, st, hrun, hmirrors⟩

end GpuPlugin.HandOver
