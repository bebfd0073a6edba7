import GpuPlugin.Restarts
import GpuPlugin.Proofs.Plugin.Actions
import GpuPlugin.Proofs.Runs

/-!
# Proofs/Restarts/Deeds — what a keeper does, action by action

A keeper begins rounds, stops and starts its plugin, and takes its leave; each of these is a *deed*.
Its deeds are read off a run (`deeds`), and an action is either one deed of the keeper or something
that others do, which changes neither what the keeper is about to do nor whether the plugin serves
(`effect_of_act`).
-/

namespace GpuPlugin.Keeper

/-- Why a round begins. -/
inductive Cause where
  | first
  | request
  | retry
  deriving DecidableEq, Repr

/-- What a keeper does. -/
inductive Deed where
  /-- A round begins. -/
  | round (cause : Cause)
  | stopped (result : Except PluginError Unit)
  | started (result : Except PluginError Unit)
  /-- The keeper has been dismissed, and takes its leave. -/
  | leaving
  /-- The plugin has been stopped for the last time. -/
  | ended (result : Except PluginError Unit)

def Deed.isRound : Deed → Bool
  | .round _ => true
  | _ => false

/-- Whether the plugin is stopped or started. -/
def Deed.isTurn : Deed → Bool
  | .stopped _ | .started _ | .ended _ => true
  | _ => false

/-- Whether a deed begins a round for a request. -/
def Deed.isSummons : Deed → Bool
  | .round .request => true
  | _ => false

def Action.isRequest : Action → Bool
  | .request => true
  | _ => false

/-- The deed an action is, if it is one of the keeper's. -/
def deed (k : Keeper) : Action → List Deed
  | .step =>
    match k.phase with
    | .stopping => [.stopped (k.plugin.stop k.world).result]
    | .starting => [.started (k.plugin.start k.world).result]
    | .waiting => if k.isDismissed then [.leaving] else [.round .request]
    | .leaving => [.ended (k.plugin.stop k.world).result]
    | .ended _ => []
  | .retry => [.round .retry]
  | _ => []

/-- The deeds of a run, in order. -/
def deeds (k : Keeper) (actions : List Action) : List Deed := Runs.log act deed k actions

variable {k next : Keeper} {a : Action}

theorem deeds_cons (hact : k.act a = some next) (actions : List Action) :
    k.deeds (a :: actions) = k.deed a ++ next.deeds actions :=
  Runs.log_cons hact

/-- **What others leave as it is** with a keeper they act on. -/
structure Spared (k : Keeper) (a : Action) (next : Keeper) : Prop where
  phase : next.phase = k.phase := by rfl
  starts : next.starts = k.starts := by rfl
  settings : next.plugin.settings = k.plugin.settings := by rfl
  isServing : next.plugin.isServing = k.plugin.isServing := by rfl
  isOpen : a ≠ .close → next.isOpen = k.isOpen := by exact fun _ => rfl
  /-- A dismissal is not taken back. -/
  isDismissed : k.isDismissed = true → next.isDismissed = true := by exact fun h => h
  /-- Requests stay in the mailbox, and only a request adds to them. -/
  requests : k.requests ≤ next.requests := by exact Nat.le_refl _
  asked : next.requests ≤ k.requests + a.isRequest.toNat := by exact Nat.le_refl _

/-- **What an action can be**: a deed of the keeper, or something others do. -/
inductive Effect (k : Keeper) (a : Action) : List Deed → Keeper → Prop where
  | quiet {next : Keeper} (hspared : k.Spared a next) : Effect k a [] next
  | stopped (hphase : k.phase = .stopping) :
    Effect k a [.stopped (k.plugin.stop k.world).result] (k.after (k.plugin.stop k.world) .starting)
  | started (hphase : k.phase = .starting) :
    Effect k a [.started (k.plugin.start k.world).result]
      { k.after (k.plugin.start k.world) .waiting with starts := k.starts + 1 }
  | summoned (hphase : k.phase = .waiting) (hthere : k.isDismissed = false)
    (hsome : k.requests ≠ 0) :
    Effect k a [.round .request] { k with phase := .stopping, requests := k.requests - 1 }
  | retried (hphase : k.phase = .waiting) (hthere : k.isDismissed = false)
    (hnone : k.requests = 0) (hidle : k.plugin.isServing = false) :
    Effect k a [.round .retry] { k with phase := .stopping }
  | left (hphase : k.phase = .waiting) (hdismissed : k.isDismissed = true) :
    Effect k a [.leaving] { k with phase := .leaving }
  | ended (hphase : k.phase = .leaving) :
    Effect k a [.ended (k.plugin.stop k.world).result]
      (k.after (k.plugin.stop k.world) (.ended (k.plugin.stop k.world).result))

theorem effect_of_step (hstep : k.step = some next) : k.Effect .step (k.deed .step) next := by
  cases hphase : k.phase with
  | stopping =>
    simp only [step, hphase] at hstep
    obtain rfl := Option.some.inj hstep
    simp only [deed, hphase]
    exact .stopped hphase
  | starting =>
    simp only [step, hphase] at hstep
    obtain rfl := Option.some.inj hstep
    simp only [deed, hphase]
    exact .started hphase
  | waiting =>
    simp only [step, hphase] at hstep
    simp only [deed, hphase]
    split_ifs at hstep ⊢ with hdismissed hnone
    · obtain rfl := Option.some.inj hstep
      exact .left hphase hdismissed
    · obtain rfl := Option.some.inj hstep
      exact .summoned hphase (Bool.eq_false_iff.mpr hdismissed) hnone
  | leaving =>
    simp only [step, hphase] at hstep
    obtain rfl := Option.some.inj hstep
    simp only [deed, hphase]
    exact .ended hphase
  | ended =>
    rw [step, hphase] at hstep
    cases hstep

theorem effect_of_retry (hretry : k.retry = some next) : k.Effect .retry (k.deed .retry) next := by
  rw [retry] at hretry
  split at hretry
  next hphase =>
    split_ifs at hretry with hbusy
    obtain rfl := Option.some.inj hretry
    simp only [not_or, Bool.not_eq_true, not_not] at hbusy
    exact .retried hphase hbusy.1 hbusy.2.1 hbusy.2.2
  next => cases hretry

theorem effect_of_act (hact : k.act a = some next) : k.Effect a (k.deed a) next := by
  cases a with
  | request =>
    rw [act] at hact
    split_ifs at hact
    obtain rfl := Option.some.inj hact
    rw [request]
    split_ifs
    · exact .quiet { requests := Nat.le_succ _ }
    · exact .quiet { asked := Nat.le_succ _ }
  | close =>
    obtain rfl := Option.some.inj hact
    exact .quiet { isOpen := fun hopen => absurd rfl hopen }
  | dismiss =>
    obtain rfl := Option.some.inj hact
    exact .quiet { isDismissed := fun _ => rfl }
  | report id =>
    obtain rfl := Option.some.inj hact
    exact .quiet { isServing := Plugin.isServing_report _ _ }
  | change w =>
    obtain rfl := Option.some.inj hact
    exact .quiet {}
  | step => exact effect_of_step hact
  | retry => exact effect_of_retry hact

/-! ## What stays -/

variable {deeds : List Deed}

theorem Effect.isDismissed (heffect : k.Effect a deeds next) (hdismissed : k.isDismissed = true) :
    next.isDismissed = true := by
  cases heffect with
  | quiet hspared => exact hspared.isDismissed hdismissed
  | _ => exact hdismissed

/-- The mailbox stays open unless it is closed. -/
theorem Effect.isOpen (heffect : k.Effect a deeds next) (hopen : a ≠ .close) :
    next.isOpen = k.isOpen := by
  cases heffect with
  | quiet hspared => exact hspared.isOpen hopen
  | _ => rfl

theorem Effect.settings (heffect : k.Effect a deeds next) :
    next.plugin.settings = k.plugin.settings := by
  cases heffect with
  | quiet hspared => exact hspared.settings
  | stopped | ended => exact Plugin.settings_stop k.plugin k.world
  | started => exact Plugin.settings_start k.plugin k.world
  | _ => rfl

/-- **A dismissed keeper begins no round.** -/
theorem Effect.isRound_of_dismissed (heffect : k.Effect a deeds next)
    (hdismissed : k.isDismissed = true) : ∀ d ∈ deeds, d.isRound = false := by
  intro d hmem
  cases heffect with
  | quiet => cases hmem
  | summoned hphase hthere => exact absurd hdismissed (Bool.eq_false_iff.mp hthere)
  | retried hphase hthere => exact absurd hdismissed (Bool.eq_false_iff.mp hthere)
  | _ =>
    obtain rfl := List.mem_singleton.mp hmem
    rfl

/-! ## Coming to rest -/

/-- **A keeper that has no step to take** waits with nothing in its mailbox, or is over. -/
theorem rests_of_step_eq_none (hstep : k.step = none) :
    (k.phase = .waiting ∧ k.requests = 0 ∧ k.isDismissed = false) ∨
      ∃ result, k.phase = .ended result := by
  cases hphase : k.phase with
  | waiting =>
    simp only [step, hphase] at hstep
    split_ifs at hstep with hdismissed hnone
    exact Or.inl ⟨rfl, hnone, Bool.eq_false_iff.mpr hdismissed⟩
  | ended result => exact Or.inr ⟨result, rfl⟩
  | stopping | starting | leaving =>
    rw [step, hphase] at hstep
    cases hstep

end GpuPlugin.Keeper
