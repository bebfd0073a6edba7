import GpuPlugin.Plugin

/-!
# Restarts — keeping a plugin serving

A plugin is kept serving by rounds, each a stop and then a start.  Whatever a round comes to, its
keeper then waits: for its dismissal, for a request, or, while the plugin does not serve, for the
time to try again.  Requests wait in a mailbox of few places.  One that finds it full is dropped,
for a round that will begin later is waiting in it already.

A keeper is moved by *actions*, each of which may be out of place.  `settle` lets it go on by itself
until it waits or is over.
-/

namespace GpuPlugin

/-- **One round**: a stop and then a start, whatever becomes of the stop. -/
def Plugin.restart (p : Plugin) (w : World) : Plugin.Outcome :=
  let o := p.stop w
  o.plugin.start o.world

/-- What a keeper does next. -/
inductive Keeper.Phase where
  /-- Stop the plugin, then start it. -/
  | stopping
  | starting
  | waiting
  /-- Stop the plugin for the last time. -/
  | leaving
  | ended (result : Except PluginError Unit)

/-- **A keeper**: a plugin, its world, and what has been asked of the keeper. -/
structure Keeper where
  plugin : Plugin
  world : World
  phase : Keeper.Phase := .stopping
  /-- The requests in the mailbox. -/
  requests : Nat := 0
  /-- Whether requests can still come in. -/
  isOpen : Bool := true
  isDismissed : Bool := false
  /-- How many starts have been tried. -/
  starts : Nat := 0

namespace Keeper

/-! ## What others do -/

/-- How many requests the mailbox holds. -/
def places : Nat := 8

/-- **Ask for a restart.**  A request that finds the mailbox full is dropped. -/
def request (k : Keeper) : Keeper :=
  if k.requests < places then { k with requests := k.requests + 1 } else k

/-- Close the mailbox; the requests in it stay. -/
def close (k : Keeper) : Keeper := { k with isOpen := false }

/-- Ask the keeper to end. -/
def dismiss (k : Keeper) : Keeper := { k with isDismissed := true }

/-- Take in a report of the health check. -/
def report (k : Keeper) (id : String) : Keeper := { k with plugin := k.plugin.report id }

/-! ## What the keeper does -/

/-- A keeper after its plugin was stopped or started. -/
def after (k : Keeper) (o : Plugin.Outcome) (phase : Phase) : Keeper :=
  { k with plugin := o.plugin, world := o.world, phase }

/-- **The next step**, unless the keeper waits or is over.  Its dismissal comes before requests. -/
def step (k : Keeper) : Option Keeper :=
  match k.phase with
  | .stopping => some (k.after (k.plugin.stop k.world) .starting)
  | .starting =>
    some { k.after (k.plugin.start k.world) .waiting with starts := k.starts + 1 }
  | .waiting =>
    if k.isDismissed then some { k with phase := .leaving }
    else if k.requests = 0 then none
    else some { k with phase := .stopping, requests := k.requests - 1 }
  | .leaving =>
    let o := k.plugin.stop k.world
    some (k.after o (.ended o.result))
  | .ended _ => none

/-- The time to try again has come: a keeper that waits for nothing else begins a round. -/
def retry (k : Keeper) : Option Keeper :=
  match k.phase with
  | .waiting =>
    if k.isDismissed ∨ k.requests ≠ 0 ∨ k.plugin.isServing then none
    else some { k with phase := .stopping }
  | _ => none

/-! ## Runs -/

/-- What may happen to a keeper. -/
inductive Action where
  | request
  | close
  | dismiss
  | report (id : String)
  /-- Others change the world. -/
  | change (w : World)
  | step
  | retry

/-- The keeper after an action, if the action can happen. -/
def act (k : Keeper) : Action → Option Keeper
  | .request => if k.isOpen then some k.request else none
  | .close => some k.close
  | .dismiss => some k.dismiss
  | .report id => some (k.report id)
  | .change w => some { k with world := w }
  | .step => k.step
  | .retry => k.retry

/-- **A run**: the keeper after actions in order, if all of them can happen. -/
def run (k : Keeper) (actions : List Action) : Option Keeper := actions.foldlM act k

/-! ## Settling -/

/-- How far a phase is from being over. -/
def Phase.distance : Phase → Nat
  | .ended _ => 0
  | .leaving => 1
  | .waiting => 2
  | .starting => 3
  | .stopping => 4

/-- More than the steps that are left if nobody else acts. -/
def weight (k : Keeper) : Nat := 3 * k.requests + k.phase.distance

theorem weight_lt_of_step {k next : Keeper} (h : k.step = some next) : next.weight < k.weight := by
  obtain ⟨p, w, phase, requests, isOpen, isDismissed, starts⟩ := k
  cases phase <;> simp only [step] at h
  case stopping => cases h; simp [weight, after, Phase.distance]
  case starting => cases h; simp [weight, after, Phase.distance]
  case leaving => cases h; simp [weight, after, Phase.distance]
  case waiting =>
    split at h
    · cases h; simp [weight, Phase.distance]
    · split at h
      · cases h
      · cases h
        simp only [weight, Phase.distance]
        omega
  case ended => cases h

/-- **Let the keeper go on** until it waits or is over. -/
def settle (k : Keeper) : Keeper :=
  match _h : k.step with
  | none => k
  | some next => next.settle
termination_by k.weight
decreasing_by exact weight_lt_of_step ‹_›

/-- A settled keeper has no step left to take. -/
@[simp] theorem step_settle (k : Keeper) : k.settle.step = none := by
  fun_induction settle k with
  | case1 k h => exact h
  | case2 k next h ih => exact ih

end Keeper

end GpuPlugin
