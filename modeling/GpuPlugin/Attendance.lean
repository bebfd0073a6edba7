import GpuPlugin.Daemon

/-!
# Attendance — a keeper, and those who ask it

A keeper goes on by itself.  Two others put their requests into its mailbox: one listens to the
signals of the process, the other watches the directory of the kubelet's socket.  Neither waits for
the keeper, so anything may come at any time, also in the middle of a round.  The signal to end
dismisses the keeper, and no signal is listened to after it.
-/

namespace GpuPlugin

/-- A signal that is listened to. -/
inductive Signal where
  | hangup
  | terminate
  | interrupt
  deriving DecidableEq, Repr

/-- What a keeper is asked for by a signal. -/
def Signal.errand : Signal → Keeper.Action
  | .hangup => .request
  | .terminate | .interrupt => .dismiss

/-- **A keeper, and those who ask it.** -/
structure Attendance where
  keeper : Keeper
  /-- The path at which the kubelet's socket is looked for. -/
  socketPath : String
  watch : Daemon.Watch
  /-- Whether signals are still listened to. -/
  isListening : Bool := true

namespace Attendance

/-- Attend to a plugin, unless the directory of the kubelet's socket cannot be watched. -/
def begin (p : Plugin) (w : World) : Except Daemon.WatchError Attendance :=
  (Daemon.watch w.host p.settings.kubeletSocketPath).map fun watch =>
    { keeper := { plugin := p, world := w }, socketPath := p.settings.kubeletSocketPath, watch }

/-- What may happen. -/
inductive Action where
  | signal (s : Signal)
  /-- Something is seen of a file: it is new, or something else has become of it. -/
  | seen (isNew : Bool) (place : Location)
  /-- The health check reports a device. -/
  | report (id : String)
  /-- Others change the world. -/
  | change (w : World)
  | step
  | retry

/-- Whether what is seen of a file is the kubelet's socket made anew. -/
def isSocketMade (t : Attendance) (isNew : Bool) (place : Location) : Bool :=
  isNew && t.watch.notices t.socketPath place

/-- What an action comes to for the keeper, if it comes to anything. -/
def errand (t : Attendance) : Action → Option Keeper.Action
  | .signal s => if t.isListening then some s.errand else none
  | .seen isNew place => if t.isSocketMade isNew place then some .request else none
  | .report id => some (.report id)
  | .change w => some (.change w)
  | .step => some .step
  | .retry => some .retry

/-- Whether an action is a signal to end. -/
def Action.isEnding : Action → Bool
  | .signal .terminate | .signal .interrupt => true
  | _ => false

/-- What is left of an attendance after an action, if the action can happen. -/
def act (t : Attendance) (a : Action) : Option Attendance :=
  let isListening := t.isListening && !a.isEnding
  match t.errand a with
  | none => some { t with isListening }
  | some b => (t.keeper.act b).map fun keeper => { t with keeper, isListening }

/-- **A run**: the attendance after actions in order, if all of them can happen. -/
def run (t : Attendance) (actions : List Action) : Option Attendance := actions.foldlM act t

end Attendance

end GpuPlugin
