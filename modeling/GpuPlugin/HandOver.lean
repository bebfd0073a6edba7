import GpuPlugin.Plugin

/-!
# HandOver — one health check at a time

While a session lasts, its checker puts reports into a queue of few places and its relay takes them
out and applies them to the snapshot.  A checker cannot be interrupted, and waits while the queue is
full; once the relay has ended, the queue is closed and reports are dropped.

Stopping the plugin cancels both, waits a while for the server and for the relay and then, as long
as it takes, for the checker.  Only then may the next session begin.
-/

namespace GpuPlugin.HandOver

/-! ## The tasks of a session -/

/-- What a checker does. -/
inductive Checker where
  | running
  /-- Waiting to put a report into the queue. -/
  | sending (id : String)
  | returned
  deriving DecidableEq, Repr

/-- **The health tasks of one session**, and the snapshot they act on. -/
structure Tasks where
  /-- The replicas the session began with. -/
  replicas : List Device
  snapshot : List Device := replicas
  checker : Checker := .running
  /-- The reports in the queue, the oldest first. -/
  queue : List String := []
  /-- Whether the relay has not ended. -/
  isRelaying : Bool := true
  isCancelled : Bool := false
  /-- The reports that were put into the queue, and those that were applied, in order. -/
  sent : List String := []
  applied : List String := []
  deriving DecidableEq, Repr

/-- What the tasks may do. -/
inductive Tasks.Action where
  /-- The checker finds something to report. -/
  | find (id : String)
  /-- The checker gets rid of its report. -/
  | send
  /-- The checker returns. -/
  | giveUp
  /-- The relay takes a report out of the queue and applies it. -/
  | receive
  /-- The relay ends. -/
  | leave
  deriving DecidableEq, Repr

namespace Tasks

/-- How many reports the queue holds. -/
def places : Nat := 32

/-- Get rid of the report the checker waits with: it goes into the queue if there is a place, and
nowhere if the queue is closed. -/
def send (t : Tasks) (id : String) : Option Tasks :=
  if t.isRelaying then
    if t.queue.length < places then
      some { t with checker := .running, queue := t.queue ++ [id], sent := t.sent ++ [id] }
    else none
  else some { t with checker := .running }

/-- Apply the oldest report in the queue. -/
def receive (t : Tasks) : Option Tasks :=
  match t.isRelaying, t.queue with
  | true, id :: queue =>
    some { t with
      queue
      snapshot := Session.reported id t.snapshot
      applied := t.applied ++ [id] }
  | _, _ => none

/-- End the relay, which it does when it is cancelled or nothing can come any more. -/
def leave (t : Tasks) : Option Tasks :=
  if t.isRelaying ∧ (t.isCancelled ∨ (t.checker = .returned ∧ t.queue = [])) then
    some { t with isRelaying := false, queue := [] }
  else none

/-- **The tasks after an action**, if the action can happen. -/
def act (t : Tasks) (a : Action) : Option Tasks :=
  match t.checker, a with
  | .running, .find id => some { t with checker := .sending id }
  | .sending id, .send => t.send id
  | .running, .giveUp => some { t with checker := .returned }
  | _, .receive => t.receive
  | _, .leave => t.leave
  | _, _ => none

end Tasks

/-! ## Starting and stopping -/

/-- How far the plugin is with starting and stopping.  A plugin that is started while it serves is
stopped first, and then started *again*. -/
inductive Stage where
  | idle
  | starting
  | serving
  | awaitingServer (again : Bool)
  | awaitingRelay (again : Bool)
  | awaitingChecker (again : Bool)
  /-- Removing the socket. -/
  | clearing (again : Bool)
  deriving DecidableEq, Repr

/-- The plugin, and the tasks of all sessions in the order in which they began. -/
structure State where
  stage : Stage := .idle
  sessions : List Tasks := []
  deriving DecidableEq, Repr

/-- What may happen. -/
inductive Action where
  | start
  | stop
  /-- The start succeeds: a session has begun, with a list of replicas. -/
  | started (replicas : List Device)
  | startFailed
  /-- The server has ended, or was waited for long enough. -/
  | serverAwaited
  /-- The relay has ended, or was waited for long enough. -/
  | relayAwaited
  | checkerAwaited
  /-- The socket is removed, or cannot be. -/
  | cleared (ok : Bool)
  /-- The tasks of the session at a position act. -/
  | task (session : Nat) (a : Tasks.Action)
  deriving DecidableEq, Repr

namespace State

/-- The tasks of the latest session. -/
def latest? (st : State) : Option Tasks := st.sessions.getLast?

/-- Change the tasks of a session, if they can be changed in this way. -/
def updateTasks (st : State) (i : Nat) (f : Tasks → Option Tasks) : Option State := do
  let t ← st.sessions[i]?
  let t ← f t
  return { st with sessions := st.sessions.set i t }

/-- Cancel the tasks of the latest session, and begin to wait for them. -/
def cancel (st : State) (again : Bool) : State :=
  { stage := .awaitingServer again
    sessions := st.sessions.modify (st.sessions.length - 1) ({ · with isCancelled := true }) }

/-- **The state after an action**, if the action can happen. -/
def act (st : State) (a : Action) : Option State :=
  match st.stage, a with
  | .idle, .start => some { st with stage := .starting }
  | .serving, .start => some (st.cancel true)
  | .idle, .stop => some st
  | .serving, .stop => some (st.cancel false)
  | .starting, .started replicas =>
    some { stage := .serving, sessions := st.sessions ++ [{ replicas }] }
  | .starting, .startFailed => some { st with stage := .idle }
  | .awaitingServer again, .serverAwaited => some { st with stage := .awaitingRelay again }
  | .awaitingRelay again, .relayAwaited => some { st with stage := .awaitingChecker again }
  | .awaitingChecker again, .checkerAwaited =>
    if st.latest?.any (·.checker = .returned) then some { st with stage := .clearing again }
    else none
  | .clearing again, .cleared ok =>
    some { st with stage := if again ∧ ok then .starting else .idle }
  | _, .task i a => st.updateTasks i (·.act a)
  | _, _ => none

/-- **A run**: the state after actions in order, if all of them can happen. -/
def run (st : State) (actions : List Action) : Option State := actions.foldlM act st

end State

end GpuPlugin.HandOver
