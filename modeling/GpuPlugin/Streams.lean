import GpuPlugin.Plugin

/-!
# Streams — how snapshots reach those who watch

A session publishes every new snapshot in place of the one before.  Each stream has a task of its
own, which reads the snapshot that is current, sends it, and then waits for one it has not read, for
its client to go away or for its session to end.  Snapshots that follow each other quickly may be
skipped, but the last one never is.

Tasks, clients and sessions act in any order; `State.run` is one such order.
-/

namespace GpuPlugin.Streams

/-! ## Publishing -/

/-- **What a session has published.**  A reader sees the current snapshot and its version; the
earlier ones are kept to tell what readers may have seen. -/
structure Publication where
  current : List Device
  /-- The snapshots before the current one, the latest first. -/
  earlier : List (List Device) := []
  /-- Whether the session has ended. -/
  isOver : Bool := false
  deriving DecidableEq, Repr

namespace Publication

/-- How often the snapshot has been replaced. -/
def version (p : Publication) : Nat := p.earlier.length

/-- All snapshots, in the order in which they were current. -/
def history (p : Publication) : List (List Device) := (p.current :: p.earlier).reverse

/-- Replace the snapshot. -/
def publish (p : Publication) (snapshot : List Device) : Publication :=
  { p with current := snapshot, earlier := p.current :: p.earlier }

/-- Publish what a report on a device leaves of the snapshot, even if that is all of it. -/
def report (p : Publication) (id : String) : Publication :=
  p.publish (Session.reported id p.current)

@[simp] theorem history_publish (p : Publication) (snapshot : List Device) :
    (p.publish snapshot).history = p.history ++ [snapshot] := by
  simp [publish, history]

theorem getElem?_version_history (p : Publication) : p.history[p.version]? = some p.current := by
  simp [history, version]

end Publication

/-! ## Streams -/

/-- What the task of a stream does next. -/
inductive Phase where
  | reading
  | sending (snapshot : List Device)
  | waiting
  | ended
  deriving DecidableEq, Repr

/-- **A stream** of one session. -/
structure Stream where
  /-- The position of its session. -/
  session : Nat
  /-- The version that was current when the stream was opened. -/
  openedAt : Nat
  /-- The version it has read last. -/
  seen : Nat
  phase : Phase := .reading
  /-- Whether the client has gone away. -/
  isGone : Bool := false
  /-- The snapshots it has sent, in order. -/
  sent : List (List Device) := []
  deriving DecidableEq, Repr

/-- A stream that has just been opened. -/
def Stream.new (session : Nat) (p : Publication) : Stream :=
  { session, openedAt := p.version, seen := p.version }

/-- **The next step of a stream's task**, unless it waits or is over.  A task that waits looks first
for the end of its session, then for its client, then for a snapshot it has not read. -/
def Stream.step (s : Stream) (p : Publication) : Option Stream :=
  match s.phase with
  | .reading => some { s with phase := .sending p.current, seen := p.version }
  | .sending snapshot =>
    if s.isGone then some { s with phase := .ended }
    else some { s with phase := .waiting, sent := s.sent ++ [snapshot] }
  | .waiting =>
    if p.isOver ∨ s.isGone then some { s with phase := .ended }
    else if s.seen = p.version then none
    else some { s with phase := .reading }
  | .ended => none

/-! ## Runs -/

/-- All sessions there have been and all their streams. -/
structure State where
  sessions : List Publication := []
  streams : List Stream := []
  deriving DecidableEq, Repr

/-- What may happen.  Sessions and streams are named by their positions. -/
inductive Action where
  /-- A session begins with a list of replicas. -/
  | start (replicas : List Device)
  /-- A client opens a stream. -/
  | watch (session : Nat)
  | report (session : Nat) (id : String)
  | finish (session : Nat)
  /-- The client of a stream goes away. -/
  | leave (stream : Nat)
  /-- The task of a stream takes a step. -/
  | step (stream : Nat)
  deriving DecidableEq, Repr

namespace State

/-- Change what a session has published. -/
def updateSession (st : State) (i : Nat) (f : Publication → Publication) : Option State :=
  st.sessions[i]?.map fun p => { st with sessions := st.sessions.set i (f p) }

/-- Change a stream, if it can be changed in this way. -/
def updateStream (st : State) (i : Nat) (f : Stream → Option Stream) : Option State := do
  let s ← st.streams[i]?
  let s ← f s
  return { st with streams := st.streams.set i s }

/-- The state after an action, if the action can happen. -/
def act (st : State) : Action → Option State
  | .start replicas => some { st with sessions := st.sessions ++ [{ current := replicas }] }
  | .watch i => st.sessions[i]?.map fun p => { st with streams := st.streams ++ [.new i p] }
  | .report i id => st.updateSession i (·.report id)
  | .finish i => st.updateSession i ({ · with isOver := true })
  | .leave i => st.updateStream i fun s => some { s with isGone := true }
  | .step i => st.updateStream i fun s => st.sessions[s.session]?.bind s.step

/-- **A run**: the state after actions in order, if all of them can happen. -/
def run (st : State) (actions : List Action) : Option State := actions.foldlM act st

end State

end GpuPlugin.Streams
