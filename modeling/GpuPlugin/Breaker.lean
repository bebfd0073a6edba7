/-!
# Breaker — when a server that keeps crashing is given up

Crashes that follow one another within an hour are counted together; a longer pause starts the
count again at one.  The sixth crash of such a run is one too many: a server that is supervised is
started again after each crash but that one.
-/

namespace GpuPlugin

/-- What to do after a crash. -/
inductive Verdict where
  | restart
  | giveUp
  deriving DecidableEq, Repr

/-- The crash count and the time the next crash is measured from, in nanoseconds. -/
structure Breaker where
  /-- The count, in 32 bits. -/
  count : UInt32
  lastCrash : Nat
  deriving DecidableEq, Repr

namespace Breaker

/-- Crashes tolerated in one run. -/
def maxRestarts : Nat := 5

/-- The longest pause, in nanoseconds, between two crashes of one run. -/
def window : Nat := 3600 * 1000000000

/-- A breaker that has seen no crash yet. -/
def new (startedAt : Nat) : Breaker := ⟨0, startedAt⟩

/-- The crashes counted so far: those of the current run. -/
def restarts (b : Breaker) : Nat := b.count.toNat

/-- The crash joins the run before it unless the pause was too long.  A clock that steps back
counts as no pause. -/
def recordCrash (b : Breaker) (now : Nat) : Breaker :=
  ⟨if window < now - b.lastCrash then 1 else b.count + 1, now⟩

/-- The verdict on the last crash. -/
def verdict (b : Breaker) : Verdict :=
  if maxRestarts < b.restarts then .giveUp else .restart

/-- The breaker after each of a list of crashes. -/
def history (b : Breaker) : List Nat → List Breaker
  | [] => []
  | now :: later => b.recordCrash now :: (b.recordCrash now).history later

end Breaker

/-- How an attempt to serve ends. -/
inductive Attempt where
  /-- The server comes to its end. -/
  | ended
  /-- The server crashes at some time; by then the plugin may have been told to stop. -/
  | crashed (time : Nat) (stopping : Bool)
  deriving DecidableEq, Repr

/-- What has become of a supervised server, with the breaker as it is then. -/
inductive Supervision where
  /-- Another attempt is under way. -/
  | serving (b : Breaker)
  /-- The server is done, or is not needed any more. -/
  | ended (b : Breaker)
  /-- The server has crashed too often. -/
  | givenUp (b : Breaker)
  deriving DecidableEq, Repr

/-- **A supervised server** is started again when it crashes, until the breaker gives it up.  A
crash after the plugin was told to stop is not recorded. -/
def Breaker.supervise (b : Breaker) : List Attempt → Supervision
  | [] => .serving b
  | .ended :: _ => .ended b
  | .crashed _ true :: _ => .ended b
  | .crashed time false :: later =>
    match (b.recordCrash time).verdict with
    | .giveUp => .givenUp (b.recordCrash time)
    | .restart => (b.recordCrash time).supervise later

end GpuPlugin
