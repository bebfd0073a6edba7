import GpuPlugin.Replica
import GpuPlugin.Text.Quoted

/-!
# Ranking — choosing replicas so that devices are shared as little as possible

Out of the available replica ids a number is picked, the required ones first.  Each further pick is
a **best candidate**: one whose device has the fewest replicas in the selection so far, among those
one whose device has the most replicas still free, and among those the first.  The selection is
reported as not unique when it holds two replicas of one device.
-/

namespace GpuPlugin

/-- A replica id together with the device behind it, which is cut out of the id once. -/
structure Candidate where
  id : String
  device : String
  device_eq : device = Replica.deviceId id
  deriving DecidableEq

namespace Candidate

def ofId (id : String) : Candidate := ⟨id, Replica.deviceId id, rfl⟩

@[ext] theorem ext {a b : Candidate} (h : a.id = b.id) : a = b := by
  obtain ⟨i, d, hd⟩ := a
  obtain ⟨j, e, he⟩ := b
  simp only at h
  simp only [mk.injEq]
  exact ⟨h, by rw [hd, he, h]⟩

@[simp] theorem ofId_id (c : Candidate) : ofId c.id = c := Candidate.ext rfl

end Candidate

namespace Ranking

/-- How many members of a list share the device of a candidate. -/
def sameDevice (l : List Candidate) (c : Candidate) : Nat :=
  l.countP (·.device == c.device)

/-- What the next pick is decided by. -/
structure Key where
  /-- Replicas of the device that are in the selection. -/
  used : Nat
  /-- Replicas of the device that are still free. -/
  free : Nat
  deriving DecidableEq, Repr

/-- Fewer used replicas come first, then more free ones. -/
def Key.before (a b : Key) : Bool :=
  a.used < b.used || (a.used == b.used && b.free < a.free)

/-- The key of a candidate, given the selection and the candidates left. -/
def key (selection candidates : List Candidate) (c : Candidate) : Key :=
  ⟨sameDevice selection c, sameDevice candidates c⟩

/-- The first entry whose key no other key is before. -/
def firstBest : List (Key × Candidate) → Option (Key × Candidate)
  | [] => none
  | x :: xs =>
    match firstBest xs with
    | none => some x
    | some y => if y.1.before x.1 then some y else some x

/-- The candidate to pick next. -/
def next? (selection candidates : List Candidate) : Option Candidate :=
  (firstBest (candidates.map fun c => (key selection candidates c, c))).map Prod.snd

/-- Pick up to `n` more candidates, one by one. -/
def extend : Nat → List Candidate → List Candidate → List Candidate
  | 0, selection, _ => selection
  | n + 1, selection, candidates =>
    match next? selection candidates with
    | none => selection
    | some c => extend n (selection ++ [c]) (candidates.erase c)

/-- The required candidates, each once. -/
def required (ids : List String) : List Candidate :=
  (ids.map Candidate.ofId).eraseDups

/-- The available candidates, each once, that are not required. -/
def optional (available : List String) (req : List Candidate) : List Candidate :=
  (available.map Candidate.ofId).eraseDups.filter (!req.contains ·)

/-- The selection, as candidates. -/
def picks (available requiredIds : List String) (size : Nat) : List Candidate :=
  let req := required requiredIds
  extend (size - req.length) req (optional available req)

/-- The devices that occur more than once in a selection, in the order of their characters. -/
def shared (selection : List Candidate) : List String :=
  let devices := selection.map (·.device)
  (devices.eraseDups.filter fun d => 1 < devices.count d).mergeSort (fun a b => decide (a ≤ b))

/-- A selection that hands out two replicas of one device.  It can still be used. -/
structure NotUnique where
  /-- The devices handed out more than once. -/
  devices : List String
  selection : List String
  deriving DecidableEq, Repr

def NotUnique.message (e : NotUnique) : String :=
  let devices := Text.quotedList e.devices
  let selection := Text.quotedList e.selection
  s!"non-unique replica assignment: {devices} repeated in {selection}"

/-- **Choose `size` replicas**, or as many as there are, always keeping the required ones.

The room that is reserved for the selection before anything is picked is not modelled.  There is
never enough of it for more than `2 ^ 63 / 24` ids: such a size fails before the first pick, and has
an answer here.  The kubelet names its sizes in 32 bits. -/
def select (available requiredIds : List String) (size : Nat) :
    Except NotUnique (List String) :=
  let chosen := picks available requiredIds size
  let ids := chosen.map (·.id)
  match shared chosen with
  | [] => .ok ids
  | devices => .error ⟨devices, ids⟩

end Ranking

end GpuPlugin
