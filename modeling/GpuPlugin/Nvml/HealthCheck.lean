import GpuPlugin.Device
import GpuPlugin.Nvml.Checks
import GpuPlugin.Nvml.Library

/-!
# Nvml/HealthCheck — turning the library's events into reports

A check first sets up the events of every watched device, in order, and reports at once those that
cannot be watched; a failing call ends it there.  Then every event is looked at: a critical error
that counts is reported for its device, or for all watched devices when it cannot be tied to one.
-/

namespace GpuPlugin.Nvml

/-- One answer to waiting for an event. -/
structure Event where
  /-- The position of the accelerator the event comes from, if it has one. -/
  gpu : Option Nat := none
  xid : Nat := 0
  kind : EventMask := 8
  /-- Why the wait itself failed. -/
  waitFault : Option Fault := none
  /-- Why the accelerator's name could not be had. -/
  uuidFault : Option Fault := none
  deriving DecidableEq, Repr

/-- The name of the accelerator an event comes from.  It is had from the event, so that whether this
fails is up to the event, and not to the accelerator's listing. -/
def Library.eventSource (lib : Library) (e : Event) : Except Fault String :=
  match e.uuidFault, e.gpu.bind (lib.gpus[·]?) with
  | some f, _ => .error f
  | none, some g => .ok g.uuid
  | none, none => .error .invalidArgument

/-- What a check has reported, and how it ended. -/
structure CheckRun where
  reported : List String
  outcome : Except Error Unit

/-- Start watching a device, if it reports critical errors at all; the answer says whether it is
being watched. -/
def Library.watch (lib : Library) (id : String) : Except Error Bool := do
  let gpu ← calling (lib.gpuNamed id)
  match answer gpu.eventTypesFault gpu.eventTypes with
  | .error .notSupported => return false
  | .error f => throw ⟨some (.queryEvents id), f⟩
  | .ok mask =>
    if isCriticalMask mask then
      attempting (.watch id) (answer gpu.watchFault true)
    else return false

/-- Set up the devices in order; those that cannot be watched are reported. -/
def Library.setUp (lib : Library) : List Device → CheckRun
  | [] => ⟨[], .ok ()⟩
  | d :: ds =>
    match lib.watch d.id with
    | .error e => ⟨[], .error e⟩
    | .ok true => lib.setUp ds
    | .ok false =>
      let rest := lib.setUp ds
      { rest with reported := d.id :: rest.reported }

/-- What is reported for one event. -/
def Library.reportsOf (lib : Library) (checks : Checks) (devices : List Device) (e : Event) :
    List String :=
  if e.waitFault.isSome || !isCriticalMask e.kind || !checks.isCritical (Xid.ofNumber e.xid) then []
  else
    match lib.eventSource e with
    | .ok uuid => [uuid]
    | .error _ => devices.map (·.id)

/-- **The health check**: what it reports over a run of events, and how it ends.  A check that is
stopped beforehand still sets up the devices. -/
def Library.checkHealth (lib : Library) (checks : Checks) (devices : List Device)
    (stopped : Bool) (events : List Event) : CheckRun :=
  if checks.disabled then ⟨[], .ok ()⟩
  else
    match calling (answer lib.eventSetFault ()) with
    | .error e => ⟨[], .error e⟩
    | .ok () =>
      let start := lib.setUp devices
      match start.outcome with
      | .error e => ⟨start.reported, .error e⟩
      | .ok () =>
        ⟨start.reported ++ if stopped then [] else events.flatMap (lib.reportsOf checks devices),
          .ok ()⟩

end GpuPlugin.Nvml
