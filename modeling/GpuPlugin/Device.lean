/-!
# Device — an accelerator of the node and its health

A device is known by its id; its index and its device nodes are what a container is given, its
memory decides how many replicas it is split into.  Health starts out good and is only ever lost:
nothing in this library turns an unhealthy device healthy again.
-/

namespace GpuPlugin

/-- What the kubelet is told about a device. -/
inductive Health where
  | healthy
  | unhealthy
  deriving DecidableEq, Repr

/-- The kubelet's own word for a health. -/
def Health.name : Health → String
  | .healthy => "Healthy"
  | .unhealthy => "Unhealthy"

/-- **One accelerator**, either a physical one or one of its replicas. -/
structure Device where
  /-- The stable identity, unique on a well-behaved node. -/
  id : String
  /-- The position the driver gives the device, as text. -/
  index : String
  /-- Total memory in MiB. -/
  memory : Nat
  /-- Device nodes that expose the device to programs. -/
  paths : List String
  health : Health
  deriving DecidableEq, Repr

namespace Device

/-- The same device, reported as broken. -/
def failed (d : Device) : Device := { d with health := .unhealthy }

@[simp] theorem failed_id (d : Device) : d.failed.id = d.id := rfl

@[simp] theorem failed_failed (d : Device) : d.failed.failed = d.failed := rfl

end Device

end GpuPlugin
