import GpuPlugin.Replica

/-!
# Inventory — the devices of one session and what they are split into

An inventory holds the physical devices and how they are replicated; the advertised replicas are
read off these two, so that they cannot disagree with them.
-/

namespace GpuPlugin

/-- The devices listed at the start of a session, and their replication. -/
structure Inventory where
  devices : List Device
  replication : Replication
  deriving DecidableEq, Repr

namespace Inventory

/-- The replicas advertised to the kubelet, in device order and then by index. -/
def replicas (inv : Inventory) : List Device :=
  inv.replication.replicate inv.devices

/-- The first physical device with the given id. -/
def device? (inv : Inventory) (id : String) : Option Device :=
  inv.devices.find? (·.id == id)

/-- Whether an id is the id of an advertised replica. -/
def hasReplica (inv : Inventory) (id : String) : Bool :=
  inv.replicas.any (·.id == id)

end Inventory

end GpuPlugin
