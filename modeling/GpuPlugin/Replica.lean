import GpuPlugin.Device

/-!
# Replica — the identities a device is advertised under

A physical device is split into replicas.  A replica's id is the device's id, the separator `::`
and a decimal index; cutting an id at its **last** separator gives the device back, because an
index has no colon in it.  Ids without a separator are cut to themselves.
-/

namespace GpuPlugin

/-- How many replicas each device is split into. -/
inductive Replication where
  /-- The same number for every device. -/
  | fixed (count : Nat)
  /-- One replica for every 1000 MiB of memory, rounded down. -/
  | auto
  deriving DecidableEq, Repr

namespace Replication

/-- The memory, in MiB, that one replica stands for when the count follows the memory. -/
def memoryPerReplica : Nat := 1000

/-- A count and a switch, as settings spell it: the switch wins. -/
def ofSettings (count : Nat) (auto : Bool) : Replication :=
  if auto then .auto else .fixed count

/-- Whether a device may have more than one identity. -/
def isShared : Replication → Bool
  | .fixed count => 1 < count
  | .auto => true

/-- How many replicas a device gets. -/
def countFor : Replication → Device → Nat
  | .fixed count, _ => count
  | .auto, d => d.memory / memoryPerReplica

end Replication

namespace Replica

/-- What stands between a device's id and a replica's index. -/
def separator : String := "::"

/-- The id of a device's replica. -/
def id (device : String) (index : Nat) : String :=
  device ++ separator ++ toString index

/-- The text before and after the last separator, if there is one. -/
def splitLast : List Char → Option (List Char × List Char)
  | [] => none
  | c :: cs =>
    match splitLast cs with
    | some (before, after) => some (c :: before, after)
    | none =>
      match c, cs with
      | ':', ':' :: after => some ([], after)
      | _, _ => none

/-- **The device behind an id**: what stands before the last separator. -/
def deviceId (id : String) : String :=
  match splitLast id.toList with
  | some (before, _) => String.ofList before
  | none => id

/-- The devices behind a list of ids, each once, in the order they are first named. -/
def deviceIds (ids : List String) : List String :=
  (ids.map deviceId).eraseDups

/-- The replica of a device with the given index: the device under another id. -/
def ofDevice (d : Device) (index : Nat) : Device :=
  { d with id := id d.id index }

end Replica

/-- All replicas of one device, by index. -/
def Replication.replicasOf (r : Replication) (d : Device) : List Device :=
  (List.range (r.countFor d)).map (Replica.ofDevice d)

/-- **The advertised list**: the replicas of every device, in device order. -/
def Replication.replicate (r : Replication) (devices : List Device) : List Device :=
  devices.flatMap r.replicasOf

end GpuPlugin
