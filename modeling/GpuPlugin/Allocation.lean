import GpuPlugin.Container
import GpuPlugin.Inventory
import GpuPlugin.Policy
import GpuPlugin.Ranking
import GpuPlugin.Settings
import GpuPlugin.Status

/-!
# Allocation — answering the kubelet's requests for devices

An allocation is granted for advertised replicas only, and is refused with the first id that is not
advertised.  A preferred allocation may name any replica of a listed device; devices that are split
are ranked (`Ranking`), others are left to the policy, and without a policy there is no preference.
-/

namespace GpuPlugin

/-- Which of the two lists of a preferred request an id came from. -/
inductive PreferredList where
  | available
  | required
  deriving DecidableEq, Repr

def PreferredList.name : PreferredList → String
  | .available => "available"
  | .required => "required"

/-- Why a request is refused. -/
inductive AllocationError where
  /-- A requested id is not advertised. -/
  | unknownDevice (resource id : String)
  /-- An id of a preferred request belongs to no listed device. -/
  | unknownPreferred (list : PreferredList) (id : String)
  /-- There is nothing to base a preference on. -/
  | noPreference
  deriving DecidableEq, Repr

namespace AllocationError

def message : AllocationError → String
  | .unknownDevice resource id =>
    s!"invalid allocation request for '{resource}': unknown device: {id}"
  | .unknownPreferred list id =>
    s!"unable to retrieve list of {list.name} devices: unknown device: {id}"
  | .noPreference => "GetPreferredAllocation() not implemented in this case"

def code : AllocationError → StatusCode
  | .noPreference => .unimplemented
  | _ => .invalidArgument

/-- The status that a refused call ends with. -/
def status (e : AllocationError) : Status := ⟨e.code, e.message⟩

end AllocationError

/-- What requests are answered from. -/
structure Allocator where
  settings : Settings
  inventory : Inventory
  policy : Option Policy

namespace Allocator

/-- The devices behind a list of replica ids, each once; the first that is not listed is refused. -/
def devicesBehind (a : Allocator) (refusal : String → AllocationError) (ids : List String) :
    Except AllocationError (List Device) :=
  (Replica.deviceIds ids).mapM fun id =>
    match a.inventory.device? id with
    | some d => .ok d
    | none => .error (refusal id)

/-- The preferred ids of one container. -/
def preferredFor (a : Allocator) (c : ContainerPreferredRequest) :
    Except AllocationError ContainerPreferredResponse := do
  let available ← a.devicesBehind (.unknownPreferred .available) c.available
  let required ← a.devicesBehind (.unknownPreferred .required) c.required
  let size := c.size.toInt.toNat
  if a.settings.replication.isShared then
    match Ranking.select c.available c.required size with
    | .ok ids => return ⟨ids⟩
    | .error e => return ⟨e.selection⟩
  else
    match a.policy with
    | some policy => return ⟨(policy.choose available required size).map (·.id)⟩
    | none => throw .noPreference

/-- **The preferred ids**, container by container; the first refusal ends the answer. -/
def preferred (a : Allocator) (request : PreferredRequest) :
    Except AllocationError PreferredResponse :=
  return ⟨← request.containers.mapM a.preferredFor⟩

/-- The first id of a list that is not advertised. -/
def firstUnknown? (a : Allocator) (ids : List String) : Option String :=
  ids.find? (!a.inventory.hasReplica ·)

/-- What a container is told about its devices: their ids or their indices. -/
def announced (a : Allocator) (devices : List Device) : List String :=
  match a.settings.idStrategy with
  | .uuid => devices.map (·.id)
  | .index => devices.map (·.index)

/-- The answer for a container that is given the listed devices. -/
def grant (a : Allocator) (pathExists : String → Bool) (devices : List Device) :
    ContainerAllocateResponse :=
  let names := a.announced devices
  let envvar := a.settings.listVariable
  { envs := match a.settings.listStrategy with
      | .envvar => Container.envs envvar names
      | .volumeMounts => Container.envs envvar [Container.mountRoot]
    mounts := match a.settings.listStrategy with
      | .envvar => []
      | .volumeMounts => Container.mounts names
    devices :=
      if a.settings.passDeviceSpecs then
        Container.deviceSpecs a.settings.driverRoot devices pathExists
      else []
    annotations := ∅
    cdiDevices := [] }

/-- The answer for one container. -/
def allocateFor (a : Allocator) (pathExists : String → Bool) (c : ContainerAllocateRequest) :
    Except AllocationError ContainerAllocateResponse := do
  if let some id := a.firstUnknown? c.deviceIds then
    throw (.unknownDevice a.settings.resourceName id)
  let devices ← a.devicesBehind (.unknownDevice a.settings.resourceName) c.deviceIds
  return a.grant pathExists devices

/-- **The allocation**, container by container; the first refusal ends the answer. -/
def allocate (a : Allocator) (pathExists : String → Bool) (request : AllocateRequest) :
    Except AllocationError AllocateResponse :=
  return ⟨← request.containers.mapM (a.allocateFor pathExists)⟩

end Allocator

end GpuPlugin
