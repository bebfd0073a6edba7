import GpuPlugin.Labels
import GpuPlugin.Device

/-!
# Message — what the plugin and the kubelet say to each other

The messages of the kubelet's device plugin interface, version `v1beta1`: registration, the
advertised device list, preferred allocations and allocations.
-/

namespace GpuPlugin

/-- The version of the interface. -/
def interfaceVersion : String := "v1beta1"

/-- What the plugin can do beyond the plain allocation. -/
structure Options where
  preStartRequired : Bool
  preferredAllocationAvailable : Bool
  deriving DecidableEq, Repr, Inhabited

/-- The plugin's request to be known to the kubelet. -/
structure RegisterRequest where
  version : String
  /-- The name of the plugin's socket in the kubelet's plugin directory. -/
  endpoint : String
  resourceName : String
  options : Option Options
  deriving DecidableEq, Repr, Inhabited

/-- The message that says nothing. -/
structure EmptyMessage where
  deriving DecidableEq, Repr, Inhabited

/-- A memory node of the machine. -/
structure NumaNode where
  id : Int64
  deriving DecidableEq, Repr, Inhabited

/-- The memory nodes close to a device. -/
structure Topology where
  nodes : List NumaNode
  deriving DecidableEq, Repr, Inhabited

/-- A device as the kubelet sees it. -/
structure AdvertisedDevice where
  id : String
  health : String
  topology : Option Topology
  deriving DecidableEq, Repr, Inhabited

/-- The whole list of devices, sent anew after every change. -/
structure DeviceList where
  devices : List AdvertisedDevice
  deriving DecidableEq, Repr, Inhabited

/-- A device as it is advertised.  Nothing is said about its place in the machine. -/
def Device.advertise (d : Device) : AdvertisedDevice := ⟨d.id, d.health.name, none⟩

structure PreStartRequest where
  deviceIds : List String
  deriving DecidableEq, Repr, Inhabited

structure ContainerPreferredRequest where
  available : List String
  required : List String
  size : Int32
  deriving DecidableEq, Repr, Inhabited

structure PreferredRequest where
  containers : List ContainerPreferredRequest
  deriving DecidableEq, Repr, Inhabited

structure ContainerPreferredResponse where
  deviceIds : List String
  deriving DecidableEq, Repr, Inhabited

structure PreferredResponse where
  containers : List ContainerPreferredResponse
  deriving DecidableEq, Repr, Inhabited

structure ContainerAllocateRequest where
  deviceIds : List String
  deriving DecidableEq, Repr, Inhabited

structure AllocateRequest where
  containers : List ContainerAllocateRequest
  deriving DecidableEq, Repr, Inhabited

/-- A host path made visible in a container. -/
structure Mount where
  containerPath : String
  hostPath : String
  readOnly : Bool
  deriving DecidableEq, Repr, Inhabited

/-- A device node made visible in a container. -/
structure DeviceSpec where
  containerPath : String
  hostPath : String
  permissions : String
  deriving DecidableEq, Repr, Inhabited

/-- A device named in the container device interface. -/
structure CdiDevice where
  name : String
  deriving DecidableEq, Repr, Inhabited

/-- What a container is started with. -/
structure ContainerAllocateResponse where
  envs : Labels
  mounts : List Mount
  devices : List DeviceSpec
  annotations : Labels
  cdiDevices : List CdiDevice
  deriving DecidableEq, Inhabited

structure AllocateResponse where
  containers : List ContainerAllocateResponse
  deriving DecidableEq, Inhabited

end GpuPlugin
