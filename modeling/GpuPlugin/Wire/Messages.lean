import GpuPlugin.Message
import GpuPlugin.Wire.Codec

/-!
# Wire/Messages — the fields of the kubelet's messages

Each message gives its fields the numbers of the kubelet's interface.
-/

namespace GpuPlugin.Wire

instance : Codec Options where
  Fields := Bool × Bool × Unit
  layout := .field 1 .truth <| .field 2 .truth .nil
  split m := (m.preStartRequired, m.preferredAllocationAvailable, ())
  build := fun (preStartRequired, preferredAllocationAvailable, ()) =>
    { preStartRequired, preferredAllocationAvailable }

instance : Codec RegisterRequest where
  Fields := String × String × String × Option Options × Unit
  layout := .field 1 .text <| .field 2 .text <| .field 3 .text <| .field 4 (.optional Options) .nil
  split m := (m.version, m.endpoint, m.resourceName, m.options, ())
  build := fun (version, endpoint, resourceName, options, ()) =>
    { version, endpoint, resourceName, options }

instance : Codec EmptyMessage where
  Fields := Unit
  layout := .nil
  split _ := ()
  build _ := {}

instance : Codec NumaNode where
  Fields := Int64 × Unit
  layout := .field 1 .int64 .nil
  split m := (m.id, ())
  build := fun (id, ()) => { id }

instance : Codec Topology where
  Fields := List NumaNode × Unit
  layout := .field 1 (.messages NumaNode) .nil
  split m := (m.nodes, ())
  build := fun (nodes, ()) => { nodes }

instance : Codec AdvertisedDevice where
  Fields := String × String × Option Topology × Unit
  layout := .field 1 .text <| .field 2 .text <| .field 3 (.optional Topology) .nil
  split m := (m.id, m.health, m.topology, ())
  build := fun (id, health, topology, ()) => { id, health, topology }

instance : Codec DeviceList where
  Fields := List AdvertisedDevice × Unit
  layout := .field 1 (.messages AdvertisedDevice) .nil
  split m := (m.devices, ())
  build := fun (devices, ()) => { devices }

instance : Codec PreStartRequest where
  Fields := List String × Unit
  layout := .field 1 .texts .nil
  split m := (m.deviceIds, ())
  build := fun (deviceIds, ()) => { deviceIds }

instance : Codec ContainerPreferredRequest where
  Fields := List String × List String × Int32 × Unit
  layout := .field 1 .texts <| .field 2 .texts <| .field 3 .int32 .nil
  split m := (m.available, m.required, m.size, ())
  build := fun (available, required, size, ()) => { available, required, size }

instance : Codec PreferredRequest where
  Fields := List ContainerPreferredRequest × Unit
  layout := .field 1 (.messages ContainerPreferredRequest) .nil
  split m := (m.containers, ())
  build := fun (containers, ()) => { containers }

instance : Codec ContainerPreferredResponse where
  Fields := List String × Unit
  layout := .field 1 .texts .nil
  split m := (m.deviceIds, ())
  build := fun (deviceIds, ()) => { deviceIds }

instance : Codec PreferredResponse where
  Fields := List ContainerPreferredResponse × Unit
  layout := .field 1 (.messages ContainerPreferredResponse) .nil
  split m := (m.containers, ())
  build := fun (containers, ()) => { containers }

instance : Codec ContainerAllocateRequest where
  Fields := List String × Unit
  layout := .field 1 .texts .nil
  split m := (m.deviceIds, ())
  build := fun (deviceIds, ()) => { deviceIds }

instance : Codec AllocateRequest where
  Fields := List ContainerAllocateRequest × Unit
  layout := .field 1 (.messages ContainerAllocateRequest) .nil
  split m := (m.containers, ())
  build := fun (containers, ()) => { containers }

instance : Codec Mount where
  Fields := String × String × Bool × Unit
  layout := .field 1 .text <| .field 2 .text <| .field 3 .truth .nil
  split m := (m.containerPath, m.hostPath, m.readOnly, ())
  build := fun (containerPath, hostPath, readOnly, ()) => { containerPath, hostPath, readOnly }

instance : Codec DeviceSpec where
  Fields := String × String × String × Unit
  layout := .field 1 .text <| .field 2 .text <| .field 3 .text .nil
  split m := (m.containerPath, m.hostPath, m.permissions, ())
  build := fun (containerPath, hostPath, permissions, ()) => { containerPath, hostPath, permissions }

instance : Codec CdiDevice where
  Fields := String × Unit
  layout := .field 1 .text .nil
  split m := (m.name, ())
  build := fun (name, ()) => { name }

/-! ## Maps -/

/-- One entry of a map, which is sent as a message of its own. -/
structure LabelEntry where
  name : String
  text : String
  deriving DecidableEq, Repr, Inhabited

instance : Codec LabelEntry where
  Fields := String × String × Unit
  layout := .field 1 .text <| .field 2 .text .nil
  split m := (m.name, m.text, ())
  build := fun (name, text, ()) => { name, text }

/-- A map as the list of its entries. -/
def labelEntries (m : Labels) : List LabelEntry := m.entries.map fun e => ⟨e.1, e.2⟩

/-- A map, each entry sent on its own. -/
def Kind.labels : Kind Labels where
  blank := ∅
  isBlock := true
  payloads m := (labelEntries m).map (Element.message LabelEntry).payload
  take depth m p :=
    ((Element.message LabelEntry).read depth p).map fun e => m.insert e.name e.text

instance : Codec ContainerAllocateResponse where
  Fields := Labels × List Mount × List DeviceSpec × Labels × List CdiDevice × Unit
  layout := .field 1 .labels <| .field 2 (.messages Mount) <| .field 3 (.messages DeviceSpec) <|
    .field 4 .labels <| .field 5 (.messages CdiDevice) .nil
  split m := (m.envs, m.mounts, m.devices, m.annotations, m.cdiDevices, ())
  build := fun (envs, mounts, devices, annotations, cdiDevices, ()) =>
    { envs, mounts, devices, annotations, cdiDevices }

instance : Codec AllocateResponse where
  Fields := List ContainerAllocateResponse × Unit
  layout := .field 1 (.messages ContainerAllocateResponse) .nil
  split m := (m.containers, ())
  build := fun (containers, ()) => { containers }

end GpuPlugin.Wire
