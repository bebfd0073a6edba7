import GpuPlugin.Message
import GpuPlugin.Path

/-!
# Container — what a container is given for its devices

The devices of a container are announced in a variable or as mounts of the null device, one for each
device; their nodes can be handed over as well, together with the driver's control nodes.
-/

namespace GpuPlugin.Container

/-- The host side of the mounts that announce devices. -/
def mountSource : String := "/dev/null"

/-- The directory of a container in which each announced device has an entry. -/
def mountRoot : String := "/var/run/nvidia-container-devices"

/-- The control nodes of the driver, in the order in which they are handed over. -/
def controlNodes : List String :=
  ["/dev/nvidiactl", "/dev/nvidia-uvm", "/dev/nvidia-uvm-tools", "/dev/nvidia-modeset"]

/-- The rights a container has on a device node. -/
def nodePermissions : String := "rw"

/-- A path below a root, also when the path is absolute. -/
def under (root path : String) : String :=
  Path.join root (String.ofList (path.toList.dropWhile (· == '/')))

/-- One variable that names the devices, separated by commas. -/
def envs (envvar : String) (names : List String) : Labels :=
  Labels.single envvar (",".intercalate names)

/-- One mount for each device name. -/
def mounts (names : List String) : List Mount :=
  names.map fun name => ⟨under mountRoot name, mountSource, false⟩

/-- **The nodes handed over**: the control nodes that exist on the host, then the nodes of each
device; their host paths lie below the driver's root. -/
def deviceSpecs (driverRoot : String) (devices : List Device) (pathExists : String → Bool) :
    List DeviceSpec :=
  (controlNodes.filter pathExists ++ devices.flatMap (·.paths)).map fun path =>
    ⟨path, under driverRoot path, nodePermissions⟩

end GpuPlugin.Container
