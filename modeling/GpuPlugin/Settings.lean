import GpuPlugin.Path
import GpuPlugin.Replica

/-!
# Settings — what an instance of the plugin is set to

Settings are fixed for the life of the process.  Each has a default, and the two sockets lie in the
directory the kubelet watches.
-/

namespace GpuPlugin

/-- How the allocated devices are announced to a container. -/
inductive ListStrategy where
  /-- As the value of a variable. -/
  | envvar
  /-- As one mount for each device. -/
  | volumeMounts
  deriving DecidableEq, Repr, Inhabited

/-- What a device is called in a container. -/
inductive IdStrategy where
  | uuid
  | index
  deriving DecidableEq, Repr, Inhabited

/-- Which policy picks among devices that are not split. -/
inductive PolicyChoice where
  | none
  | simple
  deriving DecidableEq, Repr, Inhabited

/-- The spellings of the strategies and policies, which are the same in a file and on the command
line. -/
def ListStrategy.choices : List (String × ListStrategy) :=
  [("envvar", .envvar), ("volume-mounts", .volumeMounts)]

def IdStrategy.choices : List (String × IdStrategy) := [("uuid", .uuid), ("index", .index)]

def PolicyChoice.choices : List (String × PolicyChoice) := [("none", .none), ("simple", .simple)]

namespace Settings

def defaultResourceName : String := "nvidia.com/gpu"
def defaultListVariable : String := "NVIDIA_VISIBLE_DEVICES"
def defaultDriverRoot : String := "/"

/-- The directory in which the kubelet looks for sockets. -/
def defaultPluginDirectory : String := "/var/lib/kubelet/device-plugins"
def defaultSocketName : String := "nvidia-gpu.sock"
def defaultKubeletSocketName : String := "kubelet.sock"

end Settings

open Settings in
/-- The settings of one instance. -/
structure Settings where
  resourceName : String := defaultResourceName
  listStrategy : ListStrategy := .envvar
  idStrategy : IdStrategy := .uuid
  passDeviceSpecs : Bool := false
  driverRoot : String := defaultDriverRoot
  listVariable : String := defaultListVariable
  replication : Replication := .fixed 1
  policy : PolicyChoice := .none
  failOnInitError : Bool := true
  socketPath : String := Path.join defaultPluginDirectory defaultSocketName
  kubeletSocketPath : String := Path.join defaultPluginDirectory defaultKubeletSocketName
  deriving DecidableEq, Repr

end GpuPlugin
