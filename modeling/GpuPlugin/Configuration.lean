import GpuPlugin.CommandLine
import GpuPlugin.ConfigFile
import GpuPlugin.Host

/-!
# Configuration — settings from all their sources

A setting is taken from the command line, else from the config file, else from its default.  Only
the number of replicas can be wrong once all sources are put together.
-/

namespace GpuPlugin

namespace Settings

/-- What may be wrong with settings. -/
inductive Error where
  | noReplicas
  /-- A number of replicas, and their number left to the memory. -/
  | replicasTwice (count : Nat)
  deriving DecidableEq, Repr

def Error.message : Error → String
  | .noReplicas => "replicas must be at least 1"
  | .replicasTwice count => s!"replicas ({count}) and auto-replicas are mutually exclusive"

/-- How devices are replicated, for a number of replicas and a switch. -/
def checkedReplication (count : Nat) (auto : Bool) : Except Error Replication :=
  if count = 0 then .error .noReplicas
  else if auto && 1 < count then .error (.replicasTwice count)
  else .ok (.ofSettings count auto)

/-- **The settings** of a command line over those of a file. -/
def merge (line : CommandLine) (file : ConfigFile) : Except Error Settings := do
  let flags := file.flags
  let plugin := flags.plugin
  let replication ← checkedReplication ((line.replicas <|> flags.replicas).getD 1)
    ((line.autoReplicas <|> flags.autoReplicas).getD false)
  return {
    resourceName := (line.resourceName <|> flags.resourceName).getD defaultResourceName
    listStrategy := (line.listStrategy <|> plugin.listStrategy).getD .envvar
    idStrategy := (line.idStrategy <|> plugin.idStrategy).getD .uuid
    passDeviceSpecs := (line.passDeviceSpecs <|> plugin.passDeviceSpecs).getD false
    driverRoot := (line.driverRoot <|> flags.driverRoot).getD defaultDriverRoot
    listVariable := (line.listVariable <|> plugin.listVariable).getD defaultListVariable
    replication
    policy := (line.policy <|> flags.policy).getD .none
    failOnInitError := (line.failOnInitError <|> flags.failOnInitError).getD true
    socketPath := Path.join line.pluginDirectory line.socketName
    kubeletSocketPath := Path.join line.pluginDirectory line.kubeletSocketName }

end Settings

namespace Configuration

/-- Why settings cannot be loaded. -/
inductive Error where
  | unreadable (path : String) (fault : FileFault)
  | badFile (path : String) (e : ConfigFile.Error)
  | badSettings (e : Settings.Error)
  deriving DecidableEq, Repr

def Error.explanation : Error → Explanation
  | .unreadable path fault => [s!"failed to read config file {path}", fault.message]
  | .badFile path e => [s!"invalid config file {path}", e.message]
  | .badSettings e => [e.message]

/-- The file that a command line names, read from a host; without one it says nothing. -/
def readFile (read : String → Except FileFault String) (line : CommandLine) :
    Except Error ConfigFile :=
  match line.configFile with
  | none => .ok {}
  | some path => do
    let text ← (read path).mapError (.unreadable path)
    (ConfigFile.read text).mapError (.badFile path)

/-- **Load the settings** that a command line asks for. -/
def load (read : String → Except FileFault String) (line : CommandLine) :
    Except Error Settings := do
  let file ← readFile read line
  (Settings.merge line file).mapError .badSettings

end Configuration

end GpuPlugin
