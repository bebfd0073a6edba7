import GpuPlugin.Configuration
import GpuPlugin.LogFile
import GpuPlugin.Nvml.Enumeration
import GpuPlugin.Nvml.HealthCheck
import GpuPlugin.Restarts

/-!
# Daemon — from the command line to the last stop

A daemon reads its settings, opens its log and the management library, and then keeps a plugin
serving until it is told to end.  It restarts the plugin on request, and whenever the kubelet makes
its socket anew.
-/

namespace GpuPlugin

namespace Daemon

/-! ## Watching for the kubelet -/

/-- The watched directory: where it is, and the absolute path it is watched under. -/
structure Watch where
  directory : Location
  path : String
  deriving DecidableEq, Repr

/-- Why the kubelet's directory cannot be watched. -/
inductive WatchError where
  | noParent
  | unwatchable (dir absolute : String) (fault : FileFault)
  deriving DecidableEq, Repr

def WatchError.explanation : WatchError → Explanation
  | .noParent => ["kubelet socket path has no parent directory"]
  | .unwatchable dir absolute fault =>
    let cause := if fault = .notFound then "No path was found." else fault.message
    [s!"failed to watch {dir}", s!"{cause} about {Text.quotedList [absolute]}"]

/-- The working directory as a path. -/
def workingPath (h : Host) : String := "/" ++ "/".intercalate h.workingDirectory

/-- Watch the directory of the kubelet's socket. -/
def watch (h : Host) (socketPath : String) : Except WatchError Watch :=
  match Path.parent socketPath with
  | none => .error .noParent
  | some dir =>
    let path := Path.join (workingPath h) dir
    match h.locate path with
    | .error fault => .error (.unwatchable dir path fault)
    | .ok l =>
      if (h.entryAt? l).isSome then .ok ⟨l, path⟩ else .error (.unwatchable dir path .notFound)

/-- Whether something new at a place is taken for the kubelet's socket: it is in the watched
directory, and its path there is the one that is looked for. -/
def Watch.notices (w : Watch) (socketPath : String) (place : Location) : Bool :=
  match place.getLast? with
  | none => false
  | some name =>
    place.dropLast == w.directory &&
      Path.components (Path.join w.path name) == Path.components socketPath

/-! ## Running -/

/-- A process that keeps a plugin serving. -/
structure Running where
  library : Nvml.Library
  checks : Nvml.Checks
  watch : Watch
  keeper : Keeper
  /-- Whether the health check of the session still looks at events. -/
  checking : Bool := false

namespace Running

def plugin (r : Running) : Plugin := r.keeper.plugin

def world (r : Running) : World := r.keeper.world

/-- Take in what the health check reports. -/
def takeIn (r : Running) (reported : List String) : Running :=
  { r with keeper := reported.foldl Keeper.report r.keeper }

/-- Begin the health check of a session that has just started. -/
def beginCheck (r : Running) : Running :=
  match r.plugin.session with
  | none => { r with checking := false }
  | some s =>
    let run := r.library.checkHealth r.checks s.inventory.devices false []
    { r.takeIn run.reported with checking := !r.checks.disabled && (run.outcome matches .ok ()) }

/-- Let the keeper go on until it waits again. -/
def goOn (r : Running) : Running := { r with keeper := r.keeper.settle }.beginCheck

/-- **Restart the plugin.** -/
def restart (r : Running) : Running := { r with keeper := r.keeper.request }.goOn

/-- Something new is at a place: if it is taken for the kubelet's socket, the plugin is restarted.
-/
def appeared (r : Running) (place : Location) : Running :=
  if r.watch.notices r.plugin.settings.kubeletSocketPath place then r.restart else r

/-- What the health check reports for an event. -/
def reports (r : Running) (e : Nvml.Event) : List String :=
  match r.plugin.session with
  | some s => if r.checking then r.library.reportsOf r.checks s.inventory.devices e else []
  | none => []

/-- Take in an event of the library. -/
def event (r : Running) (e : Nvml.Event) : Running := r.takeIn (r.reports e)

end Running

/-! ## Starting and ending -/

/-- How a process ends: its exit code, and what it says about an error. -/
structure Exit where
  code : Nat
  error : Option Explanation := none
  deriving DecidableEq, Repr

/-- The text that is printed of an error. -/
def Exit.text (e : Exit) : Option String := e.error.map fun x => "Error: " ++ x.detailed

def Exit.failure (x : Explanation) : Exit := ⟨1, some x⟩

/-- What has become of a process. -/
inductive State where
  | exited (e : Exit)
  /-- Waiting for its end without the library. -/
  | idle
  | running (r : Running)

/-- What a process is started with. -/
structure Launch where
  args : List String
  environment : Environment
  library : Nvml.Library
  /-- The date of the day. -/
  date : String

/-- The exit of a process whose arguments are no command line. -/
def exitOfStop : CommandLine.Stop → Exit
  | .help | .version => ⟨0, none⟩
  | _ => ⟨2, none⟩

/-- Go on with settings: load the library, and start the plugin. -/
def runWith (l : Launch) (h : Host) (settings : Settings) : State :=
  match l.library.init with
  | .error e => if settings.failOnInitError then .exited (.failure e.explanation) else .idle
  | .ok () =>
    match watch h settings.kubeletSocketPath with
    | .error e => .exited (.failure e.explanation)
    | .ok w =>
      let policy := match settings.policy with
        | .none => none
        | .simple => some Policy.simple
      let r : Running :=
        { library := l.library
          checks := .read (l.environment Nvml.checksVariable)
          watch := w
          keeper :=
            { plugin := { settings, policy }
              world := { host := h, devices := l.library.devices.toOption } } }
      .running r.goOn

/-- Go on with a command line, once there is a log. -/
def runLine (l : Launch) (h : Host) (line : CommandLine) : State :=
  match Configuration.load h.readText line with
  | .error e => .exited (.failure e.explanation)
  | .ok settings => runWith l h settings

/-- **Start a process.**  The log is opened before the settings are loaded; the host is given back
as the log leaves it. -/
def launch (l : Launch) (h : Host) : State × Host :=
  match CommandLine.read l.args l.environment with
  | .error stop => (.exited (exitOfStop stop), h)
  | .ok line =>
    match line.logFile with
    | none => (runLine l h line, h)
    | some path =>
      match LogFile.start h l.date path with
      | (h, .error e) => (.exited (.failure e.explanation), h)
      | (h, .ok ()) => (runLine l h line, h)

/-- **End a running process**, which stops its plugin. -/
def Running.finish (r : Running) : Exit × Host :=
  let k := r.keeper.dismiss.settle
  match k.phase with
  | .ended (.error e) => (.failure ["failed to stop device plugin", e.message], k.world.host)
  | _ => (⟨0, none⟩, k.world.host)

end Daemon

end GpuPlugin
