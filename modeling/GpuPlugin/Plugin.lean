import GpuPlugin.Allocation
import GpuPlugin.Host

/-!
# Plugin — serving sessions and being known to the kubelet

A plugin that is started lists the devices, serves on its socket and registers; from then on it has
a session, until it is stopped.  A session is set up by the plugin when it begins, and answers the
kubelet from what it holds itself.  Everything that may change while it serves belongs to it: the
health of the replicas, and the streams on which the kubelet watches them.

Starting and stopping act on a *world*, which others change as well: the files of the host, the
kubelet, and the devices there are.
-/

namespace GpuPlugin

/-- How the life of a plugin fails. -/
inductive PluginError where
  | devices (resource : String)
  | serve (path : String)
  | register (path : String)
  | stop (path : String)
  | crashLoop (resource : String)
  deriving DecidableEq, Repr

def PluginError.message : PluginError → String
  | .devices resource => s!"failed to load devices for '{resource}'"
  | .serve path => s!"failed to serve device plugin on {path}"
  | .register path => s!"failed to register with kubelet at {path}"
  | .stop path => s!"failed to remove device plugin socket {path}"
  | .crashLoop resource => s!"GRPC server for '{resource}' has repeatedly crashed recently"

/-! ## The world -/

/-- The kubelet, by what it does with registrations. -/
structure Kubelet where
  /-- Whether it turns registrations down. -/
  refuses : Bool := false
  /-- The registrations it has taken, the latest last. -/
  registered : List RegisterRequest := []
  /-- How many registrations have reached it, taken or not. -/
  attempts : Nat := 0
  deriving DecidableEq, Repr

/-- **What a plugin acts on and depends on.** -/
structure World where
  host : Host
  kubelet : Kubelet := {}
  /-- The devices that are listed when they are asked for; listing them may fail. -/
  devices : Option (List Device)
  /-- Whether a server answers on its socket in time. -/
  answers : Bool := true

/-- Send a registration to the kubelet's socket; it succeeds if the kubelet answers there and takes
it. -/
def World.register (w : World) (path : String) (r : RegisterRequest) : Bool × World :=
  match w.host.dial path with
  | some .kubelet =>
    let k := { w.kubelet with attempts := w.kubelet.attempts + 1 }
    if k.refuses then (false, { w with kubelet := k })
    else (true, { w with kubelet := { k with registered := k.registered ++ [r] } })
  | _ => (false, w)

/-! ## Sessions -/

/-- **One session**, with all that the kubelet's requests are answered from. -/
structure Session where
  /-- Sessions are numbered from one. -/
  number : Nat
  settings : Settings
  inventory : Inventory
  policy : Option Policy
  /-- What the plugin can do. -/
  options : Options
  /-- The replicas as they are advertised now. -/
  snapshot : List Device
  deriving DecidableEq, Repr

namespace Session

/-- A session at its beginning. -/
def new (number : Nat) (settings : Settings) (policy : Option Policy) (options : Options)
    (inventory : Inventory) : Session :=
  { number, settings, inventory, policy, options, snapshot := inventory.replicas }

/-- What allocations are answered from. -/
def allocator (s : Session) : Allocator := ⟨s.settings, s.inventory, s.policy⟩

/-- A list of replicas after a report on a device: its replicas are broken. -/
def reported (id : String) (replicas : List Device) : List Device :=
  replicas.map fun r => if Replica.deviceId r.id = id then r.failed else r

/-- **Take in a report** that a device is broken.  There is no way back. -/
def report (s : Session) (id : String) : Session := { s with snapshot := reported id s.snapshot }

/-- The device list that is sent to the kubelet. -/
def deviceList (s : Session) : DeviceList := ⟨s.snapshot.map Device.advertise⟩

end Session

/-! ## The plugin -/

/-- **A plugin.** -/
structure Plugin where
  settings : Settings
  policy : Option Policy
  /-- How many sessions there have been. -/
  sessions : Nat := 0
  session : Option Session := none
  /-- The open streams, each by the number of the session it was opened in. -/
  streams : List Nat := []

namespace Plugin

def isServing (p : Plugin) : Bool := p.session.isSome

/-- What the plugin can do: it has preferences if it has a policy, or if it ranks replicas. -/
def options (p : Plugin) : Options :=
  ⟨false, p.policy.isSome || p.settings.replication.isShared⟩

/-- The registration that the plugin sends. -/
def registration (p : Plugin) : RegisterRequest :=
  ⟨interfaceVersion, (Path.fileName p.settings.socketPath).getD "", p.settings.resourceName,
    some p.options⟩

/-- How an action ends, and what it leaves behind. -/
structure Outcome where
  result : Except PluginError Unit
  plugin : Plugin
  world : World

/-- The plugin without its session, whose streams end with it. -/
def withoutSession (p : Plugin) : Plugin :=
  match p.session with
  | none => p
  | some s => { p with session := none, streams := p.streams.filter (· != s.number) }

@[simp] theorem isServing_withoutSession (p : Plugin) : p.withoutSession.isServing = false := by
  cases h : p.session <;> simp [withoutSession, isServing, h]

/-- **Stop serving.**  The session is over even if the socket cannot be removed. -/
def stop (p : Plugin) (w : World) : Outcome :=
  if p.isServing then
    match w.host.clear p.settings.socketPath with
    | .ok host => ⟨.ok (), p.withoutSession, { w with host }⟩
    | .error _ => ⟨.error (.stop p.settings.socketPath), p.withoutSession, w⟩
  else ⟨.ok (), p, w⟩

/-- However a stop ends, the plugin does not serve after it. -/
@[simp] theorem isServing_stop (p : Plugin) (w : World) : (p.stop w).plugin.isServing = false := by
  simp only [stop]
  split
  · split <;> simp
  next h => simpa using h

/-- Serve a session on a path in place of a file or socket that is in the way, and see that it
answers.  What was removed stays removed if this fails. -/
def bindSocket (w : World) (path : String) (session : Nat) : Except Host Host :=
  match w.host.clear path with
  | .error _ => .error w.host
  | .ok cleared =>
    match cleared.bind path (.plugin session) with
    | none => .error cleared
    | some bound => if w.answers then .ok bound else .error bound

/-- The host after a socket could not be served: it is removed if that is possible. -/
def abandon (h : Host) (path : String) : Host :=
  match h.remove path with
  | .ok h => h
  | .error _ => h

/-- **Register with the kubelet.** -/
def register (p : Plugin) (w : World) : Outcome :=
  let (taken, w) := w.register p.settings.kubeletSocketPath p.registration
  if taken then ⟨.ok (), p, w⟩ else ⟨.error (.register p.settings.kubeletSocketPath), p, w⟩

@[simp] theorem plugin_register (p : Plugin) (w : World) : (p.register w).plugin = p := by
  simp only [register]
  split <;> rfl

/-- The plugin in its next session, which is of the listed devices. -/
def next (p : Plugin) (devices : List Device) : Plugin :=
  let number := p.sessions + 1
  let inventory := ⟨devices, p.settings.replication⟩
  let session := Session.new number p.settings p.policy p.options inventory
  { p with sessions := number, session := some session }

/-- Serve a session of the listed devices and register; the session is given up if that fails. -/
def serve (p : Plugin) (w : World) (devices : List Device) : Outcome :=
  match bindSocket w p.settings.socketPath (p.sessions + 1) with
  | .error host =>
    ⟨.error (.serve p.settings.socketPath), p,
      { w with host := abandon host p.settings.socketPath }⟩
  | .ok host =>
    let r := (p.next devices).register { w with host }
    match r.result with
    | .ok () => r
    | .error e => { r.plugin.stop r.world with result := .error e }

/-- Start a plugin that is not serving. -/
def startIdle (p : Plugin) (w : World) : Outcome :=
  match w.devices with
  | none => ⟨.error (.devices p.settings.resourceName), p, w⟩
  | some devices => p.serve w devices

/-- **Start serving.**  A plugin that is serving is stopped before. -/
def start (p : Plugin) (w : World) : Outcome :=
  if p.isServing then
    let r := p.stop w
    match r.result with
    | .ok () => r.plugin.startIdle r.world
    | .error _ => r
  else p.startIdle w

/-! ## Requests of the kubelet -/

/-- What the kubelet is told, while there is a session, when it asks what the plugin can do. -/
def toldOptions (p : Plugin) : Option Options := p.session.map (·.options)

/-- Open a stream; it starts with the device list. -/
def watch (p : Plugin) : Option (DeviceList × Plugin) :=
  p.session.map fun s => (s.deviceList, { p with streams := p.streams ++ [s.number] })

/-- Take in a report of the health check, while there is a session. -/
def report (p : Plugin) (id : String) : Plugin := { p with session := p.session.map (·.report id) }

end Plugin

end GpuPlugin
