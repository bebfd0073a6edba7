import GpuPlugin.Plugin
import GpuPlugin.Proofs.Host.Removal

/-!
# Proofs/Plugin/Actions — what stopping, registering and starting come to

A plugin between its actions has one session or none, which it has set up itself, and every stream
it has is of that session (`Kept`).  Whatever an action runs into, it ends in one of a few ways:
`stop_cases`, `register_cases` and `serve_cases` name them.  From these come the two ends of a
start: it has been given up (`GivenUp`), or a session has begun (`Begun`).
-/

namespace GpuPlugin

/-- The session of a plugin whose socket is at a path. -/
def Host.sessionAt? (h : Host) (path : String) : Option Nat :=
  match h.at? path with
  | some (.socket (.plugin number)) => some number
  | _ => none

theorem Host.at?_of_sessionAt? {h : Host} {path : String} {number : Nat}
    (hsession : h.sessionAt? path = some number) :
    h.at? path = some (.socket (.plugin number)) := by
  rw [sessionAt?] at hsession
  split at hsession
  next hat =>
    obtain rfl := Option.some.inj hsession
    exact hat
  next => cases hsession

theorem Host.NoSocketAt.sessionAt?_eq_none {h : Host} {path : String} (hnone : h.NoSocketAt path) :
    h.sessionAt? path = none := by
  cases hsession : h.sessionAt? path with
  | none => rfl
  | some number => exact absurd (at?_of_sessionAt? hsession) (hnone _)

/-- The kubelet after it has taken a registration. -/
def Kubelet.taking (k : Kubelet) (r : RegisterRequest) : Kubelet :=
  { k with attempts := k.attempts + 1, registered := k.registered ++ [r] }

/-- What a registration comes to in the world it is sent in. -/
theorem World.register_cases (w : World) (path : String) (r : RegisterRequest) :
    w.register path r = (true, { w with kubelet := w.kubelet.taking r }) ∨
    ∃ attempts, w.register path r = (false, { w with kubelet := { w.kubelet with attempts } }) := by
  rw [register]
  split
  next =>
    dsimp only
    split_ifs
    · exact Or.inr ⟨w.kubelet.attempts + 1, rfl⟩
    · exact Or.inl rfl
  next => exact Or.inr ⟨w.kubelet.attempts, rfl⟩

/-- **A session is set up by a plugin** if it answers as the plugin would: it has the plugin's
settings, its policy, and what it can do. -/
structure Session.SetUpBy (s : Session) (p : Plugin) : Prop where
  settings : s.settings = p.settings
  policy : s.policy = p.policy
  options : s.options = p.options

namespace Plugin

variable {p p' : Plugin} {w : World} {devices : List Device} {s : Session}

/-! ## The set-up -/

/-- **Two plugins that are set up alike**, whatever they have come to. -/
structure Alike (p p' : Plugin) : Prop where
  settings : p'.settings = p.settings
  policy : p'.policy = p.policy

theorem Alike.refl (p : Plugin) : p.Alike p := ⟨rfl, rfl⟩

theorem Alike.trans {p'' : Plugin} (h : p.Alike p') (h' : p'.Alike p'') : p.Alike p'' :=
  ⟨h'.settings.trans h.settings, h'.policy.trans h.policy⟩

theorem Alike.options (h : p.Alike p') : p'.options = p.options := by
  rw [Plugin.options, Plugin.options, h.settings, h.policy]

/-- Plugins that are set up alike register alike. -/
theorem Alike.registration (h : p.Alike p') : p'.registration = p.registration := by
  rw [Plugin.registration, Plugin.registration, h.options, h.settings]

/-- Plugins that are set up alike set up the same sessions. -/
theorem Alike.setUpBy_iff (h : p.Alike p') : s.SetUpBy p' ↔ s.SetUpBy p := by
  constructor
  · intro hs
    exact ⟨hs.settings.trans h.settings, hs.policy.trans h.policy, hs.options.trans h.options⟩
  · intro hs
    exact ⟨hs.settings.trans h.settings.symm, hs.policy.trans h.policy.symm,
      hs.options.trans h.options.symm⟩

theorem alike_next (p : Plugin) (devices : List Device) : p.Alike (p.next devices) := ⟨rfl, rfl⟩

theorem alike_withoutSession (p : Plugin) : p.Alike p.withoutSession := by
  rw [withoutSession]
  split <;> exact ⟨rfl, rfl⟩

/-! ## Between actions -/

/-- **What holds of a plugin between its actions.** -/
structure Kept (p : Plugin) : Prop where
  /-- Every stream is of the session. -/
  streams : ∀ number ∈ p.streams, ∃ s, p.session = some s ∧ s.number = number
  /-- The session is the latest there has been. -/
  latest : ∀ s, p.session = some s → s.number = p.sessions
  /-- The plugin has set it up itself. -/
  own : ∀ s, p.session = some s → s.SetUpBy p

theorem session_eq_none (hidle : p.isServing = false) : p.session = none :=
  Option.isSome_eq_false_iff.mp hidle |> Option.isNone_iff_eq_none.mp

/-- A plugin without a session has no streams. -/
theorem Kept.streams_eq_nil (hkept : p.Kept) (hidle : p.isServing = false) : p.streams = [] := by
  refine List.eq_nil_iff_forall_not_mem.mpr ?_
  intro number hmem
  obtain ⟨s, hs, -⟩ := hkept.streams number hmem
  rw [session_eq_none hidle] at hs
  cases hs

theorem kept_of_idle (hsession : p.session = none) (hstreams : p.streams = []) : p.Kept where
  streams number hmem := by
    rw [hstreams] at hmem
    cases hmem
  latest s hs := by
    rw [hsession] at hs
    cases hs
  own s hs := by
    rw [hsession] at hs
    cases hs

/-! ## Stopping -/

theorem session_withoutSession (p : Plugin) : p.withoutSession.session = none :=
  session_eq_none (isServing_withoutSession p)

@[simp] theorem settings_withoutSession (p : Plugin) : p.withoutSession.settings = p.settings :=
  (alike_withoutSession p).settings

@[simp] theorem sessions_withoutSession (p : Plugin) : p.withoutSession.sessions = p.sessions := by
  rw [withoutSession]
  split <;> rfl

@[simp] theorem registration_withoutSession (p : Plugin) :
    p.withoutSession.registration = p.registration :=
  (alike_withoutSession p).registration

@[simp] theorem setUpBy_withoutSession : s.SetUpBy p.withoutSession ↔ s.SetUpBy p :=
  (alike_withoutSession p).setUpBy_iff

/-- **The streams of a session end with it.** -/
theorem Kept.streams_withoutSession (hkept : p.Kept) : p.withoutSession.streams = [] := by
  rw [withoutSession]
  split
  next hsession => exact hkept.streams_eq_nil (by rw [isServing, hsession]; rfl)
  next s hsession =>
    refine List.filter_eq_nil_iff.mpr ?_
    intro number hmem
    obtain ⟨s', hs', rfl⟩ := hkept.streams number hmem
    obtain rfl := Option.some.inj (hsession.symm.trans hs')
    simp

theorem Kept.withoutSession (hkept : p.Kept) : p.withoutSession.Kept :=
  kept_of_idle (session_withoutSession p) hkept.streams_withoutSession

/-- A plugin that does not serve is not changed by a stop. -/
theorem stop_of_idle (hidle : p.isServing = false) (w : World) : p.stop w = ⟨.ok (), p, w⟩ := by
  rw [stop, hidle]
  rfl

/-- **How a stop of a session ends**: its socket is gone, or there is none where it should be. -/
theorem stop_cases (hserving : p.isServing = true) (w : World) :
    (∃ host, p.stop w = ⟨.ok (), p.withoutSession, { w with host }⟩ ∧
      host.at? p.settings.socketPath = none ∧ host ≤ w.host) ∨
    (p.stop w = ⟨.error (.stop p.settings.socketPath), p.withoutSession, w⟩ ∧
      w.host.NoSocketAt p.settings.socketPath) := by
  rw [stop, if_pos hserving]
  cases hclear : w.host.clear p.settings.socketPath with
  | ok host =>
    obtain ⟨hgone, hle⟩ := Host.gone_of_clear hclear
    exact Or.inl ⟨host, rfl, hgone, hle⟩
  | error e => exact Or.inr ⟨rfl, Host.noSocketAt_of_clear_eq_error hclear⟩

theorem withoutSession_of_idle (hidle : p.isServing = false) : p.withoutSession = p := by
  rw [withoutSession, session_eq_none hidle]

/-- **A stop takes the session away**, however it ends. -/
theorem plugin_stop (p : Plugin) (w : World) : (p.stop w).plugin = p.withoutSession := by
  cases hserving : p.isServing with
  | true => rcases stop_cases hserving w with ⟨host, hstop, -⟩ | ⟨hstop, -⟩ <;> rw [hstop]
  | false => rw [stop_of_idle hserving, withoutSession_of_idle hserving]

theorem alike_stop (p : Plugin) (w : World) : p.Alike (p.stop w).plugin := by
  rw [plugin_stop]
  exact alike_withoutSession p

theorem settings_stop (p : Plugin) (w : World) : (p.stop w).plugin.settings = p.settings :=
  (alike_stop p w).settings

theorem stop_of_remove (hserving : p.isServing = true) {host : Host}
    (hremove : w.host.remove p.settings.socketPath = .ok host) :
    p.stop w = ⟨.ok (), p.withoutSession, { w with host }⟩ := by
  rw [stop, if_pos hserving, Host.clear_of_remove hremove]

/-! ## Registering -/

/-- **How a registration ends**: the kubelet has taken it, or nothing has changed but the count of
its attempts. -/
theorem register_cases (p : Plugin) (w : World) :
    p.register w = ⟨.ok (), p, { w with kubelet := w.kubelet.taking p.registration }⟩ ∨
    ∃ attempts, p.register w = ⟨.error (.register p.settings.kubeletSocketPath), p,
      { w with kubelet := { w.kubelet with attempts } }⟩ := by
  rw [register]
  rcases w.register_cases p.settings.kubeletSocketPath p.registration with htaken | ⟨attempts, hnot⟩
  · rw [htaken]
    exact Or.inl rfl
  · rw [hnot]
    exact Or.inr ⟨attempts, rfl⟩

@[simp] theorem host_register (p : Plugin) (w : World) :
    (p.register w).world.host = w.host := by
  rcases register_cases p w with hok | ⟨attempts, herr⟩
  · rw [hok]
  · rw [herr]

/-! ## Serving

Whether the socket cannot be bound, its server does not answer or the registration fails, what has
been bound is removed again. -/

/-- **An abandoned path has no socket**, and nothing new is found anywhere. -/
theorem noSocketAt_abandon (h : Host) (path : String) :
    (abandon h path).NoSocketAt path ∧ abandon h path ≤ h := by
  rw [abandon]
  cases hremove : h.remove path with
  | ok h' =>
    obtain ⟨hgone, hle⟩ := Host.gone_of_remove hremove
    exact ⟨Host.noSocketAt_of_none hgone, hle⟩
  | error e => exact ⟨Host.noSocketAt_of_remove_eq_error hremove, le_refl h⟩

theorem bound_of_bindSocket {path : String} {number : Nat} {host : Host}
    (hbind : bindSocket w path number = .ok host) :
    host.dial path = some (.plugin number) ∧
      ∃ left, host.remove path = .ok left ∧ left ≤ w.host := by
  rw [bindSocket] at hbind
  split at hbind
  next => cases hbind
  next cleared hclear =>
    split at hbind
    next => cases hbind
    next bound hbound =>
      split_ifs at hbind
      obtain rfl := Except.ok.inj hbind
      obtain ⟨hdial, left, hremove, hle⟩ := Host.bound_of_bind hbound
      exact ⟨hdial, left, hremove, hle.trans (Host.gone_of_clear hclear).2⟩

theorem abandon_of_bindSocket {path : String} {number : Nat} {host : Host}
    (hbind : bindSocket w path number = .error host) : abandon host path ≤ w.host := by
  rw [bindSocket] at hbind
  split at hbind
  next =>
    obtain rfl := Except.error.inj hbind
    exact (noSocketAt_abandon w.host path).2
  next cleared hclear =>
    have hcleared : cleared ≤ w.host := (Host.gone_of_clear hclear).2
    split at hbind
    next =>
      obtain rfl := Except.error.inj hbind
      exact (noSocketAt_abandon cleared path).2.trans hcleared
    next bound hbound =>
      split_ifs at hbind
      obtain rfl := Except.error.inj hbind
      obtain ⟨-, left, hremove, hle⟩ := Host.bound_of_bind hbound
      rw [abandon, hremove]
      exact hle.trans hcleared

/-- **How serving ends.** -/
theorem serve_cases (p : Plugin) (w : World) (devices : List Device) :
    (∃ host, p.serve w devices = ⟨.error (.serve p.settings.socketPath), p, { w with host }⟩ ∧
      host.NoSocketAt p.settings.socketPath ∧ host ≤ w.host) ∨
    (∃ host kubelet, p.serve w devices = ⟨.error (.register p.settings.kubeletSocketPath),
        (p.next devices).withoutSession, { w with host, kubelet }⟩ ∧
      host.NoSocketAt p.settings.socketPath ∧ host ≤ w.host) ∨
    (∃ host, p.serve w devices = ⟨.ok (), p.next devices,
        { w with host, kubelet := w.kubelet.taking p.registration }⟩ ∧
      host.dial p.settings.socketPath = some (.plugin (p.sessions + 1))) := by
  rw [serve]
  cases hbind : bindSocket w p.settings.socketPath (p.sessions + 1) with
  | error host =>
    exact Or.inl ⟨_, rfl, (noSocketAt_abandon host _).1, abandon_of_bindSocket hbind⟩
  | ok host =>
    obtain ⟨hdial, left, hremove, hle⟩ := bound_of_bindSocket hbind
    dsimp only
    rcases register_cases (p.next devices) { w with host } with hok | ⟨attempts, herr⟩
    · rw [hok]
      exact Or.inr (Or.inr ⟨host, rfl, hdial⟩)
    · let kubelet := { w.kubelet with attempts }
      -- The socket was bound a moment ago, so this stop cannot fail to remove it.
      have hstop : (p.next devices).stop { w with host, kubelet }
          = ⟨.ok (), (p.next devices).withoutSession, { w with host := left, kubelet }⟩ :=
        stop_of_remove rfl hremove
      have hgone : left.at? p.settings.socketPath = none := (Host.gone_of_remove hremove).1
      rw [herr]
      dsimp only
      rw [hstop]
      exact Or.inr (Or.inl ⟨left, kubelet, rfl, Host.noSocketAt_of_none hgone, hle⟩)

/-! ## Starting -/

/-- What a start makes of a plugin that does not serve: nothing, a session that is given up at once,
or its next session. -/
theorem plugin_startIdle_cases (p : Plugin) (w : World) :
    (p.startIdle w).plugin = p ∨ ∃ devices,
      (p.startIdle w).plugin = (p.next devices).withoutSession ∨
        (p.startIdle w).plugin = p.next devices := by
  rw [startIdle]
  split
  next => exact Or.inl rfl
  next devices _ =>
    rcases serve_cases p w devices with
      ⟨host, hserve, -⟩ | ⟨host, kubelet, hserve, -⟩ | ⟨host, hserve, -⟩
    · exact Or.inl (congrArg Outcome.plugin hserve)
    · exact Or.inr ⟨devices, Or.inl (congrArg Outcome.plugin hserve)⟩
    · exact Or.inr ⟨devices, Or.inr (congrArg Outcome.plugin hserve)⟩

/-- **What a start makes of a plugin**, which is without its session first. -/
theorem plugin_start_cases (p : Plugin) (w : World) :
    (p.start w).plugin = p.withoutSession ∨ ∃ devices,
      (p.start w).plugin = (p.withoutSession.next devices).withoutSession ∨
        (p.start w).plugin = p.withoutSession.next devices := by
  rw [start]
  split_ifs with hserving
  · dsimp only
    split
    next =>
      rw [← plugin_stop p w]
      exact plugin_startIdle_cases _ _
    next => exact Or.inl (plugin_stop p w)
  · rw [withoutSession_of_idle (Bool.eq_false_iff.mpr hserving)]
    exact plugin_startIdle_cases p w

theorem alike_start (p : Plugin) (w : World) : p.Alike (p.start w).plugin := by
  have hstopped := alike_withoutSession p
  rcases plugin_start_cases p w with hstart | ⟨devices, hstart | hstart⟩
  · rw [hstart]
    exact hstopped
  · rw [hstart]
    exact (hstopped.trans (alike_next _ devices)).trans (alike_withoutSession _)
  · rw [hstart]
    exact hstopped.trans (alike_next _ devices)

theorem settings_start (p : Plugin) (w : World) : (p.start w).plugin.settings = p.settings :=
  (alike_start p w).settings

/-- **What a start that failed leaves behind.** -/
structure Outcome.GivenUp (o : Outcome) (p : Plugin) (w : World) : Prop where
  session : o.plugin.session = none
  streams : o.plugin.streams = []
  /-- Nothing is found anywhere that had not been there before. -/
  files : o.world.host ≤ w.host
  /-- The path of the socket is free of sockets, unless nothing at all has been done. -/
  socket : o.world.host.NoSocketAt p.settings.socketPath ∨
    (p.isServing = false ∧ w.devices = none ∧ o.world = w)

/-- **What a start that succeeded has made** of the devices that were listed. -/
structure Outcome.Begun (o : Outcome) (p : Plugin) (w : World) (devices : List Device) : Prop where
  listed : w.devices = some devices
  /-- The session is a new one, starts from the devices alone, and is set up by the plugin. -/
  session : ∃ s, o.plugin.session = some s ∧ s.number = p.sessions + 1 ∧
    s.inventory = ⟨devices, p.settings.replication⟩ ∧
    s.snapshot = p.settings.replication.replicate devices ∧ s.SetUpBy p
  sessions : o.plugin.sessions = p.sessions + 1
  streams : o.plugin.streams = []
  /-- One registration has been sent, and it was taken. -/
  registered : o.world.kubelet.registered = w.kubelet.registered ++ [p.registration]
  attempts : o.world.kubelet.attempts = w.kubelet.attempts + 1
  socket : o.world.host.dial p.settings.socketPath = some (.plugin (p.sessions + 1))

/-- **How a start ends.** -/
inductive Outcome.Started (o : Outcome) (p : Plugin) (w : World) : Prop where
  | failed (e : PluginError) (hresult : o.result = .error e) (hend : o.GivenUp p w)
  | succeeded (devices : List Device) (hresult : o.result = .ok ()) (hend : o.Begun p w devices)

theorem started_serve (hkept : p.Kept) (hidle : p.isServing = false)
    (hlisted : w.devices = some devices) : (p.serve w devices).Started p w := by
  have hsession : p.session = none := session_eq_none hidle
  have hstreams : p.streams = [] := hkept.streams_eq_nil hidle
  rcases serve_cases p w devices with
    ⟨host, hserve, hsocket, hle⟩ | ⟨host, kubelet, hserve, hsocket, hle⟩ | ⟨host, hserve, hdial⟩
  · rw [hserve]
    exact .failed _ rfl ⟨hsession, hstreams, hle, Or.inl hsocket⟩
  · have hnone : (p.next devices).withoutSession.streams = [] := by
      change p.streams.filter _ = []
      rw [hstreams]
      rfl
    rw [hserve]
    exact .failed _ rfl ⟨session_withoutSession _, hnone, hle, Or.inl hsocket⟩
  · rw [hserve]
    exact .succeeded devices rfl
      { listed := hlisted
        session := ⟨_, rfl, rfl, rfl, rfl, ⟨rfl, rfl, rfl⟩⟩
        sessions := rfl
        streams := hstreams
        registered := rfl
        attempts := rfl
        socket := hdial }

/-- **A plugin that did not serve serves after a start if the start succeeded.** -/
theorem isServing_startIdle (hidle : p.isServing = false) (w : World) :
    (p.startIdle w).plugin.isServing = true ↔ (p.startIdle w).result = .ok () := by
  rw [startIdle]
  cases w.devices with
  | none => simp [hidle]
  | some devices =>
    rcases serve_cases p w devices with
      ⟨host, hserve, -⟩ | ⟨host, kubelet, hserve, -⟩ | ⟨host, hserve, -⟩
    · simp [hserve, hidle]
    · simp [hserve]
    · simp [hserve, isServing, next]

theorem start_of_idle (hidle : p.isServing = false) (w : World) : p.start w = p.startIdle w := by
  rw [start, if_neg (Bool.eq_false_iff.mp hidle)]

theorem started_startIdle (hkept : p.Kept) (hidle : p.isServing = false) (w : World) :
    (p.startIdle w).Started p w := by
  rw [startIdle]
  cases hdevices : w.devices with
  | none =>
    exact .failed _ rfl ⟨session_eq_none hidle, hkept.streams_eq_nil hidle, le_refl w.host,
      Or.inr ⟨hidle, hdevices, rfl⟩⟩
  | some devices => exact started_serve hkept hidle hdevices

/-- A start after a stop that left the path of the socket free is as good as a start at once. -/
theorem Outcome.Started.of_stop {o : Outcome} {host : Host}
    (hstart : o.Started p.withoutSession { w with host })
    (hfree : host.NoSocketAt p.settings.socketPath) (hle : host ≤ w.host) : o.Started p w := by
  cases hstart with
  | failed e hresult hend =>
    refine .failed e hresult ⟨hend.session, hend.streams, hend.files.trans hle, Or.inl ?_⟩
    rcases hend.socket with hsocket | ⟨-, -, hworld⟩
    · rwa [settings_withoutSession] at hsocket
    · rwa [hworld]
  | succeeded devices hresult hend =>
    exact .succeeded devices hresult
      { listed := hend.listed
        session := by simpa using hend.session
        sessions := by simpa using hend.sessions
        streams := hend.streams
        registered := by simpa using hend.registered
        attempts := hend.attempts
        socket := by simpa using hend.socket }

theorem started_start (hkept : p.Kept) (w : World) : (p.start w).Started p w := by
  rw [start]
  split_ifs with hserving
  · rcases stop_cases hserving w with ⟨host, hstop, hgone, hle⟩ | ⟨hstop, hnone⟩
    · rw [hstop]
      exact (started_startIdle hkept.withoutSession (isServing_withoutSession p) _).of_stop
        (Host.noSocketAt_of_none hgone) hle
    · rw [hstop]
      exact .failed _ rfl ⟨session_withoutSession p, hkept.streams_withoutSession, le_refl w.host,
        Or.inl hnone⟩
  · exact started_startIdle hkept (Bool.not_eq_true _ ▸ hserving) w

/-! ## Every action keeps what holds between them -/

theorem Kept.stop (hkept : p.Kept) (w : World) : (p.stop w).plugin.Kept := by
  rw [plugin_stop]
  exact hkept.withoutSession

theorem Kept.start (hkept : p.Kept) (w : World) : (p.start w).plugin.Kept := by
  cases started_start hkept w with
  | failed e hresult hend => exact kept_of_idle hend.session hend.streams
  | succeeded devices hresult hend =>
    obtain ⟨s, hs, hnumber, -, -, hown⟩ := hend.session
    constructor
    · intro number hmem
      rw [hend.streams] at hmem
      cases hmem
    · intro s' hs'
      obtain rfl := Option.some.inj (hs.symm.trans hs')
      rw [hnumber, hend.sessions]
    · intro s' hs'
      obtain rfl := Option.some.inj (hs.symm.trans hs')
      exact (alike_start p w).setUpBy_iff.mpr hown

/-- A stream is opened in a session, and nothing else changes. -/
theorem eq_of_watch {list : DeviceList} (hwatch : p.watch = some (list, p')) :
    ∃ s, p.session = some s ∧ p' = { p with streams := p.streams ++ [s.number] } := by
  rw [watch, Option.map_eq_some_iff] at hwatch
  obtain ⟨s, hs, heq⟩ := hwatch
  exact ⟨s, hs, (Prod.mk.inj heq).2.symm⟩

theorem Kept.watch {list : DeviceList} (hkept : p.Kept)
    (hwatch : p.watch = some (list, p')) : p'.Kept := by
  obtain ⟨s, hs, rfl⟩ := eq_of_watch hwatch
  have hown : p.Alike { p with streams := p.streams ++ [s.number] } := ⟨rfl, rfl⟩
  refine ⟨?_, hkept.latest, fun s' hs' => hown.setUpBy_iff.mpr (hkept.own s' hs')⟩
  intro number hmem
  rcases List.mem_append.mp hmem with hmem | hmem
  · exact hkept.streams number hmem
  · exact ⟨s, hs, (List.mem_singleton.mp hmem).symm⟩

@[simp] theorem isServing_report (p : Plugin) (id : String) :
    (p.report id).isServing = p.isServing :=
  Option.isSome_map

theorem session_report (hsession : p.session = some s) (id : String) :
    (p.report id).session = some (s.report id) := by
  rw [report, hsession, Option.map_some]

theorem Kept.report (hkept : p.Kept) (id : String) : (p.report id).Kept := by
  constructor
  · intro number hmem
    obtain ⟨s, hs, hnumber⟩ := hkept.streams number hmem
    exact ⟨s.report id, session_report hs id, hnumber⟩
  · intro s hs
    obtain ⟨s', hs', rfl⟩ := Option.map_eq_some_iff.mp hs
    exact hkept.latest s' hs'
  · intro s hs
    obtain ⟨s', hs', rfl⟩ := Option.map_eq_some_iff.mp hs
    have hown := hkept.own s' hs'
    exact ⟨hown.settings, hown.policy, hown.options⟩

end Plugin

end GpuPlugin
