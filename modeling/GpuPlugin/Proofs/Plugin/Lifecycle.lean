import GpuPlugin.Proofs.Plugin.Actions

/-!
# Proofs/Plugin/Lifecycle — a plugin that is started, stopped and registered in any order

A *life* is a plugin with its world, moved by calls and by what others do: they change the world in
any way, watch the plugin and report broken devices.  Wherever a life has come to, the next call
does what it should (`Sound`), for every event keeps what holds between two of them (`Kept`).
-/

namespace GpuPlugin

/-! ## Calls -/

/-- What is asked of a plugin by whoever runs it. -/
inductive Call where
  | start
  | stop
  | register
  deriving DecidableEq, Repr

namespace Plugin

variable {p : Plugin} {w : World}

def call (p : Plugin) (w : World) : Call → Outcome
  | .start => p.start w
  | .stop => p.stop w
  | .register => p.register w

/-- A socket of the plugin's that is found at its path is the one of its session. -/
def Owned (p : Plugin) (w : World) : Prop :=
  ∀ number, w.host.sessionAt? p.settings.socketPath = some number →
    ∃ s, p.session = some s ∧ s.number = number

theorem owned_of_noSocketAt (hnone : w.host.NoSocketAt p.settings.socketPath) : p.Owned w := by
  intro number hfound
  rw [hnone.sessionAt?_eq_none] at hfound
  cases hfound

theorem Owned.stop (howned : p.Owned w) : (p.stop w).plugin.Owned (p.stop w).world := by
  cases hserving : p.isServing with
  | true =>
    have hnone : (p.stop w).world.host.NoSocketAt p.settings.socketPath := by
      rcases stop_cases hserving w with ⟨host, hstop, hgone, -⟩ | ⟨hstop, hnone⟩
      · rw [hstop]
        exact Host.noSocketAt_of_none hgone
      · rw [hstop]
        exact hnone
    refine owned_of_noSocketAt ?_
    rw [settings_stop]
    exact hnone
  | false =>
    rw [stop_of_idle hserving]
    exact howned

theorem Owned.start (hkept : p.Kept) (howned : p.Owned w) :
    (p.start w).plugin.Owned (p.start w).world := by
  cases started_start hkept w with
  | failed e hresult hend =>
    rcases hend.socket with hsocket | ⟨hidle, -, hworld⟩
    · refine owned_of_noSocketAt ?_
      rwa [settings_start]
    · -- Nothing was done, and there was no session that a socket could have been of.
      intro number hfound
      rw [settings_start, hworld] at hfound
      obtain ⟨s, hs, -⟩ := howned number hfound
      rw [session_eq_none hidle] at hs
      cases hs
  | succeeded devices hresult hend =>
    obtain ⟨s, hs, hnumber, -⟩ := hend.session
    intro number hfound
    rw [settings_start] at hfound
    have hbound := (Host.at?_of_sessionAt? hfound).symm.trans (Host.at?_of_dial hend.socket)
    obtain rfl : number = p.sessions + 1 := by simpa using hbound
    exact ⟨s, hs, hnumber⟩

theorem Owned.report (howned : p.Owned w) (id : String) : (p.report id).Owned w := by
  intro number hfound
  obtain ⟨s, hs, hnumber⟩ := howned number hfound
  exact ⟨s.report id, session_report hs id, hnumber⟩

theorem Kept.call (hkept : p.Kept) (w : World) (c : Call) : (p.call w c).plugin.Kept := by
  cases c with
  | start => exact hkept.start w
  | stop => exact hkept.stop w
  | register =>
    rw [Plugin.call, plugin_register]
    exact hkept

theorem Owned.call (hkept : p.Kept) (howned : p.Owned w) (c : Call) :
    (p.call w c).plugin.Owned (p.call w c).world := by
  cases c with
  | start => exact howned.start hkept
  | stop => exact howned.stop
  | register =>
    rw [Plugin.call, plugin_register, Owned, host_register]
    exact howned

/-- **A plugin serves after a start if the start succeeded.** -/
theorem isServing_start (hkept : p.Kept) (w : World) :
    (p.start w).plugin.isServing = true ↔ (p.start w).result = .ok () := by
  cases started_start hkept w with
  | failed e hresult hend =>
    rw [isServing, hend.session, hresult]
    constructor
    · intro hserves
      cases hserves
    · intro hok
      cases hok
  | succeeded devices hresult hend =>
    obtain ⟨s, hs, -⟩ := hend.session
    rw [isServing, hs, hresult]
    constructor
    · intro _
      rfl
    · intro _
      rfl

end Plugin

/-! ## Lives -/

/-- **A plugin through its calls.** -/
structure Life where
  plugin : Plugin
  world : World
  /-- The calls and how they ended, the latest first. -/
  calls : List (Call × Except PluginError Unit) := []
  /-- Whether others have put a socket of one of the plugin's sessions at its path. -/
  isForged : Bool := false

namespace Life

/-- What may happen in a life. -/
inductive Event where
  | call (c : Call)
  /-- The kubelet opens a stream. -/
  | watch
  /-- A device is reported to be broken. -/
  | report (id : String)
  /-- Others change the world. -/
  | change (w : World)

/-- The life of a plugin that has never been started. -/
def begin (settings : Settings) (policy : Option Policy) (w : World) : Life :=
  { plugin := { settings, policy }
    world := w
    isForged := (w.host.sessionAt? settings.socketPath).isSome }

/-- Whether a change puts a socket of the plugin's at its path. -/
def forges (l : Life) (w : World) : Bool :=
  let found := w.host.sessionAt? l.plugin.settings.socketPath
  found.isSome && found != l.world.host.sessionAt? l.plugin.settings.socketPath

/-- The life after an event. -/
def after (l : Life) : Event → Life
  | .call c =>
    let o := l.plugin.call l.world c
    { l with plugin := o.plugin, world := o.world, calls := (c, o.result) :: l.calls }
  | .watch =>
    match l.plugin.watch with
    | none => l
    | some (_, plugin) => { l with plugin }
  | .report id => { l with plugin := l.plugin.report id }
  | .change w => { l with world := w, isForged := l.isForged || l.forges w }

/-- The life after events in order. -/
def run (l : Life) (events : List Event) : Life := events.foldl after l

/-- The last call that was to start or to stop the plugin, and how it ended. -/
def lastTurn (l : Life) : Option (Call × Except PluginError Unit) :=
  l.calls.find? (·.1 != .register)

/-! ## What every event keeps -/

/-- **What holds of a life between its events.** -/
structure Kept (l : Life) : Prop where
  plugin : l.plugin.Kept
  serving : l.plugin.isServing = true ↔ l.lastTurn = some (.start, .ok ())
  owned : l.isForged = false → l.plugin.Owned l.world

theorem kept_begin (settings : Settings) (policy : Option Policy) (w : World) :
    (begin settings policy w).Kept where
  plugin := Plugin.kept_of_idle rfl rfl
  serving := ⟨nofun, nofun⟩
  owned hforged number hfound := by
    change (w.host.sessionAt? settings.socketPath).isSome = false at hforged
    change w.host.sessionAt? settings.socketPath = some number at hfound
    rw [hfound] at hforged
    cases hforged

/-- Only starts and stops are turns, and only a start that succeeds leaves a session. -/
theorem Kept.serving_call {l : Life} (hkept : l.Kept) (c : Call) :
    (l.after (.call c)).plugin.isServing = true ↔
      (l.after (.call c)).lastTurn = some (.start, .ok ()) := by
  cases c with
  | start =>
    change _ ↔ some (Call.start, (l.plugin.start l.world).result) = some (.start, .ok ())
    rw [Option.some_inj, Prod.mk.injEq, eq_self, true_and]
    exact Plugin.isServing_start hkept.plugin l.world
  | stop =>
    change (l.plugin.stop l.world).plugin.isServing = true ↔
      some (Call.stop, (l.plugin.stop l.world).result) = some (.start, .ok ())
    rw [Plugin.isServing_stop]
    exact ⟨nofun, nofun⟩
  | register =>
    change (l.plugin.register l.world).plugin.isServing = true ↔ l.lastTurn = _
    rw [Plugin.plugin_register]
    exact hkept.serving

/-- A socket of the plugin's that is found after a change that forges none was found before. -/
theorem sessionAt?_of_not_forges {l : Life} {w : World} {number : Nat}
    (hforges : l.forges w = false)
    (hfound : w.host.sessionAt? l.plugin.settings.socketPath = some number) :
    l.world.host.sessionAt? l.plugin.settings.socketPath = some number := by
  simp only [forges, hfound, Option.isSome_some, Bool.true_and] at hforges
  exact (bne_eq_false_iff_eq.mp hforges).symm

theorem Kept.change {l : Life} (hkept : l.Kept) (w : World) : (l.after (.change w)).Kept where
  plugin := hkept.plugin
  serving := hkept.serving
  owned hforged number hfound := by
    obtain ⟨hnot, hforges⟩ := Bool.or_eq_false_iff.mp hforged
    exact hkept.owned hnot number (sessionAt?_of_not_forges hforges hfound)

theorem Kept.watch {l : Life} (hkept : l.Kept) : (l.after .watch).Kept := by
  rw [Life.after]
  split
  next => exact hkept
  next list p hwatch =>
    have hplugin : p.Kept := hkept.plugin.watch hwatch
    obtain ⟨s, -, rfl⟩ := Plugin.eq_of_watch hwatch
    exact ⟨hplugin, hkept.serving, hkept.owned⟩

/-- **Every event keeps it.** -/
theorem Kept.after {l : Life} (hkept : l.Kept) (event : Event) : (l.after event).Kept := by
  cases event with
  | call c =>
    exact ⟨hkept.plugin.call l.world c, hkept.serving_call c,
      fun hforged => (hkept.owned hforged).call hkept.plugin c⟩
  | watch => exact hkept.watch
  | report id =>
    refine ⟨hkept.plugin.report id, ?_, fun hforged => (hkept.owned hforged).report id⟩
    change (l.plugin.report id).isServing = true ↔ _
    rw [Plugin.isServing_report]
    exact hkept.serving
  | change w => exact hkept.change w

/-- **Every run keeps it.** -/
theorem Kept.run {l : Life} (hkept : l.Kept) (events : List Event) : (l.run events).Kept := by
  induction events generalizing l with
  | nil => exact hkept
  | cons event events ih => exact ih (hkept.after event)

/-! ## What the next call does -/

/-- **A life in which every call does what it should**, whichever is the next. -/
structure Sound (l : Life) : Prop where
  /-- Every stream is of the session, and the session is the latest there has been. -/
  plugin : l.plugin.Kept
  /-- The plugin serves if the last turn was a start that succeeded. -/
  serving : l.plugin.isServing = true ↔ l.lastTurn = some (.start, .ok ())
  /-- A start fails and is given up, or succeeds and has begun a session. -/
  start : (l.plugin.start l.world).Started l.plugin l.world
  /-- A stop ends the session and its streams, however it ends itself. -/
  session : (l.plugin.stop l.world).plugin.session = none
  streams : (l.plugin.stop l.world).plugin.streams = []
  /-- A stop of a session that succeeds leaves nothing at the path of its socket. -/
  removed : l.plugin.isServing = true → (l.plugin.stop l.world).result = .ok () →
    (l.plugin.stop l.world).world.host.at? l.plugin.settings.socketPath = none
  /-- Without a session there is nothing to stop. -/
  idle : l.plugin.isServing = false → l.plugin.stop l.world = ⟨.ok (), l.plugin, l.world⟩
  /-- A registration leaves the session and the files alone. -/
  register : (l.plugin.register l.world).plugin = l.plugin ∧
    (l.plugin.register l.world).world.host = l.world.host
  /-- While there is no session, its path has no socket of the plugin's that others have not put
  there; a session's socket is its own. -/
  owned : l.isForged = false → l.plugin.Owned l.world

/-- **Every life is sound.** -/
theorem sound_run (settings : Settings) (policy : Option Policy) (w : World)
    (events : List Event) : ((begin settings policy w).run events).Sound := by
  have hkept := (kept_begin settings policy w).run events
  generalize (begin settings policy w).run events = l at hkept ⊢
  have hidle : (l.plugin.stop l.world).plugin.isServing = false := Plugin.isServing_stop _ _
  refine
    { plugin := hkept.plugin
      serving := hkept.serving
      start := Plugin.started_start hkept.plugin l.world
      session := Plugin.session_eq_none hidle
      streams := (hkept.plugin.stop l.world).streams_eq_nil hidle
      removed := fun hserving hresult => ?_
      idle := fun hnot => Plugin.stop_of_idle hnot l.world
      register := ⟨Plugin.plugin_register _ _, Plugin.host_register _ _⟩
      owned := hkept.owned }
  rcases Plugin.stop_cases hserving l.world with ⟨host, hstop, hgone, -⟩ | ⟨hstop, -⟩
  · rw [hstop]
    exact hgone
  · rw [hstop] at hresult
    cases hresult

end Life

end GpuPlugin
