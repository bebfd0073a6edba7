import GpuPlugin.Proofs.Restarts.Requests

/-!
# Proofs/Restarts/Attended — a running daemon is an attendance that settles

A daemon is told of one thing at a time and then lets its keeper go on until it waits.  An
attendance is told of anything at any time.  What a daemon does with each thing it is told is a run
of its attendance, so all that holds of every run of an attendance holds of a daemon
(`exists_run_of_runWith`).
-/

namespace GpuPlugin

namespace Attendance

/-- **Whether an attendance can come to be another.** -/
abbrev ComesTo (t t' : Attendance) : Prop := Runs.ComesTo act t t'

variable {t t' : Attendance} {a : Action}

theorem comesTo_settle (t : Attendance) : t.ComesTo { t with keeper := t.keeper.settle } := by
  obtain ⟨n, hrun⟩ := exists_run_settle t
  exact ⟨_, hrun⟩

theorem comesTo_reports (t : Attendance) (reported : List String) :
    t.ComesTo { t with keeper := reported.foldl Keeper.report t.keeper } := by
  induction reported generalizing t with
  | nil => exact .refl t
  | cons id reported ih =>
    have hact : t.act (.report id) = some { t with keeper := t.keeper.report id } :=
      act_of_errand rfl rfl rfl
    exact (Runs.ComesTo.of_act hact).trans (ih _)

/-- The settings of the plugin stay. -/
theorem ComesTo.settings (hcomes : t.ComesTo t') :
    t'.keeper.plugin.settings = t.keeper.plugin.settings := by
  obtain ⟨actions, hrun⟩ := hcomes
  refine Runs.kept_of_run
    (P := fun u : Attendance => u.keeper.plugin.settings = t.keeper.plugin.settings) ?_ hrun rfl
  intro u a v hu hact
  obtain ⟨b, -, heffect⟩ := effect_of_act hact
  exact heffect.settings.trans hu

theorem Kept.comesTo (hkept : t.Kept) (hcomes : t.ComesTo t') : t'.Kept := by
  obtain ⟨actions, hrun⟩ := hcomes
  exact hkept.run hrun

end Attendance

namespace Daemon

/-- What a running daemon is told of. -/
inductive Happening where
  | hangup
  /-- Something new is at a place. -/
  | made (place : Location)
  | event (e : Nvml.Event)
  | change (w : World)

namespace Running

variable {r r' : Running}

/-- What a running daemon makes of a happening. -/
def happen (r : Running) : Happening → Running
  | .hangup => r.restart
  | .made place => r.appeared place
  | .event e => r.event e
  | .change w => { r with keeper := { r.keeper with world := w } }

/-- A running daemon as an attendance. -/
def attendance (r : Running) : Attendance :=
  { keeper := r.keeper, socketPath := r.plugin.settings.kubeletSocketPath, watch := r.watch }

theorem comesTo_of_keeper (hwatch : r'.watch = r.watch)
    (hcomes : r.attendance.ComesTo { r.attendance with keeper := r'.keeper }) :
    r.attendance.ComesTo r'.attendance := by
  have hsettings : r'.keeper.plugin.settings = r.keeper.plugin.settings := hcomes.settings
  have heq : r'.attendance = { r.attendance with keeper := r'.keeper } := by
    rw [attendance, attendance, plugin, plugin, hsettings, hwatch]
  rwa [heq]

theorem comesTo_takeIn (r : Running) (reported : List String) :
    r.attendance.ComesTo (r.takeIn reported).attendance :=
  comesTo_of_keeper rfl (Attendance.comesTo_reports _ reported)

theorem comesTo_beginCheck (r : Running) : r.attendance.ComesTo r.beginCheck.attendance := by
  rw [beginCheck]
  split
  next => exact .refl _
  next s _ => exact comesTo_takeIn r _

theorem comesTo_goOn (r : Running) : r.attendance.ComesTo r.goOn.attendance := by
  let settled : Running := { r with keeper := r.keeper.settle }
  have hsettled : r.attendance.ComesTo settled.attendance :=
    comesTo_of_keeper rfl (Attendance.comesTo_settle r.attendance)
  exact hsettled.trans (comesTo_beginCheck settled)

theorem comesTo_restart {a : Attendance.Action} (hkept : r.attendance.Kept)
    (hsome : r.attendance.errand a = some .request) (hending : a.isEnding = false) :
    r.attendance.ComesTo r.restart.attendance := by
  have hrequest : r.keeper.act .request = some r.keeper.request := if_pos hkept.isOpen
  let asked : Running := { r with keeper := r.keeper.request }
  have hasked : r.attendance.ComesTo asked.attendance :=
    comesTo_of_keeper rfl
      (Runs.ComesTo.of_act (Attendance.act_of_errand hsome hending hrequest))
  exact hasked.trans (comesTo_goOn asked)

/-- **What a daemon makes of a happening, its attendance can come to.** -/
theorem comesTo_happen (hkept : r.attendance.Kept) (happening : Happening) :
    r.attendance.ComesTo (r.happen happening).attendance := by
  cases happening with
  | hangup => exact comesTo_restart (a := .signal .hangup) hkept rfl rfl
  | made place =>
    rw [happen, appeared]
    split_ifs with hnotices
    · exact comesTo_restart (a := .seen true place) hkept (if_pos hnotices) rfl
    · exact .refl _
  | event e => exact comesTo_takeIn r _
  | change w =>
    have hact := Attendance.act_of_errand (t := r.attendance) (a := .change w) rfl rfl rfl
    exact comesTo_of_keeper rfl (Runs.ComesTo.of_act hact)

theorem comesTo_happenings (hkept : r.attendance.Kept) (happenings : List Happening) :
    r.attendance.ComesTo (happenings.foldl happen r).attendance := by
  induction happenings generalizing r with
  | nil => exact .refl _
  | cons happening happenings ih =>
    have hcomes := comesTo_happen hkept happening
    exact hcomes.trans (ih (hkept.comesTo hcomes))

end Running

/-- A daemon that has found the kubelet's directory begins as an attendance. -/
theorem exists_run_of_watch {h : Host} {settings : Settings} {found : Watch}
    (hwatch : watch h settings.kubeletSocketPath = .ok found) (library : Nvml.Library)
    (checks : Nvml.Checks) (policy : Option Policy) (devices : Option (List Device))
    (happenings : List Happening) :
    let p : Plugin := { settings, policy }
    let w : World := { host := h, devices }
    let r : Running := { library, checks, watch := found, keeper := { plugin := p, world := w } }
    ∃ first actions, Attendance.begin p w = .ok first ∧
      first.run actions = some (happenings.foldl Running.happen r.goOn).attendance := by
  intro p w r
  have hbegin : Attendance.begin p w = .ok r.attendance := by
    rw [Attendance.begin, hwatch]
    rfl
  have hgoOn := Running.comesTo_goOn r
  have hkept := (Attendance.kept_of_begin hbegin).1.comesTo hgoOn
  obtain ⟨actions, hrun⟩ := hgoOn.trans (Running.comesTo_happenings hkept happenings)
  exact ⟨_, actions, hbegin, hrun⟩

/-- **A daemon that runs is an attendance on the way**, whatever it is told of. -/
theorem exists_run_of_runWith {l : Launch} {h : Host} {settings : Settings} {r : Running}
    (hruns : runWith l h settings = .running r) (happenings : List Happening) :
    ∃ p w first actions, p.settings = settings ∧ w.host = h ∧
      Attendance.begin p w = .ok first ∧
        first.run actions = some (happenings.foldl Running.happen r).attendance := by
  rw [runWith] at hruns
  split at hruns
  next => split_ifs at hruns
  next =>
    split at hruns
    next => cases hruns
    next watch hwatch =>
      obtain rfl := State.running.inj hruns
      obtain ⟨first, actions, hbegin, hrun⟩ := exists_run_of_watch hwatch _ _ _ _ happenings
      exact ⟨_, _, first, actions, rfl, rfl, hbegin, hrun⟩

end Daemon

end GpuPlugin
