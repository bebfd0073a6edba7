import GpuPlugin.Proofs.Allocation.Refusal
import GpuPlugin.Proofs.Plugin.Lifecycle

/-!
# Proofs/Plugin/Options — a plugin can do what it says it can

What a plugin can do follows from its settings and its policy, which no call ever changes, and which
every session holds from its beginning.  So every registration the kubelet has taken says what the
session still answers when it is asked (`registered_start`, `Plugin.Kept.toldOptions`), and
preferences are refused for want of any exactly by a session of a plugin that has not offered them
(`Life.candid`).
-/

namespace GpuPlugin

namespace Plugin

variable {p : Plugin} {w : World}

/-- What the kubelet is told is what it has been sent. -/
theorem Kept.toldOptions (hkept : p.Kept) (hserving : p.isServing = true) :
    p.toldOptions = p.registration.options := by
  obtain ⟨s, hs⟩ := Option.isSome_iff_exists.mp hserving
  rw [Plugin.toldOptions, hs]
  exact congrArg some (hkept.own s hs).options

theorem alike_call (p : Plugin) (w : World) (c : Call) : p.Alike (p.call w c).plugin := by
  cases c with
  | start => exact alike_start p w
  | stop => exact alike_stop p w
  | register =>
    rw [call, plugin_register]
    exact .refl p

/-! ## Registrations the kubelet has taken -/

/-- What the kubelet has taken of an action that registers: its registration, if it succeeded. -/
def Outcome.taken (o : Outcome) (r : RegisterRequest) : List RegisterRequest :=
  match o.result with
  | .ok () => [r]
  | .error _ => []

theorem kubelet_stop (p : Plugin) (w : World) : (p.stop w).world.kubelet = w.kubelet := by
  rw [stop]
  split_ifs
  · split <;> rfl
  · rfl

theorem registered_register (p : Plugin) (w : World) :
    (p.register w).world.kubelet.registered
      = w.kubelet.registered ++ (p.register w).taken p.registration := by
  rcases register_cases p w with hok | ⟨attempts, herr⟩
  · rw [hok]
    rfl
  · rw [herr]
    exact (List.append_nil _).symm

theorem registered_serve (p : Plugin) (w : World) (devices : List Device) :
    (p.serve w devices).world.kubelet.registered
      = w.kubelet.registered ++ (p.serve w devices).taken p.registration := by
  rw [serve]
  split
  next => exact (List.append_nil _).symm
  next host _ =>
    have hregistered := registered_register (p.next devices) { w with host }
    dsimp only
    split
    next => exact hregistered
    next e herr =>
      rw [Outcome.taken, herr] at hregistered
      rw [kubelet_stop]
      exact hregistered

theorem registered_startIdle (p : Plugin) (w : World) :
    (p.startIdle w).world.kubelet.registered
      = w.kubelet.registered ++ (p.startIdle w).taken p.registration := by
  rw [startIdle]
  split
  next => exact (List.append_nil _).symm
  next devices _ => exact registered_serve p w devices

/-- **A start that succeeds has sent one registration**, and one that fails none that was taken. -/
theorem registered_start (p : Plugin) (w : World) :
    (p.start w).world.kubelet.registered
      = w.kubelet.registered ++ (p.start w).taken p.registration := by
  rw [start]
  split_ifs
  · have hstarted := registered_startIdle (p.stop w).plugin (p.stop w).world
    rw [kubelet_stop, (alike_stop p w).registration] at hstarted
    dsimp only
    split
    next => exact hstarted
    next e herr =>
      rw [Outcome.taken, herr, kubelet_stop]
      exact (List.append_nil _).symm
  · exact registered_startIdle p w

end Plugin

namespace Life

variable {l : Life}

/-- The registrations that the kubelet takes from a call. -/
def sent (l : Life) : Call → List RegisterRequest
  | .start => (l.plugin.start l.world).taken l.plugin.registration
  | .stop => []
  | .register => (l.plugin.register l.world).taken l.plugin.registration

theorem registered_after (l : Life) (c : Call) :
    (l.after (.call c)).world.kubelet.registered = l.world.kubelet.registered ++ l.sent c := by
  cases c with
  | start => exact Plugin.registered_start l.plugin l.world
  | stop =>
    change (l.plugin.stop l.world).world.kubelet.registered = _
    rw [Plugin.kubelet_stop]
    exact (List.append_nil _).symm
  | register => exact Plugin.registered_register l.plugin l.world

theorem alike_after (l : Life) (event : Event) : l.plugin.Alike (l.after event).plugin := by
  cases event with
  | call c => exact Plugin.alike_call l.plugin l.world c
  | watch =>
    rw [after]
    split
    next => exact .refl l.plugin
    next list p hwatch =>
      obtain ⟨s, -, rfl⟩ := Plugin.eq_of_watch hwatch
      exact ⟨rfl, rfl⟩
  | report id => exact ⟨rfl, rfl⟩
  | change w => exact .refl l.plugin

/-- **Nothing that happens changes how a plugin is set up.** -/
theorem alike_run (l : Life) (events : List Event) : l.plugin.Alike (l.run events).plugin := by
  induction events generalizing l with
  | nil => exact .refl l.plugin
  | cons event events ih => exact (alike_after l event).trans (ih (l.after event))

/-! ## Preferences are as advertised -/

open Replica in
/-- **A life in which the plugin does what it says.** -/
structure Candid (l : Life) : Prop where
  /-- The kubelet has taken one registration of each call that registers and succeeds. -/
  registered : ∀ c, (l.after (.call c)).world.kubelet.registered
    = l.world.kubelet.registered ++ l.sent c
  /-- The session is set up by the plugin. -/
  own : ∀ s, l.plugin.session = some s → s.SetUpBy l.plugin
  /-- Whatever happens, a session tells the kubelet what the registrations did. -/
  told : ∀ events, (l.run events).plugin.isServing = true →
    (l.run events).plugin.toldOptions = l.plugin.registration.options
  /-- Preferences that are offered are given, one for each container in order, unless a device is
  not listed.  The first such device is the refusal. -/
  available : l.plugin.options.preferredAllocationAvailable = true → ∀ s : Session,
    s.SetUpBy l.plugin → ∀ request,
      (∀ response, s.allocator.preferred request = .ok response ↔
        (∀ m ∈ request.mentions, s.inventory.Lists (deviceId m.2)) ∧
          List.Forall₂ (fun c r => s.allocator.preference? c = some r)
            request.containers response.containers) ∧
      ∀ e, s.allocator.preferred request = .error e ↔
        ∃ before m after, request.mentions = before ++ m :: after ∧
          (∀ q ∈ before, s.inventory.Lists (deviceId q.2)) ∧ ¬ s.inventory.Lists (deviceId m.2) ∧
          e = .unknownPreferred m.1 (deviceId m.2)
  /-- Preferences that are not offered are refused to the first container: for its first device that
  is not listed, or for want of any preference. -/
  unavailable : l.plugin.options.preferredAllocationAvailable = false → ∀ s : Session,
    s.SetUpBy l.plugin → ∀ c rest,
      (∀ before m after, c.mentions = before ++ m :: after →
        (∀ q ∈ before, s.inventory.Lists (deviceId q.2)) → ¬ s.inventory.Lists (deviceId m.2) →
          s.allocator.preferred ⟨c :: rest⟩ = .error (.unknownPreferred m.1 (deviceId m.2))) ∧
      ((∀ m ∈ c.mentions, s.inventory.Lists (deviceId m.2)) →
        s.allocator.preferred ⟨c :: rest⟩ = .error .noPreference)

/-- A session has preferences if the plugin that has set it up offers them. -/
theorem prefers_iff_of_setUpBy {s : Session} (hown : s.SetUpBy l.plugin) :
    s.allocator.Prefers ↔ l.plugin.options.preferredAllocationAvailable = true := by
  have hprefers : s.allocator.Prefers ↔
      (s.policy.isSome || s.settings.replication.isShared) = true := Iff.rfl
  rw [hprefers, hown.settings, hown.policy]
  exact Iff.rfl

/-- **Every life is candid.** -/
theorem candid (settings : Settings) (policy : Option Policy) (w : World) (events : List Event) :
    ((begin settings policy w).run events).Candid := by
  have hkept := (kept_begin settings policy w).run events
  generalize (begin settings policy w).run events = l at hkept ⊢
  refine
    { registered := registered_after l
      own := hkept.plugin.own
      told := fun events hserving => ?_
      available := fun hoffered s hown request => ?_
      unavailable := fun hnot s hown c rest => ?_ }
  · rw [(hkept.run events).plugin.toldOptions hserving, (alike_run l events).registration]
  · have hprefers : s.allocator.Prefers := (prefers_iff_of_setUpBy hown).mpr hoffered
    refine ⟨fun response => Allocator.preferred_eq_ok_iff_listed, fun e => ?_⟩
    rw [Allocator.preferred_eq_error_iff hprefers]
    exact Inventory.findSome?_refusal?_eq_some_iff
  · have hprefers : ¬ s.allocator.Prefers := fun h =>
      Bool.eq_false_iff.mp hnot ((prefers_iff_of_setUpBy hown).mp h)
    rw [Allocator.preferred_of_not_prefers hprefers]
    refine ⟨fun before m after hsplit hbefore hnone => ?_, fun hlisted => ?_⟩
    · have hfirst : c.mentions.findSome? s.allocator.inventory.refusal?
          = some (.unknownPreferred m.1 (Replica.deviceId m.2)) :=
        Inventory.findSome?_refusal?_eq_some_iff.mpr
          ⟨before, m, after, hsplit, hbefore, hnone, rfl⟩
      rw [hfirst]
      rfl
    · have hfirst : c.mentions.findSome? s.allocator.inventory.refusal? = none :=
        Inventory.findSome?_refusal?_eq_none_iff.mpr hlisted
      rw [hfirst]
      rfl

end Life

end GpuPlugin
