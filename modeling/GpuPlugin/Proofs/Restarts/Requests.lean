import GpuPlugin.Attendance
import GpuPlugin.Proofs.Restarts.Deeds

/-!
# Proofs/Restarts/Requests — no request for a restart is lost

A request that finds the mailbox full is dropped, and a request may come at any moment of a round.
It is not lost all the same: a keeper that has been called for (`IsCalled`) is called for until a
round begins, and a request leaves its keeper called for, dropped or not.  So a keeper that waits,
with nothing in its mailbox, has begun a round after the latest request, and has tried a start in it
(`Underway`).
-/

namespace GpuPlugin

namespace Keeper

variable {k k' : Keeper} {a : Action} {deeds past : List Deed}

/-- Whether something awaits a keeper: a request in its mailbox, or its dismissal. -/
def IsCalled (k : Keeper) : Prop := 0 < k.requests ∨ k.isDismissed = true

/-- **A request leaves something in the mailbox**, its own or what filled it. -/
theorem isCalled_request (k : Keeper) : k.request.IsCalled := by
  rw [request]
  split_ifs with hroom
  · exact Or.inl (Nat.succ_pos _)
  · exact Or.inl (Nat.lt_of_lt_of_le (by decide) (Nat.le_of_not_lt hroom))

/-- **A keeper that is called for is so until a round begins.** -/
theorem IsCalled.next (hcalled : k.IsCalled) (heffect : k.Effect a deeds k') :
    (∃ d ∈ deeds, d.isRound = true) ∨ k'.IsCalled := by
  cases heffect with
  | quiet hspared =>
    exact Or.inr (hcalled.imp (Nat.lt_of_lt_of_le · hspared.requests) hspared.isDismissed)
  | summoned | retried => exact Or.inl ⟨_, List.mem_singleton_self _, rfl⟩
  | _ => exact Or.inr hcalled

/-- **The deeds of a round that is under way**, by what the keeper does next. -/
inductive Underway : Phase → List Deed → Prop where
  | stopping : Underway .stopping []
  | starting (result : Except PluginError Unit) : Underway .starting [.stopped result]
  | waiting (result result' : Except PluginError Unit) :
    Underway .waiting [.stopped result, .started result']
  | leaving (result result' : Except PluginError Unit) :
    Underway .leaving [.stopped result, .started result', .leaving]
  | ended (result result' last : Except PluginError Unit) :
    Underway (.ended last) [.stopped result, .started result', .leaving, .ended last]

theorem Underway.next (hunderway : Underway k.phase past) (heffect : k.Effect a deeds k')
    (hnone : ∀ d ∈ deeds, d.isRound = false) : Underway k'.phase (past ++ deeds) := by
  cases heffect with
  | quiet hspared =>
    rw [hspared.phase, List.append_nil]
    exact hunderway
  | stopped hphase =>
    rw [hphase] at hunderway
    cases hunderway
    exact .starting _
  | started hphase =>
    rw [hphase] at hunderway
    cases hunderway
    exact .waiting _ _
  | left hphase =>
    rw [hphase] at hunderway
    cases hunderway
    exact .leaving _ _
  | ended hphase =>
    rw [hphase] at hunderway
    cases hunderway
    exact .ended _ _ _
  | summoned | retried => cases hnone _ (List.mem_singleton_self _)

theorem Effect.phase_of_round (heffect : k.Effect a deeds k')
    (hround : ∃ d ∈ deeds, d.isRound = true) : k'.phase = .stopping := by
  obtain ⟨d, hmem, hround⟩ := hround
  cases heffect with
  | quiet => cases hmem
  | summoned | retried => rfl
  | _ =>
    obtain rfl := List.mem_singleton.mp hmem
    cases hround

end Keeper

namespace Attendance

variable {t next : Attendance} {a : Action} {actions : List Action}

/-- **Whether an action asks for a restart**: a hangup, or what is taken for the kubelet's socket
made anew. -/
def asks (t : Attendance) : Action → Bool
  | .signal .hangup => true
  | .seen isNew place => t.isSocketMade isNew place
  | _ => false

/-- The deed an action is, if the keeper has something to do in it. -/
def deed (t : Attendance) (a : Action) : List Keeper.Deed :=
  match t.errand a with
  | some b => t.keeper.deed b
  | none => []

/-- The deeds of a run, in order. -/
def deeds (t : Attendance) (actions : List Action) : List Keeper.Deed :=
  Runs.log act deed t actions

/-- **An action is the action of the keeper that it comes to**, or leaves the keeper alone. -/
theorem act_cases (hact : t.act a = some next) :
    next.socketPath = t.socketPath ∧ next.watch = t.watch ∧
      next.isListening = (t.isListening && !a.isEnding) ∧
      ((t.errand a = none ∧ next.keeper = t.keeper) ∨
        ∃ b, t.errand a = some b ∧ t.keeper.act b = some next.keeper) := by
  rw [act] at hact
  split at hact
  next hnone =>
    obtain rfl := Option.some.inj hact
    exact ⟨rfl, rfl, rfl, Or.inl ⟨hnone, rfl⟩⟩
  next b hsome =>
    obtain ⟨keeper, hkeeper, rfl⟩ := Option.map_eq_some_iff.mp hact
    exact ⟨rfl, rfl, rfl, Or.inr ⟨b, hsome, hkeeper⟩⟩

/-- Nobody closes the mailbox. -/
theorem ne_close_of_errand {b : Keeper.Action} (hsome : t.errand a = some b) : b ≠ .close := by
  rintro rfl
  cases a with
  | signal s => cases s <;> simp [errand, Signal.errand] at hsome
  | seen => simp [errand] at hsome
  | _ => cases hsome

/-- What an action comes to for the keeper is a deed or something others do. -/
theorem effect_of_act (hact : t.act a = some next) :
    ∃ b, b ≠ .close ∧ t.keeper.Effect b (t.deed a) next.keeper := by
  obtain ⟨-, -, -, ⟨hnone, hkeeper⟩ | ⟨b, hsome, hkeeper⟩⟩ := act_cases hact
  · refine ⟨.dismiss, nofun, ?_⟩
    rw [deed, hnone, hkeeper]
    exact .quiet {}
  · refine ⟨b, ne_close_of_errand hsome, ?_⟩
    rw [deed, hsome]
    exact Keeper.effect_of_act hkeeper

/-! ## What every run keeps -/

/-- **What holds of an attendance all the time**: nobody is kept from asking. -/
structure Kept (t : Attendance) : Prop where
  /-- Signals are listened to until the keeper is dismissed. -/
  listening : t.isListening = false → t.keeper.isDismissed = true
  isOpen : t.keeper.isOpen = true

theorem errand_of_isEnding (hlistening : t.isListening = true) (hending : a.isEnding = true) :
    t.errand a = some .dismiss := by
  cases a with
  | signal s =>
    rw [errand, if_pos hlistening]
    cases s with
    | hangup => cases hending
    | terminate | interrupt => rfl
  | _ => cases hending

theorem errand_of_asks (hlistening : t.isListening = true) (hasks : t.asks a = true) :
    t.errand a = some .request := by
  cases a with
  | signal s =>
    rw [errand, if_pos hlistening]
    cases s with
    | hangup => rfl
    | terminate | interrupt => cases hasks
  | seen isNew place => exact if_pos hasks
  | _ => cases hasks

theorem keeper_of_errand {b : Keeper.Action} (hact : t.act a = some next)
    (hsome : t.errand a = some b) : t.keeper.act b = some next.keeper := by
  obtain ⟨-, -, -, ⟨hnone, -⟩ | ⟨b', hsome', hkeeper⟩⟩ := act_cases hact
  · cases hnone.symm.trans hsome
  · obtain rfl := Option.some.inj (hsome.symm.trans hsome')
    exact hkeeper

theorem Kept.act (hkept : t.Kept) (hact : t.act a = some next) : next.Kept := by
  obtain ⟨b, hclose, heffect⟩ := effect_of_act hact
  refine ⟨fun hdeaf => ?_, (heffect.isOpen hclose).trans hkept.isOpen⟩
  obtain ⟨-, -, hlistening, -⟩ := act_cases hact
  cases hbefore : t.isListening with
  | false => exact heffect.isDismissed (hkept.listening hbefore)
  | true =>
    have hending : a.isEnding = true := by simpa [hbefore, hdeaf] using hlistening
    have hdismiss := keeper_of_errand hact (errand_of_isEnding hbefore hending)
    rw [← Option.some.inj hdismiss]
    rfl

theorem Kept.run (hkept : t.Kept) (hrun : t.run actions = some next) : next.Kept :=
  Runs.kept_of_run Kept.act hrun hkept

theorem isSome_act (hkeeper : ∀ b, t.errand a = some b → (t.keeper.act b).isSome = true) :
    (t.act a).isSome = true := by
  rw [act]
  split
  next => rfl
  next b hsome => exact Option.isSome_map.trans (hkeeper b hsome)

/-- **Nobody who asks is held up**: every signal can come, and everything can be seen. -/
theorem Kept.isSome_act (hkept : t.Kept) (s : Signal) (isNew : Bool) (place : Location) :
    (t.act (.signal s)).isSome = true ∧ (t.act (.seen isNew place)).isSome = true := by
  have hrequest : (t.keeper.act .request).isSome = true := by
    rw [Keeper.act, if_pos hkept.isOpen]
    rfl
  constructor
  · refine Attendance.isSome_act fun b hsome => ?_
    obtain ⟨-, hb⟩ := Option.ite_none_right_eq_some.mp hsome
    obtain rfl := Option.some.inj hb
    cases s with
    | hangup => exact hrequest
    | terminate | interrupt => rfl
  · refine Attendance.isSome_act fun b hsome => ?_
    obtain ⟨-, hb⟩ := Option.ite_none_right_eq_some.mp hsome
    obtain rfl := Option.some.inj hb
    exact hrequest

/-- **A restart that is asked for is called for**, or the keeper is dismissed already. -/
theorem Kept.isCalled (hkept : t.Kept) (hact : t.act a = some next) (hasks : t.asks a = true) :
    next.keeper.IsCalled := by
  obtain ⟨b, hclose, heffect⟩ := effect_of_act hact
  cases hlistening : t.isListening with
  | false => exact Or.inr (heffect.isDismissed (hkept.listening hlistening))
  | true =>
    have hrequest := keeper_of_errand hact (errand_of_asks hlistening hasks)
    rw [Keeper.act, if_pos hkept.isOpen] at hrequest
    rw [← Option.some.inj hrequest]
    exact Keeper.isCalled_request t.keeper

/-- What asks for a restart stays the same. -/
theorem asks_of_run (hrun : t.run actions = some next) : next.asks = t.asks := by
  have hstays : next.socketPath = t.socketPath ∧ next.watch = t.watch := by
    refine Runs.kept_of_run (P := fun u => u.socketPath = t.socketPath ∧ u.watch = t.watch) ?_ hrun
      ⟨rfl, rfl⟩
    rintro u a v ⟨hpath, hwatch⟩ hact
    obtain ⟨hpath', hwatch', -⟩ := act_cases hact
    exact ⟨hpath'.trans hpath, hwatch'.trans hwatch⟩
  funext a
  simp only [asks, isSocketMade, hstays]

/-! ## The latest round -/

/-- **A call stands until a round begins**, whatever happens. -/
theorem isCalled_of_run (hrun : t.run actions = some next) (hcalled : t.keeper.IsCalled) :
    (∃ d ∈ t.deeds actions, d.isRound = true) ∨ next.keeper.IsCalled := by
  have hnow : (∃ d ∈ ([] : List Keeper.Deed), d.isRound = true) ∨ t.keeper.IsCalled :=
    Or.inr hcalled
  refine Runs.kept_of_run_log (P := fun (u : Attendance) (past : List Keeper.Deed) =>
    (∃ d ∈ past, d.isRound = true) ∨ u.keeper.IsCalled) ?_ hrun hnow
  rintro u past a v (⟨d, hmem, hround⟩ | hcalled) hact
  · exact Or.inl ⟨d, List.mem_append_left _ hmem, hround⟩
  · obtain ⟨b, -, heffect⟩ := effect_of_act hact
    rcases hcalled.next heffect with ⟨d, hmem, hround⟩ | hcalled
    · exact Or.inl ⟨d, List.mem_append_right _ hmem, hround⟩
    · exact Or.inr hcalled

/-- As long as no other round begins, the round that has begun is under way. -/
theorem underway_of_run (hrun : t.run actions = some next) (hphase : t.keeper.phase = .stopping)
    (hnone : ∀ d ∈ t.deeds actions, d.isRound = false) :
    Keeper.Underway next.keeper.phase (t.deeds actions) := by
  have hnow : (∀ d ∈ ([] : List Keeper.Deed), d.isRound = false) →
      Keeper.Underway t.keeper.phase [] := by
    rw [hphase]
    exact fun _ => .stopping
  refine Runs.kept_of_run_log (P := fun (u : Attendance) (past : List Keeper.Deed) =>
    (∀ d ∈ past, d.isRound = false) → Keeper.Underway u.keeper.phase past) ?_ hrun hnow hnone
  intro u past a v hunderway hact hnone
  obtain ⟨b, -, heffect⟩ := effect_of_act hact
  have hpast := hunderway fun d hmem => hnone d (List.mem_append_left _ hmem)
  exact hpast.next heffect fun d hmem => hnone d (List.mem_append_right _ hmem)

/-- **A run is split where its latest round begins**, if any begins in it. -/
theorem exists_latest_round (hrun : t.run actions = some next) :
    (∀ d ∈ t.deeds actions, d.isRound = false) ∨
    ∃ early late begun, actions = early ++ late ∧ t.run early = some begun ∧
      begun.keeper.phase = .stopping ∧ ∀ d ∈ begun.deeds late, d.isRound = false := by
  induction actions generalizing t with
  | nil => exact Or.inl nofun
  | cons a actions ih =>
    obtain ⟨u, hact, hrest⟩ := Runs.run_cons.mp hrun
    -- A round that begins in the rest of the run is later than one that begins now.
    rcases ih hrest with hnone | ⟨early, late, begun, rfl, hbegun, hphase, hnone⟩
    · by_cases hround : ∃ d ∈ t.deed a, d.isRound = true
      · obtain ⟨b, -, heffect⟩ := effect_of_act hact
        have hearly : t.run [a] = some u := Runs.run_cons.mpr ⟨u, hact, rfl⟩
        exact Or.inr ⟨[a], actions, u, rfl, hearly, heffect.phase_of_round hround, hnone⟩
      · refine Or.inl fun d hmem => ?_
        rw [deeds, Runs.log_cons hact] at hmem
        rcases List.mem_append.mp hmem with hmem | hmem
        · exact Bool.eq_false_iff.mpr fun hd => hround ⟨d, hmem, hd⟩
        · exact hnone d hmem
    · have hearly : t.run (a :: early) = some begun := Runs.run_cons.mpr ⟨u, hact, hbegun⟩
      exact Or.inr ⟨a :: early, late, begun, rfl, hearly, hphase, hnone⟩

/-! ## Left alone -/

/-- What the keeper can do, the attendance lets it do. -/
theorem act_of_errand {b : Keeper.Action} {keeper : Keeper} (hsome : t.errand a = some b)
    (hending : a.isEnding = false) (hkeeper : t.keeper.act b = some keeper) :
    t.act a = some { t with keeper } := by
  rw [act, hsome, hending]
  simp [hkeeper]

/-- **A keeper that is left alone settles**, step by step. -/
theorem exists_run_settle (t : Attendance) :
    ∃ n, t.run (List.replicate n .step) = some { t with keeper := t.keeper.settle } := by
  obtain ⟨k, socketPath, watch, isListening⟩ := t
  change ∃ n, run ⟨k, socketPath, watch, isListening⟩ (List.replicate n .step)
    = some ⟨k.settle, socketPath, watch, isListening⟩
  fun_induction Keeper.settle k with
  | case1 k hstep => exact ⟨0, rfl⟩
  | case2 k next hstep ih =>
    let t : Attendance := ⟨k, socketPath, watch, isListening⟩
    have hact : t.act .step = some { t with keeper := next } := act_of_errand rfl rfl hstep
    obtain ⟨n, hrun⟩ := ih
    exact ⟨n + 1, Runs.run_cons.mpr ⟨_, hact, hrun⟩⟩

/-! ## Every run -/

theorem exists_of_begin {p : Plugin} {w : World} (hbegin : begin p w = .ok t) :
    ∃ watch, Daemon.watch w.host p.settings.kubeletSocketPath = .ok watch ∧
      t = { keeper := { plugin := p, world := w }, socketPath := p.settings.kubeletSocketPath,
            watch } := by
  rw [begin] at hbegin
  cases hwatch : Daemon.watch w.host p.settings.kubeletSocketPath with
  | error e =>
    rw [hwatch] at hbegin
    cases hbegin
  | ok watch =>
    rw [hwatch] at hbegin
    exact ⟨watch, rfl, (Except.ok.inj hbegin).symm⟩

theorem kept_of_begin {p : Plugin} {w : World} (hbegin : begin p w = .ok t) :
    t.Kept ∧ t.keeper.phase = .stopping := by
  obtain ⟨watch, -, rfl⟩ := exists_of_begin hbegin
  exact ⟨⟨nofun, rfl⟩, rfl⟩

/-- **What a run of an attendance comes to.** -/
structure Answered (first : Attendance) (actions : List Action) (t : Attendance) : Prop where
  /-- Whoever asks can ask. -/
  heard : ∀ s isNew place,
    (t.act (.signal s)).isSome = true ∧ (t.act (.seen isNew place)).isSome = true
  /-- After every action that asks for a restart a round has begun, or a request is in the mailbox,
  or the keeper is dismissed. -/
  called : ∀ before a after early, actions = before ++ a :: after → first.run before = some early →
    first.asks a = true →
    (∃ d ∈ early.deeds (a :: after), d.isRound = true) ∨ 0 < t.keeper.requests ∨
      t.keeper.isDismissed = true
  /-- A keeper that waits with nothing in its mailbox has stopped and started its plugin in a round
  that began when the last restart had been asked for. -/
  waiting : t.keeper.phase = .waiting → t.keeper.requests = 0 → t.keeper.isDismissed = false →
    ∃ early late begun, actions = early ++ late ∧ first.run early = some begun ∧
      begun.keeper.phase = .stopping ∧ (∀ a ∈ late, first.asks a = false) ∧
      ∃ result result', begun.deeds late = [.stopped result, .started result']
  /-- A keeper that is left alone comes to wait with nothing in its mailbox, or to its end. -/
  settles : ∃ n t', t.run (List.replicate n .step) = some t' ∧
    ((t'.keeper.phase = .waiting ∧ t'.keeper.requests = 0 ∧ t'.keeper.isDismissed = false) ∨
      ∃ result, t'.keeper.phase = .ended result)

theorem called_of_run {first early : Attendance} {before after : List Action} (hfirst : first.Kept)
    (hrun : first.run (before ++ a :: after) = some t) (hearly : first.run before = some early)
    (hasks : first.asks a = true) :
    (∃ d ∈ early.deeds (a :: after), d.isRound = true) ∨ t.keeper.IsCalled := by
  obtain ⟨early', hearly', hrest⟩ := Runs.run_append.mp hrun
  obtain rfl := Option.some.inj (hearly.symm.trans hearly')
  obtain ⟨next, hact, hafter⟩ := Runs.run_cons.mp hrest
  rw [← asks_of_run hearly] at hasks
  have hcalled := (hfirst.run hearly).isCalled hact hasks
  rw [deeds, Runs.log_cons hact]
  refine (isCalled_of_run hafter hcalled).imp_left ?_
  rintro ⟨d, hmem, hround⟩
  exact ⟨d, List.mem_append_right _ hmem, hround⟩

theorem waiting_of_run {first : Attendance} (hfirst : first.Kept)
    (hphase : first.keeper.phase = .stopping) (hrun : first.run actions = some t)
    (hwaiting : t.keeper.phase = .waiting) (hnot : ¬ t.keeper.IsCalled) :
    ∃ early late begun, actions = early ++ late ∧ first.run early = some begun ∧
      begun.keeper.phase = .stopping ∧ (∀ a ∈ late, first.asks a = false) ∧
      ∃ result result', begun.deeds late = [.stopped result, .started result'] := by
  obtain ⟨early, late, begun, rfl, hbegun, hphase, hnone⟩ :
      ∃ early late begun, actions = early ++ late ∧ first.run early = some begun ∧
        begun.keeper.phase = .stopping ∧ ∀ d ∈ begun.deeds late, d.isRound = false := by
    rcases exists_latest_round hrun with hnone | hsplit
    · exact ⟨[], actions, first, rfl, rfl, hphase, hnone⟩
    · exact hsplit
  obtain ⟨begun', hbegun', hlate⟩ := Runs.run_append.mp hrun
  obtain rfl := Option.some.inj (hbegun.symm.trans hbegun')
  refine ⟨early, late, begun, rfl, hbegun, hphase, ?_, ?_⟩
  · intro a hmem
    obtain ⟨before, after, rfl⟩ := List.append_of_mem hmem
    obtain ⟨mid, hmid, -⟩ := Runs.run_append.mp hlate
    -- What is asked for in a round has a later round begin, or else the keeper is called for still.
    refine Bool.eq_false_iff.mpr fun hasks => ?_
    rw [← asks_of_run hbegun] at hasks
    rcases called_of_run (hfirst.run hbegun) hlate hmid hasks with ⟨d, hd, hround⟩ | hcalled
    · rw [deeds, Runs.log_append hmid] at hnone
      exact Bool.eq_false_iff.mp (hnone d (List.mem_append_right _ hd)) hround
    · exact hnot hcalled
  · have hunderway := underway_of_run hlate hphase hnone
    rw [hwaiting] at hunderway
    generalize begun.deeds late = past at hunderway ⊢
    cases hunderway with
    | waiting result result' => exact ⟨result, result', rfl⟩

/-- **No request for a restart is lost**, in any run. -/
theorem answered_of_run {p : Plugin} {w : World} {first : Attendance}
    (hbegin : begin p w = .ok first) (hrun : first.run actions = some t) :
    first.Answered actions t := by
  obtain ⟨hfirst, hphase⟩ := kept_of_begin hbegin
  constructor
  · exact (hfirst.run hrun).isSome_act
  · rintro before a after early rfl hearly hasks
    exact called_of_run hfirst hrun hearly hasks
  · intro hwaiting hnone hthere
    refine waiting_of_run hfirst hphase hrun hwaiting ?_
    rintro (hsome | hdismissed)
    · exact Nat.lt_irrefl 0 (hnone ▸ hsome)
    · exact Bool.eq_false_iff.mp hthere hdismissed
  · obtain ⟨n, hsettle⟩ := exists_run_settle t
    exact ⟨n, _, hsettle, Keeper.rests_of_step_eq_none (Keeper.step_settle t.keeper)⟩

/-- A hangup before the first round and a new socket in the middle of it: the keeper waits again
after two more rounds, the latest of which began after both. -/
theorem answered_of_run_of_two_requests :
    let p : Plugin :=
      { settings := { socketPath := "/gpu.sock", kubeletSocketPath := "/kubelet.sock" }
        policy := none }
    let w : World :=
      { host := ⟨[], [(["kubelet.sock"], .socket .kubelet)]⟩, devices := some [] }
    let first : Attendance :=
      { keeper := { plugin := p, world := w }, socketPath := "/kubelet.sock", watch := ⟨[], "/"⟩ }
    let actions : List Action :=
      [.signal .hangup, .step, .seen true ["kubelet.sock"], .step, .step, .step, .step, .step,
        .step, .step]
    begin p w = .ok first ∧ ∃ t, first.run actions = some t ∧ t.keeper.starts = 3 ∧
      ∃ early late begun, actions = early ++ late ∧ first.run early = some begun ∧
        begun.keeper.phase = .stopping ∧ ∀ a ∈ late, first.asks a = false := by
  intro p w first actions
  have hwatch : Daemon.watch ⟨[], [(["kubelet.sock"], .socket .kubelet)]⟩ "/kubelet.sock"
      = .ok ⟨[], "/"⟩ := by rfl
  have hbegin : begin p w = .ok first := by rw [begin, hwatch]; rfl
  have hend : (first.run actions).map (fun t => (t.keeper.starts, t.keeper.requests,
      t.keeper.isDismissed, t.keeper.phase.distance)) = some (3, 0, false, 2) := by decide
  obtain ⟨t, hrun, ht⟩ := Option.map_eq_some_iff.mp hend
  obtain ⟨hstarts, hrequests, hthere, hdistance⟩ :
      t.keeper.starts = 3 ∧ t.keeper.requests = 0 ∧ t.keeper.isDismissed = false ∧
        t.keeper.phase.distance = 2 := by simpa using ht
  cases hphase : t.keeper.phase with
  | waiting =>
    obtain ⟨early, late, begun, hsplit, hearly, hbegun, hnone, -⟩ :=
      (answered_of_run hbegin hrun).waiting hphase hrequests hthere
    exact ⟨hbegin, t, hrun, hstarts, early, late, begun, hsplit, hearly, hbegun, hnone⟩
  | _ =>
    rw [hphase] at hdistance
    cases hdistance

end Attendance

end GpuPlugin
