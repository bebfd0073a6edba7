import GpuPlugin.Proofs.HandOver.Sessions
import Mathlib.Algebra.Ring.Nat

/-!
# Proofs/HandOver/Progress — a call always comes to its end

Whoever waits in a stop waits for a checker, and the checker may wait for the relay; but the relay
waits for neither of them.  So while a call is under way something can happen that brings it on
(`Kept.exists_act`), and apart from further findings of the checkers there is only so much that can
happen (`weight_of_run`).
-/

namespace GpuPlugin.HandOver

/-! ## How much can still happen -/

/-- A report that a checker holds has to be sent and applied. -/
def Checker.weight : Checker → Nat
  | .sending _ => 3
  | .running => 1
  | .returned => 0

/-- How many things the tasks of a session can still do, if nothing is found. -/
def Tasks.weight (t : Tasks) : Nat := t.checker.weight + t.queue.length + t.isRelaying.toNat

/-- How many stages are still ahead, and what the tasks of a session to come can do. -/
def Stage.weight : Stage → Nat
  | .idle | .serving => 0
  | .starting => 3
  | .clearing _ => 4
  | .awaitingChecker _ => 5
  | .awaitingRelay _ => 6
  | .awaitingServer _ => 7

/-- **How many things can still happen**, if nothing is found and nobody calls. -/
def State.weight (st : State) : Nat := st.stage.weight + (st.sessions.map Tasks.weight).sum

/-- How many reports are found in an action. -/
def Action.finds : Action → Nat
  | .task _ a => a.found.length
  | _ => 0

/-- Whether a call is under way. -/
def Stage.isBusy : Stage → Bool
  | .idle | .serving => false
  | .starting | .awaitingServer _ | .awaitingRelay _ | .awaitingChecker _ | .clearing _ => true

/-- **Whatever the tasks do, less is left to do**, but for what is found. -/
theorem Tasks.weight_act {t t' : Tasks} {a : Action} (hact : t.act a = some t') :
    t'.weight + 1 ≤ t.weight + 3 * a.found.length := by
  cases effect_of_act hact with
  | found id hrunning =>
    simp only [weight, Checker.weight, hrunning, Action.found, List.length_singleton]
    omega
  | put hsending hrelaying hplace =>
    simp only [weight, Checker.weight, hsending, List.length_append, List.length_singleton]
    omega
  | dropped hsending hclosed =>
    simp only [weight, Checker.weight, hsending]
    omega
  | returned hrunning =>
    simp only [weight, Checker.weight, hrunning]
    omega
  | applied hrelaying hqueue =>
    simp only [weight, hqueue, List.length_cons]
    omega
  | ended hrelaying hfree =>
    simp only [weight, hrelaying, List.length_nil, Bool.toNat_false, Bool.toNat_true]
    omega

namespace State

variable {st st' : State} {a : Action} {past actions : List Action} {i : Nat} {t t' : Tasks}

theorem sum_weight_set {sessions : List Tasks} (ht : sessions[i]? = some t) (t' : Tasks) :
    ((sessions.set i t').map Tasks.weight).sum + t.weight
      = (sessions.map Tasks.weight).sum + t'.weight := by
  induction sessions generalizing i with
  | nil => cases ht
  | cons u sessions ih =>
    cases i with
    | zero =>
      obtain rfl := Option.some.inj ht
      simp only [List.set_cons_zero, List.map_cons, List.sum_cons]
      omega
    | succ i =>
      have hrest := ih ht
      simp only [List.set_cons_succ, List.map_cons, List.sum_cons]
      omega

theorem Moves.weight_lt {stage : Stage} (hmoves : st.Moves a stage) (hcall : a.isCall = false) :
    stage.weight < st.stage.weight := by
  cases hmoves with
  | start | stop => cases hcall
  | failed hstage | server hstage | relay hstage | checker hstage =>
    rw [hstage]
    simp [Stage.weight]
  | cleared ok hstage =>
    rw [hstage]
    split_ifs
    · simp [Stage.weight]
    · simp [Stage.weight]

/-- **Whatever happens, less is left to happen**, but for what is found. -/
theorem weight_act (hact : st.act a = some st') (hcall : a.isCall = false) :
    st'.weight + 1 ≤ st.weight + 3 * a.finds := by
  cases effect_of_act hact with
  | @acted i a t t' ht htask =>
    have hsum := sum_weight_set ht t'
    have htasks := Tasks.weight_act htask
    simp only [weight, Action.finds]
    omega
  | cancelled again hcall' =>
    rw [hcall] at hcall'
    cases hcall'
  | began replicas hstage =>
    have hnew : Tasks.weight { replicas } = 2 := rfl
    simp only [weight, hstage, List.map_append, List.sum_append, List.map_singleton,
      List.sum_singleton, hnew, Stage.weight]
    omega
  | moved hmoves =>
    have hlt := hmoves.weight_lt hcall
    simp only [weight]
    omega

/-- **Only so much happens in a run in which nobody calls**, but for what is found. -/
theorem weight_of_run (hrun : st.run actions = some st')
    (hcalls : ∀ a ∈ actions, a.isCall = false) :
    actions.length + st'.weight ≤ st.weight + 3 * (actions.map Action.finds).sum := by
  induction actions generalizing st with
  | nil =>
    obtain rfl := Runs.eq_of_run_nil hrun
    simp
  | cons a actions ih =>
    obtain ⟨next, hact, hrest⟩ := Runs.run_cons.mp hrun
    have hstep := weight_act hact (hcalls a List.mem_cons_self)
    have hlater := ih hrest fun b hb => hcalls b (List.mem_cons_of_mem a hb)
    rw [List.length_cons, List.map_cons, List.sum_cons]
    omega

/-! ## Nobody is stuck -/

theorem act_task (st : State) (i : Nat) (b : Tasks.Action) :
    st.act (.task i b) = st.updateTasks i (·.act b) := by
  unfold act
  cases st.stage <;> rfl

theorem act_task_eq_some {b : Tasks.Action} (ht : st.sessions[i]? = some t)
    (hact : t.act b = some t') :
    st.act (.task i b) = some { st with sessions := st.sessions.set i t' } := by
  rw [act_task, updateTasks, ht]
  change (t.act b).bind _ = _
  rw [hact]
  rfl

theorem act_checkerAwaited {again : Bool} (hstage : st.stage = .awaitingChecker again)
    (hlatest : st.latest? = some t) (hreturned : t.checker = .returned) :
    st.act .checkerAwaited = some { st with stage := .clearing again } := by
  unfold act
  rw [hstage, hlatest]
  exact if_pos (decide_eq_true hreturned)

/-- **What the tasks of a session can do in a row is a run**, in which the plugin stays where it
is. -/
theorem exists_run_tasks {acts : List Tasks.Action} (ht : st.sessions[i]? = some t)
    (hacts : acts.foldlM Tasks.act t = some t') :
    ∃ st', st.run (acts.map (.task i)) = some st' ∧ st'.stage = st.stage ∧
      st'.sessions.length = st.sessions.length ∧ st'.sessions[i]? = some t' := by
  induction acts generalizing st t with
  | nil =>
    obtain rfl := Runs.eq_of_run_nil hacts
    exact ⟨st, rfl, rfl, rfl, ht⟩
  | cons b acts ih =>
    obtain ⟨next, hact, hrest⟩ := Runs.run_cons.mp hacts
    let later : State := { st with sessions := st.sessions.set i next }
    have hnext : later.sessions[i]? = some next :=
      List.getElem?_set_self (List.getElem?_eq_some_iff.mp ht).1
    obtain ⟨st', hrun, hstage, hlength, ht'⟩ := ih hnext hrest
    exact ⟨st', Runs.run_cons.mpr ⟨later, act_task_eq_some ht hact, hrun⟩, hstage,
      hlength.trans List.length_set, ht'⟩

/-- Every session is cancelled, unless the plugin serves. -/
theorem Kept.isCancelled (hkept : st.Kept past) (ht : st.sessions[i]? = some t)
    (hserving : st.stage ≠ .serving) : t.isCancelled = true := by
  have hlt := (List.getElem?_eq_some_iff.mp ht).1
  rcases Nat.lt_or_eq_of_le (Nat.succ_le_of_lt hlt) with hlt | hlast
  · exact (hkept.earlier ht hlt).cancelled
  · have hallows := hkept.latest ht hlast
    cases hstage : st.stage with
    | serving => exact absurd hstage hserving
    | idle | starting | clearing =>
      rw [hstage] at hallows
      exact hallows.cancelled
    | awaitingServer | awaitingRelay | awaitingChecker =>
      rw [hstage] at hallows
      exact hallows

/-- A checker that is waited for returns, or does what it needs to before. -/
theorem Kept.exists_act_of_awaitingChecker {again : Bool} (hkept : st.Kept past)
    (hstage : st.stage = .awaitingChecker again) :
    ∃ a st', a.isCall = false ∧ a.finds = 0 ∧ st.act a = some st' := by
  have hpos : 0 < st.sessions.length := hkept.held (hstage ▸ rfl)
  have hlt : st.sessions.length - 1 < st.sessions.length := Nat.sub_one_lt_of_lt hpos
  obtain ⟨i, t, ht, hlast⟩ : ∃ i t, st.sessions[i]? = some t ∧ i + 1 = st.sessions.length :=
    ⟨_, _, List.getElem?_eq_getElem hlt, Nat.sub_add_cancel hpos⟩
  have hlatest : st.latest? = some t := latest?_eq_some_iff.mpr ⟨i, ht, hlast⟩
  cases hchecker : t.checker with
  | returned => exact ⟨.checkerAwaited, _, rfl, rfl, act_checkerAwaited hstage hlatest hchecker⟩
  | running => exact ⟨.task i .giveUp, _, rfl, rfl, act_task_eq_some ht (Tasks.act_giveUp hchecker)⟩
  | sending id =>
    cases hsend : t.act .send with
    | some t' => exact ⟨.task i .send, _, rfl, rfl, act_task_eq_some ht hsend⟩
    | none =>
      have hblocked : t.IsBlocked := ⟨id, hchecker, hsend⟩
      have hcancelled := hkept.isCancelled ht (hstage ▸ nofun)
      obtain ⟨t', hleave⟩ := hblocked.run_leave hcancelled
      obtain ⟨closed, hleave, -⟩ := Runs.run_cons.mp hleave
      exact ⟨.task i .leave, _, rfl, rfl, act_task_eq_some ht hleave⟩

/-- **While a call is under way, something brings it on** that is neither a call nor a finding. -/
theorem Kept.exists_act (hkept : st.Kept past) (hbusy : st.stage.isBusy = true) :
    ∃ a st', a.isCall = false ∧ a.finds = 0 ∧ st.act a = some st' := by
  cases hstage : st.stage with
  | idle | serving =>
    rw [hstage] at hbusy
    cases hbusy
  | starting => exact ⟨.startFailed, _, rfl, rfl, by unfold State.act; rw [hstage]⟩
  | awaitingServer again => exact ⟨.serverAwaited, _, rfl, rfl, by unfold State.act; rw [hstage]⟩
  | awaitingRelay again => exact ⟨.relayAwaited, _, rfl, rfl, by unfold State.act; rw [hstage]⟩
  | clearing again => exact ⟨.cleared true, _, rfl, rfl, by unfold State.act; rw [hstage]⟩
  | awaitingChecker again => exact hkept.exists_act_of_awaitingChecker hstage

/-! ## The hand-over as a whole -/

/-- **All sessions but the latest are over**, so that one checker at most has not returned. -/
theorem Kept.countP_le_one (hkept : st.Kept past) :
    st.sessions.countP (·.checker ≠ .returned) ≤ 1 := by
  rcases List.eq_nil_or_concat' st.sessions with hnil | ⟨earlier, t, hsessions⟩
  · rw [hnil]
    exact Nat.zero_le 1
  · have hearlier : earlier.countP (·.checker ≠ .returned) = 0 := by
      refine List.countP_eq_zero.mpr fun u hu => ?_
      obtain ⟨i, hlt, rfl⟩ := List.getElem_of_mem hu
      have hmember : st.sessions[i]? = some earlier[i] := by
        rw [hsessions, List.getElem?_append_left hlt, List.getElem?_eq_getElem hlt]
      have hbefore : i + 1 < st.sessions.length := by
        rw [hsessions, List.length_append]
        exact Nat.succ_lt_succ hlt
      simpa using (hkept.earlier hmember hbefore).returned
    rw [hsessions, List.countP_append, hearlier, Nat.zero_add]
    exact List.countP_le_length

/-- No checker goes on between two sessions. -/
theorem Kept.returned (hkept : st.Kept past) (hstage : st.stage = .idle ∨ st.stage = .starting)
    (ht : t ∈ st.sessions) : t.checker = .returned := by
  obtain ⟨i, ht⟩ := List.getElem?_of_mem ht
  have hlt := (List.getElem?_eq_some_iff.mp ht).1
  rcases Nat.lt_or_eq_of_le (Nat.succ_le_of_lt hlt) with hlt | hlast
  · exact (hkept.earlier ht hlt).returned
  · have hallows := hkept.latest ht hlast
    rcases hstage with hstage | hstage
    · rw [hstage] at hallows
      exact hallows.returned
    · rw [hstage] at hallows
      exact hallows.returned

end State

/-- **One checker at a time, and nobody stuck.** -/
structure HandedOver (actions : List Action) (st : State) : Prop where
  /-- There is one session for each start that has succeeded. -/
  begun : st.sessions.map Tasks.replicas = begun actions
  /-- What a checker finds comes to the snapshot of its own session alone, in order. -/
  faithful : ∀ i (t : Tasks), st.sessions[i]? = some t → t.Faithful (found i actions)
  /-- One checker at most has not returned. -/
  alone : st.sessions.countP (·.checker ≠ .returned) ≤ 1
  /-- None goes on while the plugin is at rest, or is about to begin a session. -/
  rested : st.stage = .idle ∨ st.stage = .starting → ∀ t ∈ st.sessions, t.checker = .returned
  /-- A checker that is blocked has a relay that goes on and can make a place for it.  In a stop the
  relay can end as well, and the checker then goes on without it. -/
  relieved : ∀ i (t : Tasks), st.sessions[i]? = some t → t.IsBlocked → t.isRelaying = true ∧
    (∃ st', st.run [.task i .receive, .task i .send] = some st') ∧
    (st.stage ≠ .serving → ∃ st', st.run [.task i .leave, .task i .send] = some st')
  /-- However all of this is interleaved from here on, only so much can happen that is neither a
  call nor follows from a finding, and until no call is under way some of it still can. -/
  ends : ∀ more st', st.run more = some st' → (∀ a ∈ more, a.isCall = false) →
    more.length ≤ st.weight + 3 * (more.map Action.finds).sum ∧
    (st'.stage.isBusy = true →
      ∃ a st'', a.isCall = false ∧ a.finds = 0 ∧ st'.act a = some st'')

/-- **Every run hands over**: checkers run one at a time, their reports stay in order and with their
session, and no call waits for ever unless a checker finds things for ever. -/
theorem handedOver_of_run {actions : List Action} {st : State}
    (hrun : State.run {} actions = some st) : HandedOver actions st := by
  have hkept := State.kept_of_run hrun
  refine {
    begun := hkept.begun
    faithful := fun i t => hkept.faithful
    alone := hkept.countP_le_one
    rested := fun hstage t => hkept.returned hstage
    relieved := fun i t ht hblocked => ?_
    ends := fun more st' hmore hcalls => ?_ }
  · obtain ⟨t', hreceive⟩ := hblocked.run_receive (hkept.faithful ht)
    obtain ⟨st', hrun, -⟩ := State.exists_run_tasks ht hreceive
    refine ⟨hblocked.isRelaying.1, ⟨st', hrun⟩, fun hserving => ?_⟩
    obtain ⟨t', hleave⟩ := hblocked.run_leave (hkept.isCancelled ht hserving)
    obtain ⟨st', hrun, -⟩ := State.exists_run_tasks ht hleave
    exact ⟨st', hrun⟩
  · have hweight := State.weight_of_run hmore hcalls
    have hkept' := State.kept_of_run (Runs.run_append.mpr ⟨st, hrun, hmore⟩)
    exact ⟨by omega, hkept'.exists_act⟩

/-- A checker that is blocked in a restart goes on once the relay has ended, and only then the next
session begins. -/
theorem handedOver_of_full_queue :
    let a : Device := ⟨"GPU-a::0", "0", 4000, [], .healthy⟩
    let fill : List Action := List.replicate Tasks.places [.task 0 (.find "GPU-a"), .task 0 .send]
      |>.flatten
    let stuck : List Action := [.start, .started [a]] ++ fill ++
      [.task 0 (.find "GPU-b"), .start, .serverAwaited, .relayAwaited]
    let more : List Action := [.task 0 .receive, .task 0 .send, .task 0 .leave, .task 0 .giveUp,
      .checkerAwaited, .cleared true, .started [a]]
    ∃ st t st', State.run {} stuck = some st ∧ st.stage = .awaitingChecker true ∧
      st.sessions = [t] ∧ t.IsBlocked ∧ HandedOver stuck st ∧
      st.run more = some st' ∧ st'.stage = .serving ∧ HandedOver (stuck ++ more) st' := by
  intro a fill stuck more
  let t : Tasks :=
    { replicas := [a]
      checker := .sending "GPU-b"
      queue := List.replicate Tasks.places "GPU-a"
      isCancelled := true
      sent := List.replicate Tasks.places "GPU-a" }
  let t' : Tasks :=
    { replicas := [a]
      snapshot := [a.failed]
      checker := .returned
      isRelaying := false
      isCancelled := true
      sent := List.replicate Tasks.places "GPU-a" ++ ["GPU-b"]
      applied := ["GPU-a"] }
  have hstuck : State.run {} stuck = some ⟨.awaitingChecker true, [t]⟩ := by decide +kernel
  have hmore : State.run ⟨.awaitingChecker true, [t]⟩ more
      = some ⟨.serving, [t', { replicas := [a] }]⟩ := by decide +kernel
  exact ⟨_, t, _, hstuck, rfl, rfl, ⟨"GPU-b", rfl, by decide +kernel⟩, handedOver_of_run hstuck,
    hmore, rfl, handedOver_of_run (Runs.run_append.mpr ⟨_, hstuck, hmore⟩)⟩

end GpuPlugin.HandOver
