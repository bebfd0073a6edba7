import GpuPlugin.HandOver
import GpuPlugin.Proofs.Runs
import GpuPlugin.Proofs.Session.Health

/-!
# Proofs/HandOver/Tasks — the way of a report

A report is found by the checker, put into the queue, taken out of it by the relay and applied.
Whatever the tasks of a session do next, the reports stay in order and none is applied twice
(`Faithful`).  A checker only ever waits for a relay that has not ended (`IsBlocked.isRelaying`),
and each thing the relay can do then lets it go on (`IsBlocked.run_receive`, `IsBlocked.run_leave`).
-/

namespace GpuPlugin.HandOver

/-- What a checker has found and has not got rid of. -/
def Checker.pending : Checker → List String
  | .sending id => [id]
  | .running | .returned => []

namespace Tasks

/-- What the checker finds in an action. -/
def Action.found : Action → List String
  | .find id => [id]
  | .send | .giveUp | .receive | .leave => []

variable {t t' : Tasks} {a : Action} {found : List String}

/-! ## What the tasks can do -/

/-- **What an action can be.** -/
inductive Effect (t : Tasks) : Action → Tasks → Prop where
  | found (id : String) (hrunning : t.checker = .running) :
    Effect t (.find id) { t with checker := .sending id }
  | put {id : String} (hsending : t.checker = .sending id) (hrelaying : t.isRelaying = true)
    (hplace : t.queue.length < places) :
    Effect t .send
      { t with checker := .running, queue := t.queue ++ [id], sent := t.sent ++ [id] }
  | dropped {id : String} (hsending : t.checker = .sending id) (hclosed : t.isRelaying = false) :
    Effect t .send { t with checker := .running }
  | returned (hrunning : t.checker = .running) : Effect t .giveUp { t with checker := .returned }
  | applied {id : String} {queue : List String} (hrelaying : t.isRelaying = true)
    (hqueue : t.queue = id :: queue) :
    Effect t .receive { t with
      queue
      snapshot := Session.reported id t.snapshot
      applied := t.applied ++ [id] }
  | ended (hrelaying : t.isRelaying = true)
    (hfree : t.isCancelled = true ∨ (t.checker = .returned ∧ t.queue = [])) :
    Effect t .leave { t with isRelaying := false, queue := [] }

theorem effect_of_send {id : String} (hsending : t.checker = .sending id)
    (hsend : t.send id = some t') : t.Effect .send t' := by
  rw [send] at hsend
  split_ifs at hsend with hrelaying hplace
  · obtain rfl := Option.some.inj hsend
    exact .put hsending hrelaying hplace
  · obtain rfl := Option.some.inj hsend
    exact .dropped hsending (Bool.eq_false_iff.mpr hrelaying)

theorem effect_of_receive (hreceive : t.receive = some t') : t.Effect .receive t' := by
  rw [receive] at hreceive
  split at hreceive
  next id queue hrelaying hqueue =>
    obtain rfl := Option.some.inj hreceive
    exact .applied hrelaying hqueue
  next => cases hreceive

theorem effect_of_leave (hleave : t.leave = some t') : t.Effect .leave t' := by
  rw [leave] at hleave
  split_ifs at hleave with hfree
  obtain rfl := Option.some.inj hleave
  exact .ended hfree.1 hfree.2

theorem effect_of_act (hact : t.act a = some t') : t.Effect a t' := by
  unfold act at hact
  split at hact
  next id hrunning =>
    obtain rfl := Option.some.inj hact
    exact .found id hrunning
  next id hsending => exact effect_of_send hsending hact
  next hrunning =>
    obtain rfl := Option.some.inj hact
    exact .returned hrunning
  next => exact effect_of_receive hact
  next => exact effect_of_leave hact
  next => cases hact

/-! ## Reports in order -/

/-- **The reports of a session come to its snapshot in the order in which they were found**, each at
most once. -/
structure Faithful (t : Tasks) (found : List String) : Prop where
  /-- The snapshot is that of any session which has taken in what was applied. -/
  snapshot : ∀ s : Session, s.snapshot = t.replicas → (s.after t.applied).snapshot = t.snapshot
  applied : t.applied <+: t.sent
  sent : t.sent <+: found
  /-- While the relay goes on, what has been found is applied, queued or about to be queued. -/
  relaying : t.isRelaying = true →
    t.sent = t.applied ++ t.queue ∧ found = t.sent ++ t.checker.pending
  room : t.queue.length ≤ places
  closed : t.isRelaying = false → t.queue = []

theorem faithful_begin (replicas : List Device) : Faithful { replicas } [] where
  snapshot _ hs := hs
  applied := List.prefix_rfl
  sent := List.prefix_rfl
  relaying _ := ⟨rfl, rfl⟩
  room := Nat.zero_le places
  closed _ := rfl

theorem Faithful.cancel (hfaithful : t.Faithful found) :
    Faithful { t with isCancelled := true } found :=
  { hfaithful with }

theorem Faithful.put {id : String} (hfaithful : t.Faithful found)
    (hsending : t.checker = .sending id) (hrelaying : t.isRelaying = true)
    (hplace : t.queue.length < places) :
    Faithful { t with checker := .running, queue := t.queue ++ [id], sent := t.sent ++ [id] }
      found where
  snapshot := hfaithful.snapshot
  applied := hfaithful.applied.trans (List.prefix_append _ _)
  sent := by
    have hfound := (hfaithful.relaying hrelaying).2
    rw [hsending] at hfound
    rw [hfound]
    exact List.prefix_rfl
  relaying _ := by
    obtain ⟨hsent, hfound⟩ := hfaithful.relaying hrelaying
    rw [hsending] at hfound
    refine ⟨?_, ?_⟩
    · rw [hsent, List.append_assoc]
    · rw [hfound]
      exact (List.append_nil _).symm
  room := by
    rw [List.length_append]
    exact hplace
  closed hclosed := by
    rw [hrelaying] at hclosed
    cases hclosed

theorem Faithful.apply {id : String} {queue : List String} (hfaithful : t.Faithful found)
    (hrelaying : t.isRelaying = true) (hqueue : t.queue = id :: queue) :
    Faithful { t with
      queue
      snapshot := Session.reported id t.snapshot
      applied := t.applied ++ [id] } found where
  snapshot s hs := by
    rw [Session.after, List.foldl_append]
    exact congrArg (Session.reported id) (hfaithful.snapshot s hs)
  applied := by
    obtain ⟨hsent, -⟩ := hfaithful.relaying hrelaying
    rw [hsent, hqueue, List.append_cons]
    exact List.prefix_append _ _
  sent := hfaithful.sent
  relaying _ := by
    obtain ⟨hsent, hfound⟩ := hfaithful.relaying hrelaying
    rw [hqueue, List.append_cons] at hsent
    exact ⟨hsent, hfound⟩
  room := by
    have hroom := hfaithful.room
    rw [hqueue] at hroom
    exact Nat.le_of_succ_le hroom
  closed hclosed := by
    rw [hrelaying] at hclosed
    cases hclosed

/-- **Whatever the tasks do, reports stay in order.** -/
theorem Faithful.act (hfaithful : t.Faithful found) (hact : t.act a = some t') :
    t'.Faithful (found ++ a.found) := by
  cases effect_of_act hact with
  | found id hrunning =>
    refine { hfaithful with
      sent := hfaithful.sent.trans (List.prefix_append _ _), relaying := fun hrelaying => ?_ }
    obtain ⟨hsent, hfound⟩ := hfaithful.relaying hrelaying
    rw [hrunning, Checker.pending, List.append_nil] at hfound
    exact ⟨hsent, by rw [hfound]; rfl⟩
  | put hsending hrelaying hplace =>
    rw [Action.found, List.append_nil]
    exact hfaithful.put hsending hrelaying hplace
  | dropped hsending hclosed =>
    rw [Action.found, List.append_nil]
    refine { hfaithful with relaying := fun hrelaying => ?_ }
    rw [hclosed] at hrelaying
    cases hrelaying
  | returned hrunning =>
    rw [Action.found, List.append_nil]
    refine { hfaithful with relaying := fun hrelaying => ?_ }
    have hsent := hfaithful.relaying hrelaying
    rwa [hrunning] at hsent
  | applied hrelaying hqueue =>
    rw [Action.found, List.append_nil]
    exact hfaithful.apply hrelaying hqueue
  | ended hrelaying hfree =>
    rw [Action.found, List.append_nil]
    exact { hfaithful with
      relaying := nofun
      room := Nat.zero_le places
      closed := fun _ => rfl }

/-! ## Sessions that are over -/

/-- A session **is over** once it is cancelled and its checker has returned. -/
structure IsOver (t : Tasks) : Prop where
  cancelled : t.isCancelled = true
  returned : t.checker = .returned

theorem replicas_act (hact : t.act a = some t') : t'.replicas = t.replicas := by
  cases effect_of_act hact <;> rfl

theorem isCancelled_act (hact : t.act a = some t') : t'.isCancelled = t.isCancelled := by
  cases effect_of_act hact <;> rfl

/-- **A checker that has returned does not come back.** -/
theorem IsOver.act (hover : t.IsOver) (hact : t.act a = some t') : t'.IsOver := by
  refine ⟨(isCancelled_act hact).trans hover.cancelled, ?_⟩
  cases effect_of_act hact with
  | found id hrunning => exact absurd (hrunning.symm.trans hover.returned) nofun
  | put hsending => exact absurd (hsending.symm.trans hover.returned) nofun
  | dropped hsending => exact absurd (hsending.symm.trans hover.returned) nofun
  | returned => rfl
  | applied | ended => exact hover.returned

/-! ## Checkers that wait -/

/-- A checker **is blocked** if it cannot get rid of its report. -/
def IsBlocked (t : Tasks) : Prop := ∃ id, t.checker = .sending id ∧ t.act .send = none

theorem act_send {id : String} (hsending : t.checker = .sending id) : t.act .send = t.send id := by
  unfold act
  rw [hsending]

theorem act_giveUp (hrunning : t.checker = .running) :
    t.act .giveUp = some { t with checker := .returned } := by
  unfold act
  rw [hrunning]

theorem act_leave (t : Tasks) : t.act .leave = t.leave := by
  unfold act
  cases t.checker <;> rfl

theorem act_receive (t : Tasks) : t.act .receive = t.receive := by
  unfold act
  cases t.checker <;> rfl

theorem act_receive_eq_some {id : String} {queue : List String} (hrelaying : t.isRelaying = true)
    (hqueue : t.queue = id :: queue) :
    t.act .receive = some { t with
      queue
      snapshot := Session.reported id t.snapshot
      applied := t.applied ++ [id] } := by
  rw [act_receive, receive, hrelaying, hqueue]

/-- **Nobody waits for a relay that has ended**, nor while there is a place. -/
theorem IsBlocked.isRelaying (hblocked : t.IsBlocked) :
    t.isRelaying = true ∧ places ≤ t.queue.length := by
  obtain ⟨id, hsending, hsend⟩ := hblocked
  rw [act_send hsending, send] at hsend
  split_ifs at hsend with hrelaying hplace
  exact ⟨hrelaying, Nat.le_of_not_lt hplace⟩

/-- **A checker can go on** if what it has found goes into the queue or is dropped. -/
theorem exists_act_send {id : String} (hsending : t.checker = .sending id)
    (hfree : t.isRelaying = true → t.queue.length < places) : ∃ t', t.act .send = some t' := by
  rw [act_send hsending, send]
  split_ifs with hrelaying hplace
  · exact ⟨_, rfl⟩
  · exact absurd (hfree hrelaying) hplace
  · exact ⟨_, rfl⟩

/-- **The relay can make a place** for a checker that is blocked. -/
theorem IsBlocked.run_receive (hblocked : t.IsBlocked) (hfaithful : t.Faithful found) :
    ∃ t', [Action.receive, .send].foldlM act t = some t' := by
  obtain ⟨hrelaying, hfull⟩ := hblocked.isRelaying
  obtain ⟨id, hsending, -⟩ := hblocked
  cases hqueue : t.queue with
  | nil =>
    rw [hqueue] at hfull
    cases hfull
  | cons first queue =>
    have hplace : queue.length < places := by
      have hroom := hfaithful.room
      rwa [hqueue] at hroom
    let lighter : Tasks := { t with
      queue
      snapshot := Session.reported first t.snapshot
      applied := t.applied ++ [first] }
    have hreceive : t.act .receive = some lighter := act_receive_eq_some hrelaying hqueue
    obtain ⟨t', hsend⟩ : ∃ t', lighter.act .send = some t' :=
      exists_act_send hsending fun _ => hplace
    exact ⟨t', Runs.run_cons.mpr ⟨lighter, hreceive, Runs.run_cons.mpr ⟨t', hsend, rfl⟩⟩⟩

/-- **The relay can end** if it is cancelled, and the checker then goes on without it. -/
theorem IsBlocked.run_leave (hblocked : t.IsBlocked) (hcancelled : t.isCancelled = true) :
    ∃ t', [Action.leave, .send].foldlM act t = some t' := by
  obtain ⟨hrelaying, -⟩ := hblocked.isRelaying
  obtain ⟨id, hsending, -⟩ := hblocked
  let closed : Tasks := { t with isRelaying := false, queue := [] }
  have hleave : t.act .leave = some closed := by
    rw [act_leave, leave, if_pos ⟨hrelaying, .inl hcancelled⟩]
  obtain ⟨t', hsend⟩ : ∃ t', closed.act .send = some t' := exists_act_send hsending nofun
  exact ⟨t', Runs.run_cons.mpr ⟨closed, hleave, Runs.run_cons.mpr ⟨t', hsend, rfl⟩⟩⟩

end Tasks

end GpuPlugin.HandOver
