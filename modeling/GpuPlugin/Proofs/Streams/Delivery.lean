import GpuPlugin.Proofs.Runs
import GpuPlugin.Proofs.Streams.Task

/-!
# Proofs/Streams/Delivery — no health change is lost

Sessions begin and end, streams are opened and left, reports come in and tasks take their steps, in
any order.  Each of these keeps every stream tied to the publication of its own session, so a stream
sends some of the snapshots of its session in their order, comes to rest on the current one only,
and sends no more than what is under way once its session is over (`no_change_lost`).
-/

namespace GpuPlugin.Streams

/-! ## Sessions and streams together -/

namespace State

variable {st st' : State} {i : Nat}

theorem exists_of_updateStream {f : Stream → Option Stream} (h : st.updateStream i f = some st') :
    ∃ s s', st.streams[i]? = some s ∧ f s = some s' ∧
      st' = { st with streams := st.streams.set i s' } := by
  obtain ⟨s, hs, h⟩ := Option.bind_eq_some_iff.mp h
  obtain ⟨s', hs', h⟩ := Option.bind_eq_some_iff.mp h
  exact ⟨s, s', hs, hs', (Option.some.inj h).symm⟩

/-- **What an action can be.** -/
inductive Effect (st : State) : State → Prop where
  | began (replicas : List Device) :
    Effect st { st with sessions := st.sessions ++ [{ current := replicas }] }
  | opened {i : Nat} {p : Publication} (hp : st.sessions[i]? = some p) :
    Effect st { st with streams := st.streams ++ [.new i p] }
  | published {i : Nat} {p p' : Publication} (hp : st.sessions[i]? = some p)
    (hle : p.Precedes p') (hworse : p.Worsening → p'.Worsening) :
    Effect st { st with sessions := st.sessions.set i p' }
  | left {i : Nat} {s : Stream} (hs : st.streams[i]? = some s) :
    Effect st { st with streams := st.streams.set i { s with isGone := true } }
  | stepped {i : Nat} {s s' : Stream} {p : Publication} (hs : st.streams[i]? = some s)
    (hp : st.sessions[s.session]? = some p) (hstep : s.step p = some s') :
    Effect st { st with streams := st.streams.set i s' }

theorem effect_of_act {a : Action} (hact : st.act a = some st') : st.Effect st' := by
  cases a with
  | start replicas =>
    obtain rfl := Option.some.inj hact
    exact .began replicas
  | watch i =>
    obtain ⟨p, hp, rfl⟩ := Option.map_eq_some_iff.mp hact
    exact .opened hp
  | report i id =>
    obtain ⟨p, hp, rfl⟩ := Option.map_eq_some_iff.mp hact
    exact .published hp (p.precedes_report id) fun hworse => hworse.report id
  | finish i =>
    obtain ⟨p, hp, rfl⟩ := Option.map_eq_some_iff.mp hact
    exact .published hp p.precedes_finish id
  | leave i =>
    obtain ⟨s, s', hs, hleft, rfl⟩ := exists_of_updateStream hact
    obtain rfl := Option.some.inj hleft
    exact .left hs
  | step i =>
    obtain ⟨s, s', hs, hstep, rfl⟩ := exists_of_updateStream hact
    obtain ⟨p, hp, hstep⟩ := Option.bind_eq_some_iff.mp hstep
    exact .stepped hs hp hstep

/-- **What holds of all sessions and streams.** -/
structure Kept (st : State) : Prop where
  sessions : ∀ p ∈ st.sessions, p.Worsening
  streams : ∀ s ∈ st.streams, ∃ p, st.sessions[s.session]? = some p ∧ s.Kept p

theorem kept_nil : Kept {} := ⟨by simp, by simp⟩

/-- What becomes of sessions and streams. -/
structure Precedes (st st' : State) : Prop where
  sessions : ∀ {i : Nat} {p}, st.sessions[i]? = some p →
    ∃ p', st'.sessions[i]? = some p' ∧ p.Precedes p'
  streams : ∀ {i : Nat} {s}, st.streams[i]? = some s →
    ∃ s', st'.streams[i]? = some s' ∧ s.Precedes s' ∧
      ∀ p, st.sessions[s.session]? = some p → p.isOver = true → s'.total ≤ s.total

theorem Precedes.refl (st : State) : st.Precedes st where
  sessions hp := ⟨_, hp, .refl _⟩
  streams hs := ⟨_, hs, .refl _, fun _ _ _ => Nat.le_refl _⟩

theorem Precedes.trans {st'' : State} (h : st.Precedes st') (h' : st'.Precedes st'') :
    st.Precedes st'' where
  sessions hp := by
    obtain ⟨p', hp', hle⟩ := h.sessions hp
    obtain ⟨p'', hp'', hle'⟩ := h'.sessions hp'
    exact ⟨p'', hp'', hle.trans hle'⟩
  streams hs := by
    obtain ⟨s', hs', hle, htotal⟩ := h.streams hs
    obtain ⟨s'', hs'', hle', htotal'⟩ := h'.streams hs'
    refine ⟨s'', hs'', hle.trans hle', fun p hp hover => ?_⟩
    -- A session that is over is still over in between.
    obtain ⟨p', hp', hpp'⟩ := h.sessions hp
    rw [← hle.session] at hp'
    exact Nat.le_trans (htotal' p' hp' (hpp'.isOver hover)) (htotal p hp hover)

/-- A change of the sessions alone. -/
theorem Precedes.of_sessions {sessions : List Publication}
    (h : ∀ {i : Nat} {p}, st.sessions[i]? = some p → ∃ p', sessions[i]? = some p' ∧ p.Precedes p') :
    st.Precedes { st with sessions } :=
  { Precedes.refl st with sessions := h }

/-- A change of one stream. -/
theorem Precedes.of_set {s s' : Stream} (hs : st.streams[i]? = some s) (hle : s.Precedes s')
    (htotal : ∀ p, st.sessions[s.session]? = some p → p.isOver = true → s'.total ≤ s.total) :
    st.Precedes { st with streams := st.streams.set i s' } where
  sessions hp := ⟨_, hp, .refl _⟩
  streams {j t} ht := by
    rcases eq_or_ne i j with rfl | hne
    · obtain rfl := Option.some.inj (hs.symm.trans ht)
      exact ⟨s', List.getElem?_set_self (List.getElem?_eq_some_iff.mp ht).1, hle, htotal⟩
    · exact ⟨t, (List.getElem?_set_ne hne).trans ht, .refl t, fun _ _ _ => Nat.le_refl _⟩

theorem Effect.precedes (heffect : st.Effect st') : st.Precedes st' := by
  cases heffect with
  | began replicas =>
    refine .of_sessions fun hp => ⟨_, ?_, .refl _⟩
    exact List.getElem?_append_left (List.getElem?_eq_some_iff.mp hp).1 ▸ hp
  | @opened i p hp =>
    refine { Precedes.refl st with
      streams := fun hs => ⟨_, ?_, .refl _, fun _ _ _ => Nat.le_refl _⟩ }
    exact List.getElem?_append_left (List.getElem?_eq_some_iff.mp hs).1 ▸ hs
  | @published i p p' hp hle hworse =>
    refine .of_sessions fun {j q} hq => ?_
    rcases eq_or_ne i j with rfl | hne
    · obtain rfl := Option.some.inj (hp.symm.trans hq)
      exact ⟨p', List.getElem?_set_self (List.getElem?_eq_some_iff.mp hp).1, hle⟩
    · exact ⟨q, (List.getElem?_set_ne hne).trans hq, .refl q⟩
  | left hs => exact .of_set hs ⟨rfl, rfl, List.prefix_rfl⟩ fun _ _ _ => Nat.le_refl _
  | stepped hs hp hstep =>
    refine .of_set hs (Stream.precedes_of_step hstep) fun q hq hover => ?_
    obtain rfl := Option.some.inj (hp.symm.trans hq)
    exact Stream.total_le_of_step hover hstep

theorem Effect.kept (heffect : st.Effect st') (hkept : st.Kept) : st'.Kept := by
  have hle := heffect.precedes
  -- Streams that are left alone stay tied to what their sessions have published.
  have hold : ∀ s ∈ st.streams, ∃ p, st'.sessions[s.session]? = some p ∧ s.Kept p := by
    intro s hs
    obtain ⟨p, hp, hkept⟩ := hkept.streams s hs
    obtain ⟨p', hp', hpp'⟩ := hle.sessions hp
    exact ⟨p', hp', hkept.of_precedes hpp'⟩
  cases heffect with
  | began replicas =>
    refine ⟨?_, hold⟩
    intro p hp
    rcases List.mem_append.mp hp with hp | hp
    · exact hkept.sessions p hp
    · obtain rfl := List.mem_singleton.mp hp
      exact Publication.worsening_begin replicas
  | @opened i p hp =>
    refine ⟨hkept.sessions, ?_⟩
    intro s hs
    rcases List.mem_append.mp hs with hs | hs
    · exact hold s hs
    · obtain rfl := List.mem_singleton.mp hs
      exact ⟨p, hp, Stream.kept_new i p⟩
  | @published i p p' hp _ hworse =>
    refine ⟨?_, hold⟩
    intro q hq
    rcases List.mem_or_eq_of_mem_set hq with hq | rfl
    · exact hkept.sessions q hq
    · exact hworse (hkept.sessions p (List.mem_of_getElem? hp))
  | @left i s hs =>
    refine ⟨hkept.sessions, ?_⟩
    intro t ht
    rcases List.mem_or_eq_of_mem_set ht with ht | rfl
    · exact hold t ht
    · obtain ⟨p, hp, hs⟩ := hkept.streams s (List.mem_of_getElem? hs)
      exact ⟨p, hp, hs.leave⟩
  | @stepped i s s' p hs hp hstep =>
    refine ⟨hkept.sessions, ?_⟩
    intro t ht
    rcases List.mem_or_eq_of_mem_set ht with ht | rfl
    · exact hold t ht
    · obtain ⟨q, hq, hs⟩ := hkept.streams s (List.mem_of_getElem? hs)
      obtain rfl := Option.some.inj (hp.symm.trans hq)
      exact ⟨p, (Stream.precedes_of_step hstep).session ▸ hp, hs.step hstep⟩

/-- **Every run keeps what holds of sessions and streams.** -/
theorem Kept.run {actions : List Action} (hkept : st.Kept) (hrun : st.run actions = some st') :
    st'.Kept :=
  Runs.kept_of_run (fun hkept hact => (effect_of_act hact).kept hkept) hrun hkept

theorem precedes_of_run {actions : List Action} (hrun : st.run actions = some st') :
    st.Precedes st' :=
  Runs.kept_of_run (fun hle hact => hle.trans (effect_of_act hact).precedes) hrun (.refl st)

end State

/-- **No health change is lost.**  In every run each stream belongs to one session and is faithful
to what that session has published.  Whatever happens later, it stays with its session and goes on
from what it has sent; once the session is over it only sends what it owes, and then it has nothing
left but to end. -/
theorem no_change_lost {actions : List Action} {st : State} (hrun : State.run {} actions = some st)
    {i : Nat} {s : Stream} (hs : st.streams[i]? = some s) :
    ∃ p, st.sessions[s.session]? = some p ∧ s.Faithful p ∧
      ∀ more st', st.run more = some st' →
        ∃ s' p', st'.streams[i]? = some s' ∧ s.Precedes s' ∧
          st'.sessions[s.session]? = some p' ∧ p.Precedes p' ∧ s'.Faithful p' ∧
          (p.isOver = true → s'.total ≤ s.total ∧
            (s'.phase.owed = 0 → s'.step p' =
              if s'.phase = .ended then none else some { s' with phase := .ended })) := by
  have hkept := State.kept_nil.run hrun
  obtain ⟨p, hp, hsp⟩ := hkept.streams s (List.mem_of_getElem? hs)
  refine ⟨p, hp, hsp.faithful (hkept.sessions p (List.mem_of_getElem? hp)), ?_⟩
  intro more st' hmore
  have hkept' := hkept.run hmore
  have hle := State.precedes_of_run hmore
  obtain ⟨s', hs', hss', htotal⟩ := hle.streams hs
  obtain ⟨p', hp', hpp'⟩ := hle.sessions hp
  obtain ⟨q, hq, hs'q⟩ := hkept'.streams s' (List.mem_of_getElem? hs')
  rw [hss'.session, hp'] at hq
  obtain rfl := Option.some.inj hq
  have hfaithful := hs'q.faithful (hkept'.sessions p' (List.mem_of_getElem? hp'))
  refine ⟨s', p', hs', hss', hp', hpp', hfaithful, fun hover => ⟨htotal p hp hover, ?_⟩⟩
  exact Stream.step_of_owed_eq_zero (hpp'.isOver hover)

/-- Two reports that come while a stream sends are one message, and the end of the session then
leaves it the message under way. -/
theorem no_change_lost_of_two_reports :
    let a : Device := ⟨"GPU-a::0", "0", 4000, [], .healthy⟩
    let b : Device := ⟨"GPU-b::0", "1", 4000, [], .healthy⟩
    let early : List Action :=
      [.start [a, b], .watch 0, .step 0, .report 0 "GPU-a", .report 0 "GPU-b", .step 0, .step 0,
        .step 0, .finish 0]
    ∃ st s, State.run {} early = some st ∧ st.streams[0]? = some s ∧ s.sent = [[a, b]] ∧
      ∃ st' s', st.run [.step 0, .step 0] = some st' ∧ st'.streams[0]? = some s' ∧
        s'.sent = [[a, b], [a.failed, b.failed]] ∧ s'.total ≤ s.total := by
  intro a b early
  let p : Publication := ⟨[a.failed, b.failed], [[a.failed, b], [a, b]], true⟩
  let s : Stream := ⟨0, 0, 2, .sending p.current, false, [[a, b]]⟩
  let s' : Stream := ⟨0, 0, 2, .ended, false, [[a, b], p.current]⟩
  have hearly : State.run {} early = some ⟨[p], [s]⟩ := by decide
  have hlate : State.run ⟨[p], [s]⟩ [.step 0, .step 0] = some ⟨[p], [s']⟩ := by decide
  obtain ⟨q, hq, -, hlater⟩ := no_change_lost hearly (i := 0) (s := s) rfl
  obtain rfl : p = q := Option.some.inj hq
  obtain ⟨t, p', ht, -, -, -, -, hover⟩ := hlater _ _ hlate
  obtain rfl : s' = t := Option.some.inj ht
  exact ⟨_, s, hearly, rfl, rfl, _, s', hlate, rfl, rfl, (hover rfl).1⟩

end GpuPlugin.Streams
