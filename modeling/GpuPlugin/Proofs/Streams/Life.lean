import GpuPlugin.Proofs.Plugin.Lifecycle
import GpuPlugin.Proofs.Streams.Delivery

/-!
# Proofs/Streams/Life — a plugin's life is a run of its streams

A plugin shows every stream at once what its session advertises, and forgets its streams with the
session.  That is what remains when all tasks go on by themselves after every event: those of the
session come to wait for news (`State.mirrors_report`), and when the session is over they end
(`State.mirrors_withoutSession`).  So a life is one of the interleavings of sessions and streams,
and every stream that is left in it has sent what is advertised (`watched_run`).
-/

namespace GpuPlugin.Streams

/-! ## Tasks that go on by themselves -/

namespace Stream

variable {s s' : Stream} {p : Publication}

theorem Reaches.precedes (hreach : Reaches p s s') : s.Precedes s' := by
  induction hreach with
  | refl => exact .refl s
  | tail _ hstep ih => exact ih.trans (precedes_of_step hstep)

theorem isGone_of_step (hstep : s.step p = some s') : s'.isGone = s.isGone := by
  rcases step_cases hstep with ⟨-, rfl⟩ | ⟨snapshot, -, rfl⟩ | ⟨-, rfl⟩ | ⟨-, -, -, rfl⟩ <;> rfl

/-- No task makes its own client go away. -/
theorem Reaches.isGone (hreach : Reaches p s s') : s'.isGone = s.isGone := by
  induction hreach with
  | refl => rfl
  | tail _ hstep ih => exact (isGone_of_step hstep).trans ih

/-- The task of a stream is **at rest**: it has ended, or it waits for news of a session. -/
def AtRest (s : Stream) (session : Nat) (p : Publication) : Prop :=
  s.phase = .ended ∨ s.session = session ∧ s.isGone = false ∧ s.IsIdle p

theorem atRest_of_settles (hthere : s.isGone = false) (hsettles : s.Settles p) :
    ∃ s', Reaches p s s' ∧ s'.phase = .waiting ∧ s'.session = s.session ∧
      s'.AtRest s.session p := by
  obtain ⟨s', hreach, hidle, -⟩ := hsettles
  have hsession := hreach.precedes.session
  exact ⟨s', hreach, hidle.1, hsession, .inr ⟨hsession, hreach.isGone.trans hthere, hidle⟩⟩

end Stream

namespace State

variable {st st' : State} {p p' : Plugin} {t t' : Stream} {q : Publication} {i : Nat}

/-- Whether a state can come to be another. -/
abbrev ComesTo (st st' : State) : Prop := Runs.ComesTo act st st'

/-- What the task of a stream does by itself happens in a run. -/
theorem comesTo_set (st : State) (ht : st.streams[i]? = some t)
    (hq : st.sessions[t.session]? = some q) (hreach : Stream.Reaches q t t') :
    st.ComesTo { st with streams := st.streams.set i t' } := by
  induction hreach with
  | refl =>
    obtain ⟨hlt, rfl⟩ := List.getElem?_eq_some_iff.mp ht
    rw [List.set_getElem_self]
    exact .refl st
  | @tail u u' hreach hstep ih =>
    have hlt : i < st.streams.length := (List.getElem?_eq_some_iff.mp ht).1
    have hsession : u.session = t.session := (Stream.Reaches.precedes hreach).session
    have hu : (st.streams.set i u)[i]? = some u := List.getElem?_set_self hlt
    have hact : State.act { st with streams := st.streams.set i u } (.step i)
        = some { st with streams := st.streams.set i u' } := by
      simp [act, updateStream, hu, hsession, hq, hstep]
    exact ih.trans (.of_act hact)

/-- **All tasks go on in turn**, each by itself. -/
theorem exists_comesTo {P : Stream → Stream → Prop} (sessions : List Publication)
    (done tasks : List Stream)
    (h : ∀ t ∈ tasks, ∃ t', P t t' ∧
      (t' = t ∨ ∃ q, sessions[t.session]? = some q ∧ Stream.Reaches q t t')) :
    ∃ tasks', ComesTo ⟨sessions, done ++ tasks⟩ ⟨sessions, done ++ tasks'⟩ ∧
      List.Forall₂ P tasks tasks' := by
  induction tasks generalizing done with
  | nil => exact ⟨[], .refl _, .nil⟩
  | cons t tasks ih =>
    obtain ⟨hnow, hlater⟩ := List.forall_mem_cons.mp h
    obtain ⟨t', hP, hgoes⟩ := hnow
    have hfirst : ComesTo ⟨sessions, done ++ t :: tasks⟩ ⟨sessions, done ++ t' :: tasks⟩ := by
      rcases hgoes with rfl | ⟨q, hq, hreach⟩
      · exact .refl _
      · have ht : (done ++ t :: tasks)[done.length]? = some t := by simp
        have hset := comesTo_set ⟨sessions, done ++ t :: tasks⟩ ht hq hreach
        simpa using hset
    obtain ⟨tasks', hrest, hP'⟩ := ih (done ++ [t']) hlater
    rw [List.append_assoc, List.append_assoc] at hrest
    exact ⟨t' :: tasks', hfirst.trans hrest, .cons hP hP'⟩

theorem forall_of_forall₂ {Q : Stream → Prop} {tasks tasks' : List Stream}
    (h : List.Forall₂ (fun _ t' => Q t') tasks tasks') : ∀ t' ∈ tasks', Q t' := by
  induction h with
  | nil => exact List.forall_mem_nil Q
  | cons hnow _ ih => exact List.forall_mem_cons.mpr ⟨hnow, ih⟩

/-! ## A plugin and its streams -/

/-- The sessions that are watched, by their numbers: one for each stream whose task goes on. -/
def watched (st : State) : List Nat :=
  (st.streams.filter (·.phase ≠ .ended)).map (·.session + 1)

/-- **A state mirrors a plugin**: it has had the same sessions, of which only the one that is served
is not over, and the tasks of the plugin's streams wait for news of that one.  All other tasks have
ended. -/
inductive Mirrors (p : Plugin) (st : State) : Prop where
  | idle (hsession : p.session = none) (hstreams : p.streams = [])
    (hcount : st.sessions.length = p.sessions) (hover : ∀ q ∈ st.sessions, q.isOver = true)
    (hended : ∀ t ∈ st.streams, t.phase = .ended)
  | serving {s : Session} {earlier : List Publication} {q : Publication}
    (hsession : p.session = some s) (hnumber : s.number = p.sessions)
    (hstreams : p.streams = st.watched) (hcount : earlier.length + 1 = p.sessions)
    (hsessions : st.sessions = earlier ++ [q]) (hover : ∀ q ∈ earlier, q.isOver = true)
    (hlive : q.isOver = false) (hcurrent : q.current = s.snapshot)
    (hrest : ∀ t ∈ st.streams, t.AtRest earlier.length q)

theorem mirrors_begin (settings : Settings) (policy : Option Policy) :
    Mirrors { settings, policy } {} :=
  .idle rfl rfl rfl (by simp) (by simp)

theorem watched_eq_nil (hended : ∀ t ∈ st.streams, t.phase = .ended) : st.watched = [] := by
  rw [watched, List.map_eq_nil_iff, List.filter_eq_nil_iff]
  intro t ht
  simpa using hended t ht

theorem watched_congr {sessions sessions' : List Publication} {tasks tasks' : List Stream}
    (h : List.Forall₂ (fun t t' => t'.session = t.session ∧ (t'.phase = .ended ↔ t.phase = .ended))
      tasks tasks') : watched ⟨sessions', tasks'⟩ = watched ⟨sessions, tasks⟩ := by
  induction h with
  | nil => rfl
  | cons hsame _ ih =>
    obtain ⟨hsession, hended⟩ := hsame
    rw [watched, watched] at ih ⊢
    simp only [List.filter_cons, ne_eq, hended]
    split_ifs
    · rw [List.map_cons, List.map_cons, hsession]
      exact congrArg _ ih
    · exact ih

/-- The streams of a session that is served are all of that session. -/
theorem eq_of_mem_watched {earlier : List Publication}
    (hrest : ∀ t ∈ st.streams, t.AtRest earlier.length q) :
    ∀ number ∈ st.watched, number = earlier.length + 1 := by
  intro number hmem
  obtain ⟨t, ht, rfl⟩ := List.mem_map.mp hmem
  obtain ⟨ht, hgoes⟩ := List.mem_filter.mp ht
  rcases hrest t ht with hended | ⟨hsession, -⟩
  · exact absurd hended (by simpa using hgoes)
  · rw [hsession]

/-! ## What a plugin does, its streams can come to -/

/-- **A session that is over takes all its tasks with it.** -/
theorem mirrors_withoutSession (hmirrors : Mirrors p st) :
    ∃ st', st.ComesTo st' ∧ Mirrors p.withoutSession st' := by
  cases hmirrors with
  | idle hsession hstreams hcount hover hended =>
    rw [Plugin.withoutSession_of_idle (by rw [Plugin.isServing, hsession]; rfl)]
    exact ⟨st, .refl st, .idle hsession hstreams hcount hover hended⟩
  | @serving s earlier q hsession hnumber hstreams hcount hsessions hover hlive hcurrent hrest =>
    obtain ⟨sessions, tasks⟩ := st
    obtain rfl : sessions = earlier ++ [q] := hsessions
    let finished : Publication := { q with isOver := true }
    have hfinish : State.act ⟨earlier ++ [q], tasks⟩ (.finish earlier.length)
        = some ⟨earlier ++ [finished], tasks⟩ := by
      simp [act, updateSession, finished]
    -- A task that waits looks for the end of its session first.
    obtain ⟨tasks', hends, hended⟩ := exists_comesTo (P := fun _ t' => t'.phase = .ended)
      (earlier ++ [finished]) [] tasks fun t ht => by
        rcases hrest t ht with hended | ⟨hof, -, hwaits, -⟩
        · exact ⟨t, hended, .inl rfl⟩
        · have hstep : t.step finished = some { t with phase := .ended } := by
            simp [Stream.step, hwaits, finished]
          exact ⟨_, rfl, .inr ⟨finished, by simp [hof], .single hstep⟩⟩
    have hnone : p.withoutSession.streams = [] := by
      rw [Plugin.withoutSession, hsession]
      refine List.filter_eq_nil_iff.mpr fun number hmem => ?_
      rw [eq_of_mem_watched hrest number (hstreams ▸ hmem), hcount, ← hnumber]
      simp
    have hlength : (earlier ++ [finished]).length = p.withoutSession.sessions := by
      rw [Plugin.sessions_withoutSession, ← hcount, List.length_append, List.length_singleton]
    have hover' : ∀ q ∈ earlier ++ [finished], q.isOver = true :=
      List.forall_mem_append.mpr ⟨hover, by simp [finished]⟩
    exact ⟨_, (Runs.ComesTo.of_act hfinish).trans hends,
      .idle (Plugin.session_withoutSession p) hnone hlength hover' (forall_of_forall₂ hended)⟩

/-- A session that begins has no streams yet. -/
theorem mirrors_next (hmirrors : Mirrors p st) (hidle : p.session = none) (devices : List Device) :
    ∃ st', st.ComesTo st' ∧ Mirrors (p.next devices) st' := by
  cases hmirrors with
  | idle hsession hstreams hcount hover hended =>
    let begun : Publication := { current := p.settings.replication.replicate devices }
    have hstart : st.act (.start begun.current)
        = some { st with sessions := st.sessions ++ [begun] } := rfl
    have hwatched : (p.next devices).streams
        = watched { st with sessions := st.sessions ++ [begun] } :=
      hstreams.trans (watched_eq_nil hended).symm
    exact ⟨_, .of_act hstart, .serving rfl rfl hwatched (congrArg (· + 1) hcount) rfl hover rfl rfl
      fun t ht => .inl (hended t ht)⟩
  | serving hsession =>
    rw [hidle] at hsession
    cases hsession

theorem mirrors_start (hmirrors : Mirrors p st) (w : World) :
    ∃ st', st.ComesTo st' ∧ Mirrors (p.start w).plugin st' := by
  obtain ⟨idle, hstop, hidle⟩ := mirrors_withoutSession hmirrors
  have hnone := Plugin.session_withoutSession p
  rcases Plugin.plugin_start_cases p w with hstart | ⟨devices, hstart | hstart⟩
  · rw [hstart]
    exact ⟨idle, hstop, hidle⟩
  · rw [hstart]
    obtain ⟨begun, hbegin, hbegun⟩ := mirrors_next hidle hnone devices
    obtain ⟨st', hend, hst'⟩ := mirrors_withoutSession hbegun
    exact ⟨st', (hstop.trans hbegin).trans hend, hst'⟩
  · rw [hstart]
    obtain ⟨begun, hbegin, hbegun⟩ := mirrors_next hidle hnone devices
    exact ⟨begun, hstop.trans hbegin, hbegun⟩

/-- **What is reported reaches all streams**, which then wait again. -/
theorem mirrors_report (hmirrors : Mirrors p st) (id : String) :
    ∃ st', st.ComesTo st' ∧ Mirrors (p.report id) st' := by
  cases hmirrors with
  | idle hsession hstreams hcount hover hended =>
    have hnone : (p.report id).session = none := by
      rw [Plugin.report, hsession]
      rfl
    exact ⟨st, .refl st, .idle hnone hstreams hcount hover hended⟩
  | @serving s earlier q hsession hnumber hstreams hcount hsessions hover hlive hcurrent hrest =>
    obtain ⟨sessions, tasks⟩ := st
    obtain rfl : sessions = earlier ++ [q] := hsessions
    have hreport : State.act ⟨earlier ++ [q], tasks⟩ (.report earlier.length id)
        = some ⟨earlier ++ [q.report id], tasks⟩ := by
      simp [act, updateSession]
    obtain ⟨tasks', hgo, hrest'⟩ := exists_comesTo
      (P := fun t t' => (t'.session = t.session ∧ (t'.phase = .ended ↔ t.phase = .ended)) ∧
        t'.AtRest earlier.length (q.report id))
      (earlier ++ [q.report id]) [] tasks fun t ht => by
        rcases hrest t ht with hended | ⟨hof, hthere, hwaits, -⟩
        · exact ⟨t, ⟨⟨rfl, Iff.rfl⟩, .inl hended⟩, .inl rfl⟩
        · have hsettles : t.Settles (q.report id) := Stream.settles_of_waiting hwaits hlive hthere
          obtain ⟨t', hreach, hwaits', hof', hat⟩ := Stream.atRest_of_settles hthere hsettles
          rw [hof] at hof' hat
          refine ⟨t', ⟨⟨hof'.trans hof.symm, ?_⟩, hat⟩, .inr ⟨_, by simp [hof], hreach⟩⟩
          rw [hwaits, hwaits']
    have hwatched : (p.report id).streams = watched ⟨earlier ++ [q.report id], tasks'⟩ :=
      hstreams.trans (watched_congr (hrest'.imp fun _ _ h => h.1)).symm
    exact ⟨_, (Runs.ComesTo.of_act hreport).trans hgo,
      .serving (Plugin.session_report hsession id) hnumber hwatched hcount rfl hover hlive
        (congrArg (Session.reported id) hcurrent)
        (forall_of_forall₂ (hrest'.imp fun _ _ h => h.2))⟩

/-- **A stream that is opened is shown what is advertised**, and then waits for news. -/
theorem mirrors_watch {list : DeviceList} (hmirrors : Mirrors p st)
    (hwatch : p.watch = some (list, p')) : ∃ st', st.ComesTo st' ∧ Mirrors p' st' := by
  obtain ⟨s', hs', rfl⟩ := Plugin.eq_of_watch hwatch
  cases hmirrors with
  | idle hsession =>
    rw [hsession] at hs'
    cases hs'
  | @serving s earlier q hsession hnumber hstreams hcount hsessions hover hlive hcurrent hrest =>
    obtain rfl := Option.some.inj (hsession.symm.trans hs')
    obtain ⟨sessions, tasks⟩ := st
    obtain rfl : sessions = earlier ++ [q] := hsessions
    let opened : Stream := .new earlier.length q
    have hopen : State.act ⟨earlier ++ [q], tasks⟩ (.watch earlier.length)
        = some ⟨earlier ++ [q], tasks ++ [opened]⟩ := by
      simp [act, opened]
    obtain ⟨t, hreach, hwaits, hof, hat⟩ :=
      Stream.atRest_of_settles (s := opened) rfl (Stream.settles_of_reading rfl hlive rfl)
    have hgo : ComesTo ⟨earlier ++ [q], tasks ++ [opened]⟩ ⟨earlier ++ [q], tasks ++ [t]⟩ := by
      have hset := comesTo_set ⟨earlier ++ [q], tasks ++ [opened]⟩ (i := tasks.length)
        (by simp) (by simp [opened, Stream.new]) hreach
      simpa using hset
    have hwatched : p.streams ++ [s.number] = watched ⟨earlier ++ [q], tasks ++ [t]⟩ := by
      have hof : t.session = earlier.length := hof
      rw [hstreams, hnumber, ← hcount, watched, watched, List.filter_append, List.map_append]
      simp [hwaits, hof]
    exact ⟨_, (Runs.ComesTo.of_act hopen).trans hgo,
      .serving hsession hnumber hwatched hcount rfl hover hlive hcurrent
        (List.forall_mem_append.mpr ⟨hrest, List.forall_mem_singleton.mpr hat⟩)⟩

/-! ## Whole lives -/

theorem mirrors_after {l : Life} (hmirrors : Mirrors l.plugin st) (event : Life.Event) :
    ∃ st', st.ComesTo st' ∧ Mirrors (l.after event).plugin st' := by
  cases event with
  | call c =>
    cases c with
    | start => exact mirrors_start hmirrors l.world
    | stop =>
      change ∃ st', st.ComesTo st' ∧ Mirrors (l.plugin.stop l.world).plugin st'
      rw [Plugin.plugin_stop]
      exact mirrors_withoutSession hmirrors
    | register =>
      change ∃ st', st.ComesTo st' ∧ Mirrors (l.plugin.register l.world).plugin st'
      rw [Plugin.plugin_register]
      exact ⟨st, .refl st, hmirrors⟩
  | watch =>
    rw [Life.after]
    split
    next => exact ⟨st, .refl st, hmirrors⟩
    next list p hwatch => exact mirrors_watch hmirrors hwatch
  | report id => exact mirrors_report hmirrors id
  | change w => exact ⟨st, .refl st, hmirrors⟩

theorem mirrors_run {l : Life} (hmirrors : Mirrors l.plugin st) (events : List Life.Event) :
    ∃ st', st.ComesTo st' ∧ Mirrors (l.run events).plugin st' := by
  induction events generalizing l st with
  | nil => exact ⟨st, .refl st, hmirrors⟩
  | cons event events ih =>
    obtain ⟨next, hcomes, hnext⟩ := mirrors_after hmirrors event
    obtain ⟨st', hcomes', hst'⟩ := ih hnext
    exact ⟨st', hcomes.trans hcomes', hst'⟩

/-- In a run, a stream whose task goes on has sent what the plugin advertises last. -/
theorem Mirrors.sent (hmirrors : Mirrors p st) (hkept : st.Kept) (ht : t ∈ st.streams)
    (hgoes : t.phase ≠ .ended) :
    ∃ s, p.session = some s ∧ t.sent.getLast? = some s.snapshot := by
  cases hmirrors with
  | idle hsession hstreams hcount hover hended => exact absurd (hended t ht) hgoes
  | @serving s earlier q hsession hnumber hstreams hcount hsessions hover hlive hcurrent hrest =>
    obtain ⟨hof, -, hidle⟩ := (hrest t ht).resolve_left hgoes
    obtain ⟨q', hq', hkept⟩ := hkept.streams t ht
    obtain rfl : q = q' := by simpa [hsessions, hof] using hq'
    exact ⟨s, hsession, hcurrent ▸ hkept.getLast?_of_isIdle hidle⟩

end State

/-- **Every life of a plugin is a run of its streams**, in which those that are left are the
plugin's: each has sent what is advertised, and all others have ended. -/
theorem watched_run (settings : Settings) (policy : Option Policy) (w : World)
    (events : List Life.Event) : ∃ actions st, State.run {} actions = some st ∧
      State.Mirrors ((Life.begin settings policy w).run events).plugin st ∧
      ∀ t ∈ st.streams, t.phase = .ended ∨
        ∃ s, ((Life.begin settings policy w).run events).plugin.session = some s ∧
          t.sent.getLast? = some s.snapshot := by
  obtain ⟨st, ⟨actions, hrun⟩, hmirrors⟩ := State.mirrors_run (l := Life.begin settings policy w)
    (State.mirrors_begin settings policy) events
  refine ⟨actions, st, hrun, hmirrors, fun t ht => ?_⟩
  by_cases hended : t.phase = .ended
  · exact .inl hended
  · exact .inr (hmirrors.sent (State.kept_nil.run hrun) ht hended)

end GpuPlugin.Streams
