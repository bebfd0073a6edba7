import GpuPlugin.Proofs.Streams.Publication
import Mathlib.Logic.Relation

/-!
# Proofs/Streams/Task — what the task of a stream has sent

A task reads the current snapshot, sends it, and then waits for one it has not read.  What it has
sent and what it does next are tied to what its session has published (`Kept`), whichever of its
steps comes next and whatever is published in between.  From this its messages are what a reader
relies on (`Faithful`).
-/

namespace GpuPlugin.Streams

/-! ## What a stream has sent -/

/-- What a task has read and not sent yet. -/
def Phase.pending : Phase → List (List Device)
  | .sending snapshot => [snapshot]
  | .reading | .waiting | .ended => []

/-- How many messages a task still sends, whatever becomes of its session. -/
def Phase.owed : Phase → Nat
  | .reading | .sending _ => 1
  | .waiting | .ended => 0

namespace Stream

variable {s s' : Stream} {p p' : Publication}

/-- **What holds of a stream and of what its session has published.** -/
structure Kept (s : Stream) (p : Publication) : Prop where
  opened : s.openedAt ≤ s.seen
  seen : s.seen ≤ p.version
  /-- Only what was current from the opening on has been read, in order. -/
  read : (s.sent ++ s.phase.pending).Sublist (p.between s.openedAt (s.seen + 1))
  /-- What is read next is newer than all that has been sent. -/
  reading : s.phase = .reading → s.sent = [] ∨ s.seen < p.version
  sending : ∀ snapshot, s.phase = .sending snapshot → p.history[s.seen]? = some snapshot
  waiting : s.phase = .waiting → s.sent.getLast? = p.history[s.seen]?
  ended : s.phase = .ended → p.isOver = true ∨ s.isGone = true

theorem kept_new (session : Nat) (p : Publication) : (new session p).Kept p where
  opened := Nat.le_refl p.version
  seen := Nat.le_refl p.version
  read := List.nil_sublist _
  reading _ := Or.inl rfl
  sending := nofun
  waiting := nofun
  ended := nofun

/-- **New snapshots leave alone what has been sent.** -/
theorem Kept.of_precedes (hkept : s.Kept p) (hle : p.Precedes p') : s.Kept p' where
  opened := hkept.opened
  seen := Nat.le_trans hkept.seen hle.version_le
  read := by
    rw [hle.between_eq s.openedAt (Nat.succ_le_succ hkept.seen)]
    exact hkept.read
  reading hphase :=
    (hkept.reading hphase).imp_right fun hlt => Nat.lt_of_lt_of_le hlt hle.version_le
  sending snapshot hphase := by
    rw [hle.getElem?_history hkept.seen]
    exact hkept.sending snapshot hphase
  waiting hphase := by
    rw [hle.getElem?_history hkept.seen]
    exact hkept.waiting hphase
  ended hphase := (hkept.ended hphase).imp_left hle.isOver

theorem Kept.leave (hkept : s.Kept p) : ({ s with isGone := true } : Stream).Kept p :=
  { hkept with ended := fun _ => Or.inr rfl }

/-! ### Steps of its task -/

theorem Kept.read_current (hkept : s.Kept p) (hphase : s.phase = .reading) :
    ({ s with phase := .sending p.current, seen := p.version } : Stream).Kept p where
  opened := Nat.le_trans hkept.opened hkept.seen
  seen := Nat.le_refl p.version
  read := by
    have hcurrent := p.getElem?_version_history
    have hsent : s.sent.Sublist (p.between s.openedAt p.version) := by
      rcases hkept.reading hphase with hnil | hlt
      · rw [hnil]
        exact List.nil_sublist _
      · have hread := hkept.read
        rw [hphase, Phase.pending, List.append_nil] at hread
        exact hread.trans (p.between_subset s.openedAt hlt)
    rw [p.between_succ (Nat.le_trans hkept.opened hkept.seen) hcurrent]
    exact hsent.append (List.Sublist.refl _)
  reading := nofun
  sending snapshot hsnapshot := by
    cases hsnapshot
    exact p.getElem?_version_history
  waiting := nofun
  ended := nofun

theorem Kept.send (hkept : s.Kept p) {snapshot : List Device}
    (hphase : s.phase = .sending snapshot) :
    ({ s with phase := .waiting, sent := s.sent ++ [snapshot] } : Stream).Kept p where
  opened := hkept.opened
  seen := hkept.seen
  read := by
    have hread := hkept.read
    rw [hphase] at hread
    rw [Phase.pending, List.append_nil]
    exact hread
  reading := nofun
  sending := nofun
  waiting _ := by
    rw [hkept.sending snapshot hphase]
    exact List.getLast?_concat
  ended := nofun

theorem Kept.finish (hkept : s.Kept p) (hend : p.isOver = true ∨ s.isGone = true) :
    ({ s with phase := .ended } : Stream).Kept p where
  opened := hkept.opened
  seen := hkept.seen
  read := by
    rw [Phase.pending, List.append_nil]
    exact (List.sublist_append_left _ _).trans hkept.read
  reading := nofun
  sending := nofun
  waiting := nofun
  ended _ := hend

theorem Kept.wake (hkept : s.Kept p) (hphase : s.phase = .waiting) (hnew : s.seen ≠ p.version) :
    ({ s with phase := .reading } : Stream).Kept p where
  opened := hkept.opened
  seen := hkept.seen
  read := by
    have hread := hkept.read
    rw [hphase] at hread
    exact hread
  reading _ := Or.inr (Nat.lt_of_le_of_ne hkept.seen hnew)
  sending := nofun
  waiting := nofun
  ended := nofun

/-- **What a step of a task can be.** -/
theorem step_cases (hstep : s.step p = some s') :
    (s.phase = .reading ∧ s' = { s with phase := .sending p.current, seen := p.version }) ∨
    (∃ snapshot, s.phase = .sending snapshot ∧
      s' = { s with phase := .waiting, sent := s.sent ++ [snapshot] }) ∨
    ((p.isOver = true ∨ s.isGone = true) ∧ s' = { s with phase := .ended }) ∨
    (s.phase = .waiting ∧ p.isOver = false ∧ s.seen ≠ p.version ∧
      s' = { s with phase := .reading }) := by
  rw [step] at hstep
  split at hstep
  next hphase => exact Or.inl ⟨hphase, (Option.some.inj hstep).symm⟩
  next snapshot hphase =>
    split_ifs at hstep with hgone
    · exact Or.inr (Or.inr (Or.inl ⟨Or.inr hgone, (Option.some.inj hstep).symm⟩))
    · exact Or.inr (Or.inl ⟨snapshot, hphase, (Option.some.inj hstep).symm⟩)
  next hphase =>
    split_ifs at hstep with hend hseen
    · exact Or.inr (Or.inr (Or.inl ⟨hend, (Option.some.inj hstep).symm⟩))
    · have hlive : p.isOver = false := Bool.eq_false_iff.mpr (not_or.mp hend).1
      exact Or.inr (Or.inr (Or.inr ⟨hphase, hlive, hseen, (Option.some.inj hstep).symm⟩))
  next => cases hstep

theorem Kept.step (hkept : s.Kept p) (hstep : s.step p = some s') : s'.Kept p := by
  rcases step_cases hstep with ⟨hphase, rfl⟩ | ⟨snapshot, hphase, rfl⟩ | ⟨hend, rfl⟩ |
    ⟨hphase, -, hseen, rfl⟩
  · exact hkept.read_current hphase
  · exact hkept.send hphase
  · exact hkept.finish hend
  · exact hkept.wake hphase hseen

/-- **What becomes of a stream**: it stays with its session, and what it has sent stays sent. -/
structure Precedes (s s' : Stream) : Prop where
  session : s'.session = s.session
  openedAt : s'.openedAt = s.openedAt
  sent : s.sent <+: s'.sent

theorem Precedes.refl (s : Stream) : s.Precedes s := ⟨rfl, rfl, List.prefix_rfl⟩

theorem Precedes.trans {t : Stream} (h : s.Precedes s') (h' : s'.Precedes t) : s.Precedes t :=
  ⟨h'.session.trans h.session, h'.openedAt.trans h.openedAt, h.sent.trans h'.sent⟩

theorem precedes_of_step (hstep : s.step p = some s') : s.Precedes s' := by
  rcases step_cases hstep with ⟨-, rfl⟩ | ⟨snapshot, -, rfl⟩ | ⟨-, rfl⟩ | ⟨-, -, -, rfl⟩
  · exact ⟨rfl, rfl, List.prefix_rfl⟩
  · exact ⟨rfl, rfl, List.prefix_append _ _⟩
  · exact ⟨rfl, rfl, List.prefix_rfl⟩
  · exact ⟨rfl, rfl, List.prefix_rfl⟩

/-- How many messages a stream has sent or still sends, if its session is over. -/
def total (s : Stream) : Nat := s.sent.length + s.phase.owed

/-- **After its session a stream sends what it owes, and no more.** -/
theorem total_le_of_step (hover : p.isOver = true) (hstep : s.step p = some s') :
    s'.total ≤ s.total := by
  rcases step_cases hstep with ⟨hphase, rfl⟩ | ⟨snapshot, hphase, rfl⟩ | ⟨-, rfl⟩ |
    ⟨-, hlive, -, -⟩
  · simp [total, hphase, Phase.owed]
  · simp [total, hphase, Phase.owed]
  · simp [total, Phase.owed]
  · rw [hover] at hlive
    cases hlive

/-- **A task that owes nothing after its session has ended, or has nothing left but to end.** -/
theorem step_of_owed_eq_zero (hover : p.isOver = true) (howed : s.phase.owed = 0) :
    s.step p = if s.phase = .ended then none else some { s with phase := .ended } := by
  cases hphase : s.phase with
  | reading =>
    rw [hphase] at howed
    cases howed
  | sending snapshot =>
    rw [hphase] at howed
    cases howed
  | waiting => simp [step, hphase, hover]
  | ended => simp [step, hphase]

/-! ### Catching up -/

/-- A stream that has come to another by steps of its task alone. -/
def Reaches (p : Publication) : Stream → Stream → Prop :=
  Relation.ReflTransGen fun s s' => s.step p = some s'

theorem Kept.reaches (hkept : s.Kept p) (hreach : Reaches p s s') : s'.Kept p := by
  induction hreach with
  | refl => exact hkept
  | tail _ hstep ih => exact ih.step hstep

/-- A task that waits and has seen the current version has nothing left to do. -/
def IsIdle (s : Stream) (p : Publication) : Prop := s.phase = .waiting ∧ s.seen = p.version

theorem step_of_isIdle (hidle : s.IsIdle p) (hlive : p.isOver = false) (hthere : s.isGone = false) :
    s.step p = none := by
  simp [step, hidle.1, hidle.2, hlive, hthere]

/-- A stream that has come to rest on the current version, after steps of its task alone. -/
def Settles (s : Stream) (p : Publication) : Prop :=
  ∃ s', Reaches p s s' ∧ s'.IsIdle p ∧ s'.step p = none

theorem settles_of_reading (hphase : s.phase = .reading) (hlive : p.isOver = false)
    (hthere : s.isGone = false) : s.Settles p := by
  let s₁ : Stream := { s with phase := .sending p.current, seen := p.version }
  let s₂ : Stream := { s₁ with phase := .waiting, sent := s.sent ++ [p.current] }
  have hread : s.step p = some s₁ := by simp [step, hphase, s₁]
  have hsend : s₁.step p = some s₂ := by simp [step, hthere, s₁, s₂]
  exact ⟨s₂, .tail (.single hread) hsend, ⟨rfl, rfl⟩, step_of_isIdle ⟨rfl, rfl⟩ hlive hthere⟩

theorem settles_of_waiting (hphase : s.phase = .waiting) (hlive : p.isOver = false)
    (hthere : s.isGone = false) : s.Settles p := by
  by_cases hseen : s.seen = p.version
  · exact ⟨s, .refl, ⟨hphase, hseen⟩, step_of_isIdle ⟨hphase, hseen⟩ hlive hthere⟩
  · let s₁ : Stream := { s with phase := .reading }
    have hwake : s.step p = some s₁ := by simp [step, hphase, hlive, hthere, hseen, s₁]
    obtain ⟨s', hreach, hidle⟩ : s₁.Settles p := settles_of_reading rfl hlive hthere
    exact ⟨s', .head hwake hreach, hidle⟩

/-- **A stream that is left alone catches up.** -/
theorem Kept.settles (hkept : s.Kept p) (hlive : p.isOver = false) (hthere : s.isGone = false) :
    s.Settles p := by
  cases hphase : s.phase with
  | reading => exact settles_of_reading hphase hlive hthere
  | sending snapshot =>
    let s₁ : Stream := { s with phase := .waiting, sent := s.sent ++ [snapshot] }
    have hsend : s.step p = some s₁ := by simp [Stream.step, hphase, hthere, s₁]
    obtain ⟨s', hreach, hidle⟩ : s₁.Settles p := settles_of_waiting rfl hlive hthere
    exact ⟨s', .head hsend hreach, hidle⟩
  | waiting => exact settles_of_waiting hphase hlive hthere
  | ended =>
    rcases hkept.ended hphase with hover | hgone
    · rw [hlive] at hover
      cases hover
    · rw [hthere] at hgone
      cases hgone

/-! ### What a reader of the messages may rely on -/

/-- **A stream that loses nothing** of what its session has published. -/
structure Faithful (s : Stream) (p : Publication) : Prop where
  /-- The messages are snapshots of the session in their order, since the stream was opened. -/
  sent : s.sent.Sublist (p.history.drop s.openedAt)
  first : ∀ snapshot, s.sent.head? = some snapshot →
    ∃ version, s.openedAt ≤ version ∧ p.history[version]? = some snapshot
  /-- What is broken in a message is broken in those after it. -/
  worsening : s.sent.Pairwise Worsens
  idle : s.IsIdle p → s.sent.getLast? = some p.current
  /-- Left alone, its task comes to rest on the current snapshot. -/
  catchesUp : p.isOver = false → s.isGone = false →
    ∃ s', Reaches p s s' ∧ s'.step p = none ∧ s'.sent.getLast? = some p.current

theorem Kept.getLast?_of_isIdle (hkept : s.Kept p) (hidle : s.IsIdle p) :
    s.sent.getLast? = some p.current := by
  rw [hkept.waiting hidle.1, hidle.2]
  exact p.getElem?_version_history

theorem Kept.sent_sublist (hkept : s.Kept p) : s.sent.Sublist (p.history.drop s.openedAt) :=
  (List.sublist_append_left _ _).trans (hkept.read.trans (p.between_sublist _ _))

theorem Kept.faithful (hkept : s.Kept p) (hworse : p.Worsening) : s.Faithful p where
  sent := hkept.sent_sublist
  first snapshot hfirst := by
    have hmem : snapshot ∈ p.history.drop s.openedAt :=
      hkept.sent_sublist.mem (List.mem_of_head? hfirst)
    obtain ⟨i, hi⟩ := List.mem_iff_getElem?.mp hmem
    rw [List.getElem?_drop] at hi
    exact ⟨s.openedAt + i, Nat.le_add_right _ _, hi⟩
  worsening := (hworse.sublist (List.drop_sublist _ _)).sublist hkept.sent_sublist
  idle := hkept.getLast?_of_isIdle
  catchesUp hlive hthere := by
    obtain ⟨s', hreach, hidle, hrest⟩ := hkept.settles hlive hthere
    exact ⟨s', hreach, hrest, (hkept.reaches hreach).getLast?_of_isIdle hidle⟩

end Stream

end GpuPlugin.Streams
