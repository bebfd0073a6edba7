import GpuPlugin.Breaker
import Mathlib.Data.List.Chain
import Mathlib.Data.List.DropRight
import Mathlib.Data.List.Forall2
import Mathlib.Data.List.Induction
import Mathlib.Data.List.Infix
import Mathlib.Order.Bounds.Basic

/-!
# Proofs/Breaker/Count — a breaker counts the last run of crashes

A **run** is a list of crashes each of which comes at most an hour after the one before it.
Whenever the server was started, the count after some crashes is the length of the longest run they
end in, as long as the counter holds it (`isGreatest_restarts`).  So six crashes in a row within an
hour are one too many, nothing but the last six crashes decides the verdict
(`verdict_after_eq_giveUp_iff`), and whoever stops at the first verdict to give up never counts
more than six (`detectsRuns`).
-/

namespace GpuPlugin

/-- The times of the crashes after which a server is to be started again. -/
def Attempt.crashTimes : List Attempt → List Nat
  | .crashed time false :: later => time :: crashTimes later
  | _ => []

/-- The breaker that watches a server. -/
def Supervision.breaker : Supervision → Breaker
  | .serving b | .ended b | .givenUp b => b

theorem Verdict.eq_of_giveUp_iff {v v' : Verdict} (h : v = .giveUp ↔ v' = .giveUp) : v = v' := by
  cases v <;> cases v' <;> simp_all

namespace Breaker

variable {startedAt now n : Nat} {crashes run : List Nat} {b : Breaker}

/-! ## Runs of crashes -/

/-- A crash **follows** another if the pause between them is within the window.  A crash that is
dated earlier than the one before it comes after no pause. -/
def Follows (earlier later : Nat) : Prop := later ≤ earlier + window

/-- Crashes each of which follows the one before it. -/
def IsRun (crashes : List Nat) : Prop := crashes.IsChain Follows

/-- The lengths of the runs that a list of crashes ends in. -/
def runLengths (crashes : List Nat) : Set Nat :=
  {n | ∃ run, run <:+ crashes ∧ IsRun run ∧ run.length = n}

theorem isRun_concat_iff :
    IsRun (run ++ [now]) ↔ IsRun run ∧ ∀ last ∈ run.getLast?, Follows last now := by
  rw [IsRun, IsRun, List.isChain_append]
  simp

/-- A suffix ends as the whole list does. -/
theorem mem_getLast?_of_suffix {last : Nat} (hending : run <:+ crashes)
    (hlast : last ∈ run.getLast?) : last ∈ crashes.getLast? := by
  rw [Option.mem_def, ← List.singleton_suffix_iff_getLast?_eq_some] at hlast ⊢
  exact hlast.trans hending

/-- A run that a crash follows is one crash longer with it. -/
theorem isGreatest_concat_of_follows (h : IsGreatest (runLengths crashes) n)
    (hfollows : ∀ last ∈ crashes.getLast?, Follows last now) :
    IsGreatest (runLengths (crashes ++ [now])) (n + 1) := by
  obtain ⟨⟨run, hending, hrun, rfl⟩, hlongest⟩ := h
  constructor
  · refine ⟨run ++ [now], List.suffix_concat_iff.mpr (.inr ⟨run, rfl, hending⟩), ?_,
      List.length_append⟩
    exact isRun_concat_iff.mpr
      ⟨hrun, fun last hlast => hfollows last (mem_getLast?_of_suffix hending hlast)⟩
  · rintro m ⟨other, hother, hisRun, rfl⟩
    rcases List.suffix_concat_iff.mp hother with rfl | ⟨rest, rfl, hrest⟩
    · exact Nat.zero_le _
    · rw [List.length_append]
      exact Nat.succ_le_succ (hlongest ⟨rest, hrest, (isRun_concat_iff.mp hisRun).1, rfl⟩)

/-- A crash that does not follow the one before it is a run of its own. -/
theorem isGreatest_concat_of_pause {last : Nat} (hlast : last ∈ crashes.getLast?)
    (hpause : ¬ Follows last now) : IsGreatest (runLengths (crashes ++ [now])) 1 := by
  constructor
  · exact ⟨[now], List.suffix_append _ _, List.isChain_singleton now, rfl⟩
  · rintro m ⟨other, hother, hisRun, rfl⟩
    rcases List.suffix_concat_iff.mp hother with rfl | ⟨rest, rfl, hrest⟩
    · exact Nat.zero_le _
    · cases hend : rest.getLast? with
      | none => rw [List.getLast?_eq_none_iff.mp hend]; exact Nat.le_refl _
      | some last' =>
        -- a longer run would end in the last crash before the pause
        have hsame := mem_getLast?_of_suffix hrest hend
        rw [Option.mem_def, hlast] at hsame
        obtain rfl := Option.some.inj hsame
        exact absurd ((isRun_concat_iff.mp hisRun).2 _ hend) hpause

/-! ## The count -/

/-- The breaker of a server after some crashes. -/
def after (startedAt : Nat) (crashes : List Nat) : Breaker :=
  crashes.foldl recordCrash (new startedAt)

theorem after_concat (startedAt : Nat) (crashes : List Nat) (now : Nat) :
    after startedAt (crashes ++ [now]) = (after startedAt crashes).recordCrash now := by
  rw [after, List.foldl_append]
  rfl

theorem lastCrash_after (startedAt : Nat) (crashes : List Nat) :
    (after startedAt crashes).lastCrash = crashes.getLast?.getD startedAt := by
  induction crashes using List.reverseRecOn with
  | nil => rfl
  | append_singleton crashes now =>
    rw [after_concat, List.getLast?_concat]
    rfl

theorem restarts_of_follows (hfollows : Follows b.lastCrash now)
    (hfits : b.restarts + 1 < UInt32.size) : (b.recordCrash now).restarts = b.restarts + 1 := by
  have hnot : ¬ window < now - b.lastCrash := by
    rw [Follows] at hfollows
    omega
  rw [recordCrash, if_neg hnot, restarts, UInt32.toNat_add]
  exact Nat.mod_eq_of_lt hfits

theorem restarts_of_pause (hpause : ¬ Follows b.lastCrash now) :
    (b.recordCrash now).restarts = 1 := by
  have hlong : window < now - b.lastCrash := by
    rw [Follows] at hpause
    omega
  rw [recordCrash, if_pos hlong]
  rfl

theorem restarts_recordCrash_le (b : Breaker) (now : Nat) :
    (b.recordCrash now).restarts ≤ b.restarts + 1 := by
  rw [recordCrash]
  split
  · exact Nat.le_add_left 1 b.restarts
  · rw [restarts, UInt32.toNat_add]
    exact Nat.mod_le _ _

theorem restarts_after_le_length (startedAt : Nat) (crashes : List Nat) :
    (after startedAt crashes).restarts ≤ crashes.length := by
  induction crashes using List.reverseRecOn with
  | nil => exact Nat.le_refl 0
  | append_singleton crashes now ih =>
    rw [after_concat, List.length_append]
    exact (restarts_recordCrash_le _ _).trans (Nat.succ_le_succ ih)

/-- **One more crash**: the count stays the length of the longest run. -/
theorem isGreatest_restarts_concat
    (h : IsGreatest (runLengths crashes) (after startedAt crashes).restarts)
    (hfits : (after startedAt crashes).restarts + 1 < UInt32.size) :
    IsGreatest (runLengths (crashes ++ [now])) (after startedAt (crashes ++ [now])).restarts := by
  have hlast := lastCrash_after startedAt crashes
  rw [after_concat]
  cases hend : crashes.getLast? with
  | none =>
    -- the first crash counts once, however long the server has been up
    obtain rfl := List.getLast?_eq_none_iff.mp hend
    have hone : ((after startedAt []).recordCrash now).restarts = 0 + 1 := by
      by_cases hfollows : Follows (after startedAt []).lastCrash now
      · exact restarts_of_follows hfollows hfits
      · exact restarts_of_pause hfollows
    rw [hone]
    exact isGreatest_concat_of_follows h nofun
  | some last =>
    rw [hend, Option.getD_some] at hlast
    by_cases hfollows : Follows last now
    · rw [restarts_of_follows (hlast ▸ hfollows) hfits]
      refine isGreatest_concat_of_follows h fun last' hlast' => ?_
      obtain rfl := Option.some.inj (hend.symm.trans hlast')
      exact hfollows
    · rw [restarts_of_pause (hlast ▸ hfollows)]
      exact isGreatest_concat_of_pause hend hfollows

/-- **The count is the length of the longest run that the crashes end in**, as long as the counter
had room for one more before each of them. -/
theorem isGreatest_restarts (hfits : ∀ past now, past ++ [now] <+: crashes →
      (after startedAt past).restarts + 1 < UInt32.size) :
    IsGreatest (runLengths crashes) (after startedAt crashes).restarts := by
  induction crashes using List.reverseRecOn with
  | nil =>
    refine ⟨⟨[], List.suffix_refl [], List.isChain_nil, rfl⟩, ?_⟩
    rintro m ⟨run, hending, -, rfl⟩
    exact hending.length_le
  | append_singleton crashes now ih =>
    refine isGreatest_restarts_concat (ih fun past now' hinitial => ?_) ?_
    · exact hfits past now' (hinitial.trans (List.prefix_append _ _))
    · exact hfits crashes now (List.prefix_refl _)

/-- Fewer than 2³² crashes do not overflow the counter. -/
theorem isGreatest_restarts_of_length (hlength : crashes.length < UInt32.size) :
    IsGreatest (runLengths crashes) (after startedAt crashes).restarts := by
  refine isGreatest_restarts fun past now hinitial => ?_
  have hle := hinitial.length_le
  rw [List.length_append, List.length_singleton] at hle
  have hcount := restarts_after_le_length startedAt past
  omega

/-! ## The verdict -/

theorem verdict_eq_giveUp_iff : b.verdict = .giveUp ↔ 5 < b.restarts := by
  rw [verdict, maxRestarts]
  split
  next hmany => exact iff_of_true rfl hmany
  next hfew => exact iff_of_false nofun hfew

theorem verdict_eq_restart_iff : b.verdict = .restart ↔ b.restarts ≤ 5 := by
  rw [← Nat.not_lt, ← verdict_eq_giveUp_iff]
  cases b.verdict <;> simp

/-- **The last six crashes decide**: a server is given up when there are six and they are a run. -/
theorem verdict_after_eq_giveUp_iff (hlength : crashes.length < UInt32.size) :
    (after startedAt crashes).verdict = .giveUp ↔
      (crashes.rtake 6).length = 6 ∧ IsRun (crashes.rtake 6) := by
  obtain ⟨⟨run, hending, hrun, hcount⟩, hlongest⟩ :=
    @isGreatest_restarts_of_length startedAt crashes hlength
  have hlast : crashes.rtake 6 <:+ crashes := List.drop_suffix _ _
  rw [verdict_eq_giveUp_iff]
  constructor
  · intro hmany
    have hsix : (crashes.rtake 6).length = 6 := by
      have hle := hending.length_le
      rw [List.rtake, List.length_drop]
      omega
    refine ⟨hsix, List.IsChain.suffix hrun ?_⟩
    exact List.suffix_of_suffix_length_le hlast hending (by omega)
  · rintro ⟨hsix, hisRun⟩
    exact hlongest ⟨_, hlast, hisRun, hsix⟩

/-- **Six crashes in a row within an hour are one too many**, in whatever order they are dated. -/
theorem verdict_after_of_six {before six : List Nat} {first : Nat}
    (hlength : (before ++ six).length < UInt32.size) (hsix : six.length = 6)
    (hhour : ∀ time ∈ six, first ≤ time ∧ time ≤ first + window) :
    (after startedAt (before ++ six)).verdict = .giveUp := by
  have hisRun : IsRun six := by
    refine List.Pairwise.isChain (List.pairwise_iff_forall_sublist.mpr fun {earlier later} h => ?_)
    have hearlier := hhour earlier (h.subset (by simp))
    have hlater := hhour later (h.subset (by simp))
    rw [Follows]
    omega
  rw [verdict_eq_giveUp_iff]
  exact (isGreatest_restarts_of_length hlength).2 ⟨six, List.suffix_append _ _, hisRun, hsix⟩

/-! ## Stopping in time -/

/-- Crashes before the last of which the server was started again each time. -/
def Tolerated (startedAt : Nat) (crashes : List Nat) : Prop :=
  ∀ past, past <+: crashes → past ≠ crashes → (after startedAt past).verdict = .restart

theorem Tolerated.concat (h : Tolerated startedAt crashes)
    (hrestart : (after startedAt crashes).verdict = .restart) (now : Nat) :
    Tolerated startedAt (crashes ++ [now]) := by
  intro past hpast hne
  rcases List.prefix_concat_iff.mp hpast with rfl | hpast
  · exact absurd rfl hne
  · by_cases hall : past = crashes
    · exact hall ▸ hrestart
    · exact h past hpast hall

/-- **Whoever stops at the first verdict to give up never overflows the counter**, however many
crashes there are. -/
theorem Tolerated.isGreatest_restarts (h : Tolerated startedAt crashes) :
    IsGreatest (runLengths crashes) (after startedAt crashes).restarts := by
  refine Breaker.isGreatest_restarts fun past now hinitial => ?_
  have hpast : past <+: crashes := (List.prefix_append past [now]).trans hinitial
  have hne : past ≠ crashes := by
    rintro rfl
    have hle := hinitial.length_le
    rw [List.length_append, List.length_singleton] at hle
    exact Nat.not_succ_le_self _ hle
  have hle := verdict_eq_restart_iff.mp (h past hpast hne)
  exact Nat.lt_of_le_of_lt (Nat.succ_le_succ hle) (by decide)

theorem Tolerated.restarts_le (h : Tolerated startedAt crashes) :
    (after startedAt crashes).restarts ≤ 6 := by
  induction crashes using List.reverseRecOn with
  | nil => exact Nat.zero_le _
  | append_singleton crashes now =>
    have hrestart := h crashes (List.prefix_append _ _) (by simp)
    rw [after_concat]
    exact (restarts_recordCrash_le _ _).trans
      (Nat.succ_le_succ (verdict_eq_restart_iff.mp hrestart))

/-! ## Supervision -/

/-- **What a supervision has come to** when it has recorded some crashes, with the breaker as it is
then.  Whenever the server is not given up, all its crashes are recorded: another attempt is under
way if it has done nothing but crash, and otherwise it is done. -/
inductive Supervised (b : Breaker) (attempts : List Attempt) (recorded : List Nat) :
    Supervision → Prop where
  | serving (hrestart : b.verdict = .restart) (hall : recorded = Attempt.crashTimes attempts)
    (hlength : recorded.length = attempts.length) : Supervised b attempts recorded (.serving b)
  | ended (hrestart : b.verdict = .restart) (hall : recorded = Attempt.crashTimes attempts)
    (hlength : recorded.length < attempts.length) : Supervised b attempts recorded (.ended b)
  | givenUp (hverdict : b.verdict = .giveUp) : Supervised b attempts recorded (.givenUp b)

theorem Supervised.breaker {attempts : List Attempt} {recorded : List Nat}
    {outcome : Supervision} (h : Supervised b attempts recorded outcome) : outcome.breaker = b := by
  cases h <;> rfl

/-- One more crash before the others is recorded as well. -/
theorem Supervised.cons {attempts : List Attempt} {recorded : List Nat}
    {outcome : Supervision} (h : Supervised b attempts recorded outcome) (time : Nat) :
    Supervised b (.crashed time false :: attempts) (time :: recorded) outcome := by
  cases h with
  | serving hrestart hall hlength =>
    exact .serving hrestart (congrArg (time :: ·) hall) (congrArg (· + 1) hlength)
  | ended hrestart hall hlength =>
    exact .ended hrestart (congrArg (time :: ·) hall) (Nat.succ_lt_succ hlength)
  | givenUp hverdict => exact .givenUp hverdict

/-- A server that is done, or still there, without another crash leaves the breaker as it was. -/
theorem unrecorded {attempts : List Attempt} {outcome : Supervision}
    (h : Tolerated startedAt crashes)
    (hsupervised : Supervised (after startedAt crashes) attempts [] outcome) :
    ∃ recorded, recorded <+: Attempt.crashTimes attempts ∧
      Tolerated startedAt (crashes ++ recorded) ∧
      Supervised (after startedAt (crashes ++ recorded)) attempts recorded outcome := by
  refine ⟨[], List.nil_prefix, ?_⟩
  rw [List.append_nil]
  exact ⟨h, hsupervised⟩

/-- **A supervised server is not started again once it is given up**, so all crashes that are
recorded but the last are tolerated. -/
theorem exists_supervised (attempts : List Attempt) (h : Tolerated startedAt crashes)
    (hrestart : (after startedAt crashes).verdict = .restart) :
    ∃ recorded, recorded <+: Attempt.crashTimes attempts ∧
      Tolerated startedAt (crashes ++ recorded) ∧
      Supervised (after startedAt (crashes ++ recorded)) attempts recorded
        ((after startedAt crashes).supervise attempts) := by
  induction attempts generalizing crashes with
  | nil => exact unrecorded h (.serving hrestart rfl rfl)
  | cons attempt attempts ih =>
    cases attempt with
    | ended => exact unrecorded h (.ended hrestart rfl (Nat.succ_pos _))
    | crashed time stopping =>
      cases stopping with
      | true => exact unrecorded h (.ended hrestart rfl (Nat.succ_pos _))
      | false =>
        have hnext := h.concat hrestart time
        rw [supervise, ← after_concat]
        split
        next hgiveUp =>
          exact ⟨[time], List.prefix_append [time] _, hnext, .givenUp hgiveUp⟩
        next hagain =>
          obtain ⟨recorded, hinitial, htolerated, hsupervised⟩ := ih hnext hagain
          rw [List.append_assoc] at htolerated hsupervised
          exact ⟨time :: recorded, (List.prefix_cons_inj time).mpr hinitial, htolerated,
            hsupervised.cons time⟩

/-! ## What a breaker detects -/

theorem history_eq_map (b : Breaker) (crashes : List Nat) :
    b.history crashes = crashes.inits.tail.map (·.foldl recordCrash b) := by
  induction crashes generalizing b with
  | nil => rfl
  | cons now later ih =>
    have hinits : later.inits = [] :: later.inits.tail := by cases later <;> rfl
    rw [history, ih, List.inits_cons, List.tail_cons, List.map_map]
    conv_rhs => rw [hinits]
    rfl

/-- **What a breaker detects**, whenever the server was started. -/
structure DetectsRuns (startedAt : Nat) : Prop where
  /-- After each crash the count is the length of the longest run that the crashes so far end in,
  and the server is given up when that run is longer than five. -/
  counted : ∀ crashes : List Nat, crashes.length < UInt32.size →
    List.Forall₂
      (fun past b => IsGreatest (runLengths past) b.restarts ∧
        (b.verdict = .giveUp ↔ 5 < b.restarts))
      crashes.inits.tail ((new startedAt).history crashes)
  /-- Six crashes in a row within an hour, in whatever order they are dated, end in giving up. -/
  six : ∀ (before six : List Nat) (first : Nat), (before ++ six).length < UInt32.size →
    six.length = 6 → (∀ time ∈ six, first ≤ time ∧ time ≤ first + window) →
    (after startedAt (before ++ six)).verdict = .giveUp
  /-- The verdict is the same after all crashes that end in the same six, and whenever the other
  server was started. -/
  last_six : ∀ (startedAt' : Nat) (crashes crashes' : List Nat),
    crashes.length < UInt32.size → crashes'.length < UInt32.size →
    crashes.rtake 6 = crashes'.rtake 6 →
    (after startedAt crashes).verdict = (after startedAt' crashes').verdict
  /-- Whoever stops at the first verdict to give up never counts more than six, so that the counter
  does not overflow however many crashes there are. -/
  stopped : ∀ crashes, Tolerated startedAt crashes →
    IsGreatest (runLengths crashes) (after startedAt crashes).restarts ∧
      (after startedAt crashes).restarts ≤ 6
  /-- The supervision of a server stops there: it records the crashes from the first on, starts the
  server again after each of them but the last, and gives it up exactly if that is the verdict on
  the last.  Otherwise it has recorded all crashes there were. -/
  supervised : ∀ attempts, ∃ recorded, recorded <+: Attempt.crashTimes attempts ∧
    ((new startedAt).supervise attempts).breaker = after startedAt recorded ∧
    IsGreatest (runLengths recorded) (after startedAt recorded).restarts ∧
    (after startedAt recorded).restarts ≤ 6 ∧ Tolerated startedAt recorded ∧
    Supervised (after startedAt recorded) attempts recorded ((new startedAt).supervise attempts)

theorem counted_of_length (startedAt : Nat) (hlength : crashes.length < UInt32.size) :
    List.Forall₂
      (fun past b => IsGreatest (runLengths past) b.restarts ∧
        (b.verdict = .giveUp ↔ 5 < b.restarts))
      crashes.inits.tail ((new startedAt).history crashes) := by
  rw [history_eq_map, List.forall₂_map_right_iff, List.forall₂_same]
  intro past hpast
  have hinitial : past <+: crashes := (List.mem_inits _ _).mp (List.mem_of_mem_tail hpast)
  exact ⟨isGreatest_restarts_of_length (hinitial.length_le.trans_lt hlength), verdict_eq_giveUp_iff⟩

/-- **A breaker is a detector of runs of crashes.** -/
theorem detectsRuns (startedAt : Nat) : DetectsRuns startedAt where
  counted _ hlength := counted_of_length startedAt hlength
  six _ _ _ hlength hsix hhour := verdict_after_of_six hlength hsix hhour
  last_six startedAt' crashes crashes' hlength hlength' hsame := by
    apply Verdict.eq_of_giveUp_iff
    rw [verdict_after_eq_giveUp_iff hlength, verdict_after_eq_giveUp_iff hlength', hsame]
  stopped _ h := ⟨h.isGreatest_restarts, h.restarts_le⟩
  supervised attempts := by
    have hnone : Tolerated startedAt [] := fun past hpast hne =>
      absurd (List.prefix_nil.mp hpast) hne
    obtain ⟨recorded, hinitial, h, hsupervised⟩ := exists_supervised attempts hnone rfl
    exact ⟨recorded, hinitial, hsupervised.breaker, h.isGreatest_restarts, h.restarts_le, h,
      hsupervised⟩

/-- A pause of an hour and a clock that steps back lengthen a run; one nanosecond more ends it. -/
example : ((new 0).history [5, 5 + window, 3, 4 + window]).map restarts = [1, 2, 3, 1] := by decide

end Breaker

end GpuPlugin
