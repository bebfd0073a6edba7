import GpuPlugin.Proofs.Restarts.Deeds
import Mathlib.Data.List.Chain

/-!
# Proofs/Restarts/Rounds — what a keeper does with its plugin, over every run

A round is a stop and then a start.  The first begins at once; each later one begins when a request
is taken from the mailbox, or when it is time to try again after a start that failed.  A keeper that
has been dismissed ends the round it is in, and stops its plugin once more.

`Follows` says which deed may come after which, and `Paced` what the latest deed tells of the
keeper.  Every action keeps it, so it holds of every run of a keeper that has just begun (`Driven`).
-/

namespace GpuPlugin.Keeper

/-- **A keeper that has just begun**: its first round is still before it. -/
def begin (p : Plugin) (w : World) (requests : Nat) (isOpen isDismissed : Bool) : Keeper :=
  { plugin := p, world := w, requests, isOpen, isDismissed }

/-- The deeds of a keeper that has just begun: its first round, and the deeds of its run. -/
def history (first : Keeper) (actions : List Action) : List Deed :=
  .round .first :: first.deeds actions

/-! ## Which deed comes after which -/

/-- **What a keeper may do next.**  Nothing has the first round after it, and a retry comes only
after a start that failed. -/
inductive Follows : Deed → Deed → Prop where
  | stop (cause : Cause) (result : Except PluginError Unit) :
    Follows (.round cause) (.stopped result)
  | start (result result' : Except PluginError Unit) : Follows (.stopped result) (.started result')
  | request (result : Except PluginError Unit) : Follows (.started result) (.round .request)
  | retry (e : PluginError) : Follows (.started (.error e)) (.round .retry)
  | leave (result : Except PluginError Unit) : Follows (.started result) .leaving
  | finish (result : Except PluginError Unit) : Follows .leaving (.ended result)

/-- The phase a deed leaves a keeper in. -/
def Deed.phase : Deed → Phase
  | .round _ => .stopping
  | .stopped _ => .starting
  | .started _ => .waiting
  | .leaving => .leaving
  | .ended result => .ended result

namespace Deed

/-! The phase tells which deed it was. -/

variable {d : Deed}

theorem exists_of_phase_stopping (hphase : d.phase = .stopping) : ∃ cause, d = .round cause := by
  cases d with
  | round cause => exact ⟨cause, rfl⟩
  | _ => cases hphase

theorem exists_of_phase_starting (hphase : d.phase = .starting) :
    ∃ result, d = .stopped result := by
  cases d with
  | stopped result => exact ⟨result, rfl⟩
  | _ => cases hphase

theorem exists_of_phase_waiting (hphase : d.phase = .waiting) : ∃ result, d = .started result := by
  cases d with
  | started result => exact ⟨result, rfl⟩
  | _ => cases hphase

theorem eq_of_phase_leaving (hphase : d.phase = .leaving) : d = .leaving := by
  cases d with
  | leaving => rfl
  | _ => cases hphase

theorem eq_of_phase_ended {result : Except PluginError Unit} (hphase : d.phase = .ended result) :
    d = .ended result := by
  cases d with
  | ended => rw [Phase.ended.inj hphase]
  | _ => cases hphase

end Deed

/-- The last deed that has stopped or started the plugin. -/
def lastTurn (past : List Deed) : Option Deed := (past.filter Deed.isTurn).getLast?

/-- Whether a round has begun whose start is still to come. -/
def Phase.isTurning : Phase → Bool
  | .stopping | .starting => true
  | _ => false

section Past

variable {past : List Deed} {d : Deed}

theorem lastTurn_snoc_of_turn (hturn : d.isTurn = true) : lastTurn (past ++ [d]) = some d := by
  rw [lastTurn, List.filter_append, List.filter_cons_of_pos hturn, List.filter_nil]
  exact List.getLast?_concat

theorem lastTurn_snoc_of_not_turn (hturn : d.isTurn = false) :
    lastTurn (past ++ [d]) = lastTurn past := by
  rw [lastTurn, List.filter_append, List.filter_cons_of_neg (Bool.eq_false_iff.mp hturn),
    List.filter_nil, List.append_nil, lastTurn]

theorem lastTurn_of_getLast? (hlast : past.getLast? = some d) (hturn : d.isTurn = true) :
    lastTurn past = some d := by
  obtain ⟨before, rfl⟩ := List.getLast?_eq_some_iff.mp hlast
  exact lastTurn_snoc_of_turn hturn

end Past

/-! ## What one deed changes -/

namespace Effect

variable {k next : Keeper} {a : Action} {d : Deed} {deeds : List Deed}

/-- Nobody does two deeds in one action. -/
theorem cases (heffect : k.Effect a deeds next) :
    (deeds = [] ∧ k.Spared a next) ∨ ∃ d, deeds = [d] := by
  cases heffect with
  | quiet hspared => exact Or.inl ⟨rfl, hspared⟩
  | _ => exact Or.inr ⟨_, rfl⟩

theorem phase (heffect : k.Effect a [d] next) : next.phase = d.phase := by
  cases heffect <;> rfl

theorem plugin (heffect : k.Effect a [d] next) (hturn : d.isTurn = false) :
    next.plugin = k.plugin := by
  cases heffect with
  | stopped | started | ended => cases hturn
  | _ => rfl

theorem starts (heffect : k.Effect a [d] next) :
    next.starts + next.phase.isTurning.toNat
      = k.starts + k.phase.isTurning.toNat + d.isRound.toNat := by
  cases heffect with
  | stopped hphase | started hphase | summoned hphase
  | retried hphase | left hphase | ended hphase =>
    rw [hphase]
    rfl

theorem isDismissed_of_leaving (heffect : k.Effect a [.leaving] next) :
    next.isDismissed = true := by
  cases heffect with
  | left hphase hdismissed => exact hdismissed

end Effect

/-! ## What the deeds so far tell of a keeper -/

/-- **The deeds of a keeper up to now, and what they tell of it.** -/
structure Paced (k : Keeper) (past : List Deed) : Prop where
  chain : past.IsChain Follows
  /-- The latest deed tells what the keeper is about to do. -/
  latest : ∃ d, past.getLast? = some d ∧ k.phase = d.phase
  /-- The plugin serves if what was last done with it was a start that succeeded. -/
  serving : ∀ turn, lastTurn past = some turn →
    (k.plugin.isServing = true ↔ turn = .started (.ok ()))
  /-- Every round has one start. -/
  starts : k.starts + k.phase.isTurning.toNat = past.countP Deed.isRound
  leaving : Deed.leaving ∈ past → k.isDismissed = true

theorem paced_begin (p : Plugin) (w : World) (requests : Nat) (isOpen isDismissed : Bool) :
    (begin p w requests isOpen isDismissed).Paced [.round .first] where
  chain := List.isChain_singleton _
  latest := ⟨_, rfl, rfl⟩
  serving turn hturn := by cases hturn
  starts := rfl
  leaving hmem := by simp at hmem

namespace Paced

variable {k next : Keeper} {past : List Deed} {d : Deed} {a : Action}

/-- A plugin that is about to be started has just been stopped. -/
theorem isServing_of_starting (hpaced : k.Paced past) (hphase : k.phase = .starting) :
    k.plugin.isServing = false := by
  obtain ⟨d, hlast, hd⟩ := hpaced.latest
  obtain ⟨result, rfl⟩ := Deed.exists_of_phase_starting (hd.symm.trans hphase)
  have hserving := hpaced.serving _ (lastTurn_of_getLast? hlast rfl)
  rw [Bool.eq_false_iff, Ne, hserving]
  exact Deed.noConfusion

/-- A keeper that waits has tried a start, which failed if the plugin does not serve. -/
theorem started_of_waiting (hpaced : k.Paced past) (hphase : k.phase = .waiting) :
    ∃ result, past.getLast? = some (.started result) ∧
      (k.plugin.isServing = true ↔ result = .ok ()) := by
  obtain ⟨d, hlast, hd⟩ := hpaced.latest
  obtain ⟨result, rfl⟩ := Deed.exists_of_phase_waiting (hd.symm.trans hphase)
  have hserving := hpaced.serving _ (lastTurn_of_getLast? hlast rfl)
  rw [Deed.started.injEq] at hserving
  exact ⟨result, hlast, hserving⟩

/-- A keeper that is over has stopped the plugin. -/
theorem ended (hpaced : k.Paced past) (result : Except PluginError Unit)
    (hphase : k.phase = .ended result) :
    k.plugin.isServing = false ∧ past.getLast? = some (.ended result) := by
  obtain ⟨d, hlast, hd⟩ := hpaced.latest
  obtain rfl := Deed.eq_of_phase_ended (hd.symm.trans hphase)
  have hserving := hpaced.serving _ (lastTurn_of_getLast? hlast rfl)
  rw [Bool.eq_false_iff, Ne, hserving]
  exact ⟨Deed.noConfusion, hlast⟩

/-- **A keeper does only what may come next.** -/
theorem follows (hpaced : k.Paced past) (heffect : k.Effect a [d] next) {latest : Deed}
    (hlast : past.getLast? = some latest) : Follows latest d := by
  obtain ⟨latest', hlast', hd⟩ := hpaced.latest
  obtain rfl := Option.some.inj (hlast.symm.trans hlast')
  cases heffect with
  | stopped hphase =>
    obtain ⟨cause, rfl⟩ := Deed.exists_of_phase_stopping (hd.symm.trans hphase)
    exact .stop cause _
  | started hphase =>
    obtain ⟨result, rfl⟩ := Deed.exists_of_phase_starting (hd.symm.trans hphase)
    exact .start result _
  | summoned hphase =>
    obtain ⟨result, rfl⟩ := Deed.exists_of_phase_waiting (hd.symm.trans hphase)
    exact .request result
  | retried hphase hthere hnone hidle =>
    obtain ⟨result, hstarted, hserving⟩ := hpaced.started_of_waiting hphase
    obtain rfl := Option.some.inj (hlast.symm.trans hstarted)
    cases result with
    | error e => exact .retry e
    | ok => exact absurd (hserving.mpr rfl) (Bool.eq_false_iff.mp hidle)
  | left hphase =>
    obtain ⟨result, rfl⟩ := Deed.exists_of_phase_waiting (hd.symm.trans hphase)
    exact .leave result
  | ended hphase =>
    obtain rfl := Deed.eq_of_phase_leaving (hd.symm.trans hphase)
    exact .finish _

theorem chain_snoc (hpaced : k.Paced past) (heffect : k.Effect a [d] next) :
    (past ++ [d]).IsChain Follows := by
  refine List.isChain_append.mpr ⟨hpaced.chain, List.isChain_singleton d, ?_⟩
  intro latest hlast d' hd'
  obtain rfl := Option.some.inj hd'
  exact hpaced.follows heffect hlast

/-- **Only a start that succeeds makes a plugin serve.** -/
theorem isServing_of_turn (hpaced : k.Paced past) (heffect : k.Effect a [d] next)
    (hturn : d.isTurn = true) : next.plugin.isServing = true ↔ d = .started (.ok ()) := by
  cases heffect with
  | stopped | ended => simp [after]
  | started hphase =>
    have hidle := hpaced.isServing_of_starting hphase
    rw [after, Plugin.start_of_idle hidle, Deed.started.injEq]
    exact Plugin.isServing_startIdle hidle k.world
  | _ => cases hturn

theorem snoc (hpaced : k.Paced past) (heffect : k.Effect a [d] next) :
    next.Paced (past ++ [d]) where
  chain := hpaced.chain_snoc heffect
  latest := ⟨d, List.getLast?_concat, heffect.phase⟩
  serving turn hlast := by
    cases hturn : d.isTurn with
    | true =>
      rw [lastTurn_snoc_of_turn hturn] at hlast
      obtain rfl := Option.some.inj hlast
      exact hpaced.isServing_of_turn heffect hturn
    | false =>
      rw [lastTurn_snoc_of_not_turn hturn] at hlast
      rw [heffect.plugin hturn]
      exact hpaced.serving turn hlast
  starts := by
    rw [heffect.starts, hpaced.starts, List.countP_append, List.countP_singleton]
    cases d.isRound <;> rfl
  leaving hmem := by
    rcases List.mem_append.mp hmem with hmem | hmem
    · exact heffect.isDismissed (hpaced.leaving hmem)
    · obtain rfl := List.mem_singleton.mp hmem
      exact heffect.isDismissed_of_leaving

theorem spared (hpaced : k.Paced past) (hspared : k.Spared a next) : next.Paced past where
  chain := hpaced.chain
  latest := by
    rw [hspared.phase]
    exact hpaced.latest
  serving := by
    rw [hspared.isServing]
    exact hpaced.serving
  starts := by
    rw [hspared.phase, hspared.starts]
    exact hpaced.starts
  leaving hmem := hspared.isDismissed (hpaced.leaving hmem)

/-- **Every action keeps the pace.** -/
theorem act (hpaced : k.Paced past) (hact : k.act a = some next) :
    next.Paced (past ++ k.deed a) := by
  have heffect := effect_of_act hact
  rcases heffect.cases with ⟨hnone, hspared⟩ | ⟨d, hd⟩
  · rw [hnone, List.append_nil]
    exact hpaced.spared hspared
  · rw [hd] at heffect ⊢
    exact hpaced.snoc heffect

end Paced

theorem paced_of_run {p : Plugin} {w : World} {requests : Nat} {isOpen isDismissed : Bool}
    {actions : List Action} {k : Keeper}
    (hrun : (begin p w requests isOpen isDismissed).run actions = some k) :
    k.Paced (history (begin p w requests isOpen isDismissed) actions) :=
  Runs.kept_of_run_log Paced.act hrun (paced_begin p w requests isOpen isDismissed)

/-! ## A dismissed keeper -/

variable {k next t : Keeper} {a : Action} {actions : List Action}

/-- **A dismissed keeper begins no round any more.** -/
theorem isRound_of_run_of_dismissed (hrun : k.run actions = some next)
    (hdismissed : k.isDismissed = true) : ∀ d ∈ k.deeds actions, d.isRound = false := by
  induction actions generalizing k with
  | nil => nofun
  | cons a actions ih =>
    obtain ⟨t, hact, hrest⟩ := Runs.run_cons.mp hrun
    intro d hmem
    rw [deeds_cons hact] at hmem
    rcases List.mem_append.mp hmem with hmem | hmem
    · exact (effect_of_act hact).isRound_of_dismissed hdismissed d hmem
    · exact ih hrest ((effect_of_act hact).isDismissed hdismissed) d hmem

/-- **A dismissed keeper that is left to itself comes to its end.** -/
theorem ended_settle (hdismissed : k.isDismissed = true) :
    ∃ result, k.settle.phase = .ended result := by
  have hkept : k.settle.isDismissed = true := by
    fun_induction settle k with
    | case1 k hstep => exact hdismissed
    | case2 k next hstep ih => exact ih ((effect_of_step hstep).isDismissed hdismissed)
  rcases rests_of_step_eq_none (step_settle k) with ⟨-, -, hthere⟩ | hended
  · exact absurd hkept (Bool.eq_false_iff.mp hthere)
  · exact hended

/-! ## Requests -/

/-- A round for a request takes one out of the mailbox. -/
theorem requests_of_act (hact : k.act a = some next) :
    next.requests + (k.deed a).countP Deed.isSummons ≤ k.requests + a.isRequest.toNat := by
  have heffect := effect_of_act hact
  generalize k.deed a = deeds at heffect ⊢
  cases heffect with
  | quiet hspared => exact hspared.asked
  | summoned hphase hthere hsome =>
    change k.requests - 1 + 1 ≤ _
    omega
  | _ => exact Nat.le_add_right _ _

theorem requests_of_run (hrun : k.run actions = some next) :
    next.requests + (k.deeds actions).countP Deed.isSummons
      ≤ k.requests + actions.countP Action.isRequest := by
  induction actions generalizing k with
  | nil =>
    obtain rfl := Runs.eq_of_run_nil hrun
    exact Nat.le_refl _
  | cons a actions ih =>
    obtain ⟨t, hact, hrest⟩ := Runs.run_cons.mp hrun
    have hhead := requests_of_act hact
    have htail := ih hrest
    rw [deeds_cons hact, List.countP_append, List.countP_cons]
    cases ha : a.isRequest <;> simp [ha] at hhead ⊢ <;> omega

/-! ## Every run -/

/-- **What ends a wait**: a dismissal, a request, which is taken, or a retry if the plugin does not
serve.  Nothing else touches the plugin. -/
inductive Waited (k next : Keeper) : List Deed → Prop where
  | on (hphase : next.phase = .waiting) (hserving : next.plugin.isServing = k.plugin.isServing) :
    Waited k next []
  | dismissed (hdismissed : k.isDismissed = true) : Waited k next [.leaving]
  | asked (hrequests : next.requests + 1 = k.requests) : Waited k next [.round .request]
  | retried (hidle : k.plugin.isServing = false) : Waited k next [.round .retry]

theorem waited_of_act (hphase : k.phase = .waiting) (hact : k.act a = some next) :
    k.Waited next (k.deed a) := by
  have heffect := effect_of_act hact
  generalize k.deed a = deeds at heffect ⊢
  cases heffect with
  | quiet hspared => exact .on (hspared.phase.trans hphase) hspared.isServing
  | left _ hdismissed => exact .dismissed hdismissed
  | summoned _ _ hsome => exact .asked (Nat.sub_add_cancel (Nat.pos_of_ne_zero hsome))
  | retried _ _ _ hidle => exact .retried hidle
  | stopped h | started h | ended h => cases hphase.symm.trans h

/-- **What a run of a keeper that has just begun comes to.** -/
structure Driven (first : Keeper) (actions : List Action) (k : Keeper) : Prop where
  /-- Every start comes after a stop, and every stop after the beginning of a round or the leave of
  the keeper.  A retry comes after a start that failed. -/
  chain : (history first actions).IsChain Follows
  /-- There is no session left when the next one is about to begin. -/
  apart : k.phase = .starting → k.plugin.isServing = false
  /-- The plugin serves if what was last done with it was a start that succeeded. -/
  serving : ∀ turn, lastTurn (history first actions) = some turn →
    (k.plugin.isServing = true ↔ turn = .started (.ok ()))
  /-- A keeper that waits begins a round for a request or a retry, and takes its leave if it is
  dismissed.  Until then its plugin serves on, or does not. -/
  waiting : k.phase = .waiting → ∀ a next, k.act a = some next → k.Waited next (k.deed a)
  /-- Each round for a request is paid for with a request. -/
  requests : k.requests + (history first actions).countP Deed.isSummons
    ≤ first.requests + actions.countP Action.isRequest
  /-- Each round tries one start. -/
  starts : k.starts + k.phase.isTurning.toNat = (history first actions).countP Deed.isRound
  /-- No round begins after the keeper's dismissal. -/
  dismissed : ∀ before after t, actions = before ++ after → first.run before = some t →
    t.isDismissed = true → ∀ d ∈ t.deeds after, d.isRound = false
  /-- A keeper that was dismissed from the first has its first round all the same. -/
  once : first.isDismissed = true → k.starts + k.phase.isTurning.toNat = 1
  /-- Only a dismissed keeper takes its leave. -/
  leaving : Deed.leaving ∈ history first actions → k.isDismissed = true
  /-- A keeper that is dismissed comes to its end if nobody else acts. -/
  ends : k.isDismissed = true → ∃ result, k.settle.phase = .ended result
  /-- At the end the plugin does not serve, and the result is that of the last stop. -/
  ended : ∀ result, k.phase = .ended result →
    k.plugin.isServing = false ∧ (history first actions).getLast? = some (.ended result)

/-- **Every run drives its plugin in rounds.** -/
theorem driven_of_run {p : Plugin} {w : World} {requests : Nat} {isOpen isDismissed : Bool}
    (hrun : (begin p w requests isOpen isDismissed).run actions = some k) :
    (begin p w requests isOpen isDismissed).Driven actions k := by
  have hpaced := paced_of_run hrun
  have hdismissed : ∀ before after t, actions = before ++ after →
      (begin p w requests isOpen isDismissed).run before = some t → t.isDismissed = true →
        ∀ d ∈ t.deeds after, d.isRound = false := by
    rintro before after t rfl hbefore
    obtain ⟨t', ht', hafter⟩ := Runs.run_append.mp hrun
    obtain rfl := Option.some.inj (hbefore.symm.trans ht')
    exact isRound_of_run_of_dismissed hafter
  exact {
    chain := hpaced.chain
    apart := hpaced.isServing_of_starting
    serving := hpaced.serving
    waiting := fun hphase a next => waited_of_act hphase
    requests := requests_of_run hrun
    starts := hpaced.starts
    dismissed := hdismissed
    once := by
      intro hfirst
      have hnone := hdismissed [] actions _ rfl rfl hfirst
      rw [hpaced.starts, history, List.countP_cons_of_pos rfl, List.countP_eq_zero.mpr]
      exact fun d hmem => Bool.eq_false_iff.mp (hnone d hmem)
    leaving := hpaced.leaving
    ends := ended_settle
    ended := hpaced.ended }

/-- The devices cannot be listed at first, and a retry succeeds; of two requests one is still in the
mailbox when the keeper is dismissed. -/
theorem driven_of_run_of_retry :
    let p : Plugin :=
      { settings := { socketPath := "gpu.sock", kubeletSocketPath := "kubelet.sock" }
        policy := none }
    let host : Host := ⟨[], [(["kubelet.sock"], .socket .kubelet)]⟩
    let first := begin p { host, devices := none } 0 true false
    let actions : List Action :=
      [.step, .step, .change { host, devices := some [] }, .retry, .step, .step, .request, .request,
        .step, .dismiss, .step, .step, .step, .step]
    ∃ k, first.run actions = some k ∧ k.starts = 3 ∧ k.requests = 1 ∧
      (history first actions).countP Deed.isRound = 3 ∧ k.plugin.isServing = false := by
  intro p host first actions
  have hend : (first.run actions).map (fun k => (k.starts, k.requests, k.phase.distance))
      = some (3, 1, 0) := by decide
  obtain ⟨k, hrun, hk⟩ := Option.map_eq_some_iff.mp hend
  obtain ⟨hstarts, hrequests, hdistance⟩ :
      k.starts = 3 ∧ k.requests = 1 ∧ k.phase.distance = 0 := by simpa using hk
  have hdriven := driven_of_run hrun
  have hrounds := hdriven.starts
  cases hphase : k.phase with
  | ended result =>
    rw [hphase, hstarts] at hrounds
    exact ⟨k, hrun, hstarts, hrequests, hrounds.symm, (hdriven.ended result hphase).1⟩
  | _ =>
    rw [hphase] at hdistance
    cases hdistance

end GpuPlugin.Keeper
