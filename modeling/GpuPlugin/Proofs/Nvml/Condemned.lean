import GpuPlugin.Proofs.Nvml.SetUp
import GpuPlugin.Proofs.Session.Health

/-!
# Proofs/Nvml/Condemned — from the library's answers to broken replicas

The check of a session reports an accelerator for one of two reasons: it is reached while the events
are set up and does not report critical errors, or everything was set up and an event counts that is
its own or nobody's (`Condemns`).  A replica is broken after the check exactly if there is such a
reason for its device, and the check fails exactly where the library does (`CheckFails`).
-/

namespace GpuPlugin.Nvml

/-! ## Events that count -/

/-- **An event that counts**: it was waited for with success, it is a critical error, and its number
is unknown or not overlooked. -/
structure Event.Counts (e : Event) (checks : Checks) : Prop where
  waited : e.waitFault = none
  kind : isCriticalMask e.kind = true
  xid : Xid.ofNumber e.xid = .unknown ∨ e.xid ∉ checks.skipped

theorem Checks.isCritical_iff {checks : Checks} {n : Nat} :
    checks.isCritical (Xid.ofNumber n) = true ↔
      Xid.ofNumber n = .unknown ∨ n ∉ checks.skipped := by
  rw [Xid.ofNumber]
  split_ifs
  · simp [isCritical]
  · simp [isCritical, skips]

theorem Event.counts_iff {e : Event} {checks : Checks} :
    e.Counts checks ↔ (e.waitFault.isSome || !isCriticalMask e.kind ||
      !checks.isCritical (Xid.ofNumber e.xid)) = false := by
  simp only [Bool.or_eq_false_iff, Option.isSome_eq_false_iff, Option.isNone_iff_eq_none,
    Bool.not_eq_false', Checks.isCritical_iff]
  exact ⟨fun h => ⟨⟨h.waited, h.kind⟩, h.xid⟩, fun h => ⟨h.1.1, h.1.2, h.2⟩⟩

namespace Library

variable {lib : Library} {checks : Checks} {devices : List Device} {events : List Event}
  {id : String} {e : Error} {n : Nat} {d : Device} {g : Gpu}

/-- The event cannot be tied to an accelerator. -/
def IsUntied (lib : Library) (event : Event) : Prop := ∃ f, lib.eventSource event = .error f

/-- **An event that counts is reported for its accelerator, or for all devices.** -/
theorem mem_reportsOf {event : Event} :
    id ∈ lib.reportsOf checks devices event ↔
      event.Counts checks ∧ (lib.eventSource event = .ok id ∨
        (lib.IsUntied event ∧ id ∈ devices.map (·.id))) := by
  rw [reportsOf, Event.counts_iff]
  split
  next hidle => simp [hidle]
  next hcounts =>
    rw [Bool.not_eq_true] at hcounts
    rw [hcounts]
    cases hsource : lib.eventSource event with
    | ok uuid => simp [IsUntied, hsource, eq_comm]
    | error f => simp [IsUntied, hsource]

/-! ## Positions of accelerators -/

/-- All accelerators before a position can be set up. -/
def SetsUpBefore (lib : Library) (n : Nat) : Prop :=
  ∀ m < n, ∀ g, lib.gpus[m]? = some g → g.IsSetUp

theorem reaches_iff (hlisted : lib.devices = .ok devices)
    (hdistinct : (devices.map (·.id)).Nodup) (hn : n ≤ lib.count) :
    lib.Reaches devices n ↔ lib.SetsUpBefore n := by
  refine forall₂_congr fun m hm => ?_
  obtain ⟨d, hd⟩ := exists_device_of_gpu hlisted (Nat.lt_of_lt_of_le hm hn)
  obtain ⟨g, hg, hid, -⟩ := exists_gpu_of_devices hlisted hd
  have hwatch := exists_watch_eq_ok_iff (gpuNamed_of_devices hlisted hdistinct hd hg)
  constructor
  · intro h g' hg'
    obtain rfl := Option.some.inj (hg.symm.trans hg')
    exact hwatch.mp (hid ▸ h d hd)
  · intro h d' hd'
    obtain rfl := Option.some.inj (hd.symm.trans hd')
    exact hid ▸ hwatch.mpr (h g hg)

/-- Some accelerator that is listed and reached has a property. -/
def FindsSome (lib : Library) (Q : Gpu → Prop) : Prop :=
  ∃ n < lib.count, ∃ g, lib.gpus[n]? = some g ∧ lib.SetsUpBefore n ∧ Q g

/-- **What is said of devices that are reached is said of accelerators.** -/
theorem reachesSome_iff (hlisted : lib.devices = .ok devices)
    (hdistinct : (devices.map (·.id)).Nodup) {P : Device → Prop} {Q : Gpu → Prop}
    (hPQ : ∀ {d g}, d.id = g.uuid → lib.gpuNamed g.uuid = answer g.lookupFault g → (P d ↔ Q g)) :
    lib.ReachesSome devices P ↔ lib.FindsSome Q := by
  constructor
  · rintro ⟨n, d, hd, hreach, hP⟩
    have hn : n < lib.count := length_of_devices hlisted ▸ (List.getElem?_eq_some_iff.mp hd).1
    obtain ⟨g, hg, hid, -⟩ := exists_gpu_of_devices hlisted hd
    have hnamed := gpuNamed_of_devices hlisted hdistinct hd hg
    exact ⟨n, hn, g, hg, (reaches_iff hlisted hdistinct (Nat.le_of_lt hn)).mp hreach,
      (hPQ hid hnamed).mp hP⟩
  · rintro ⟨n, hn, g, hg, hbefore, hQ⟩
    obtain ⟨d, hd⟩ := exists_device_of_gpu hlisted hn
    have hid := id_eq_uuid_of_devices hlisted hd hg
    have hnamed := gpuNamed_of_devices hlisted hdistinct hd hg
    exact ⟨n, d, hd, (reaches_iff hlisted hdistinct (Nat.le_of_lt hn)).mpr hbefore,
      (hPQ hid hnamed).mpr hQ⟩

/-! ## The whole check -/

/-- **Why an accelerator is reported.** -/
inductive Condemns (lib : Library) (checks : Checks) (events : List Event) (n : Nat) (g : Gpu) :
    Prop where
  /-- It is reached while the events are set up, and does not report critical errors. -/
  | blind (hset : lib.eventSetFault = none) (hbefore : lib.SetsUpBefore n)
    (hfound : g.lookupFault = none) (hblind : g.IsBlind)
  /-- All events are set up, and one that counts is its own or nobody's. -/
  | struck (hset : lib.eventSetFault = none) (hall : lib.SetsUpBefore lib.count) (event : Event)
    (hevent : event ∈ events) (hcounts : event.Counts checks)
    (hsource : lib.eventSource event = .ok g.uuid ∨ lib.IsUntied event)

/-- **How the check fails.** -/
inductive CheckFails (lib : Library) : Error → Prop where
  | eventSet {f : Fault} (hset : lib.eventSetFault = some f) : CheckFails lib ⟨none, f⟩
  | setUp {n : Nat} {g : Gpu} {e : Error} (hset : lib.eventSetFault = none) (hn : n < lib.count)
    (hg : lib.gpus[n]? = some g) (hbefore : lib.SetsUpBefore n) (hfails : g.SetUpFails e) :
    CheckFails lib e

/-- At its own position a device is reported if it is reached and blind. -/
theorem mem_setUp_of_devices (hlisted : lib.devices = .ok devices)
    (hdistinct : (devices.map (·.id)).Nodup) (hd : devices[n]? = some d)
    (hg : lib.gpus[n]? = some g) :
    d.id ∈ (lib.setUp devices).reported ↔
      lib.SetsUpBefore n ∧ g.lookupFault = none ∧ g.IsBlind := by
  have hfinds : lib.ReachesSome devices (fun b => b.id = d.id ∧ lib.watch b.id = .ok false) ↔
      lib.FindsSome fun g' => g'.uuid = d.id ∧ g'.lookupFault = none ∧ g'.IsBlind := by
    refine reachesSome_iff hlisted hdistinct fun hid hnamed => ?_
    rw [hid, watch_eq_false_iff hnamed]
  rw [mem_reported_setUp, hfinds]
  constructor
  · rintro ⟨m, hm, g', hg', hbefore, hsame, hblind⟩
    -- Only one position has this name.
    obtain ⟨b, hb⟩ := exists_device_of_gpu hlisted hm
    have hbd : b.id = d.id := (id_eq_uuid_of_devices hlisted hb hg').trans hsame
    obtain rfl := position_eq_of_id_eq hdistinct hb hd hbd
    obtain rfl := Option.some.inj (hg.symm.trans hg')
    exact ⟨hbefore, hblind⟩
  · rintro ⟨hbefore, hblind⟩
    have hn : n < lib.count := length_of_devices hlisted ▸ (List.getElem?_eq_some_iff.mp hd).1
    exact ⟨n, hn, g, hg, hbefore, (id_eq_uuid_of_devices hlisted hd hg).symm, hblind⟩

theorem outcome_setUp_of_devices (hlisted : lib.devices = .ok devices)
    (hdistinct : (devices.map (·.id)).Nodup) :
    (lib.setUp devices).outcome = .error e ↔ lib.FindsSome fun g => g.SetUpFails e := by
  rw [outcome_setUp_eq_error_iff]
  refine reachesSome_iff hlisted hdistinct fun hid hnamed => ?_
  rw [hid, watch_eq_error_iff hnamed]

theorem setsUpBefore_count_iff (hlisted : lib.devices = .ok devices)
    (hdistinct : (devices.map (·.id)).Nodup) :
    lib.SetsUpBefore lib.count ↔ (lib.setUp devices).outcome = .ok () := by
  rw [outcome_setUp_eq_ok_iff, length_of_devices hlisted,
    reaches_iff hlisted hdistinct (Nat.le_refl _)]

theorem checkFails_iff :
    lib.CheckFails e ↔ (∃ f, lib.eventSetFault = some f ∧ e = ⟨none, f⟩) ∨
      (lib.eventSetFault = none ∧ lib.FindsSome fun g => g.SetUpFails e) := by
  constructor
  · rintro (⟨hset⟩ | ⟨hset, hn, hg, hbefore, hfails⟩)
    · exact Or.inl ⟨_, hset, rfl⟩
    · exact Or.inr ⟨hset, _, hn, _, hg, hbefore, hfails⟩
  · rintro (⟨f, hset, rfl⟩ | ⟨hset, n, hn, g, hg, hbefore, hfails⟩)
    · exact .eventSet hset
    · exact .setUp hset hn hg hbefore hfails

/-- **The check fails where the library does**, with the error of the first call that fails. -/
theorem outcome_checkHealth_eq_error_iff (hlisted : lib.devices = .ok devices)
    (hdistinct : (devices.map (·.id)).Nodup) (stopped : Bool) :
    (lib.checkHealth checks devices stopped events).outcome = .error e ↔
      checks.disabled = false ∧ lib.CheckFails e := by
  rw [checkHealth, checkFails_iff, ← outcome_setUp_of_devices hlisted hdistinct]
  cases hdisabled : checks.disabled with
  | true => simp
  | false =>
    cases hset : lib.eventSetFault with
    | some f => simp [answer, calling, eq_comm]
    | none => cases hstart : (lib.setUp devices).outcome <;> simp [answer, calling, hstart]

theorem condemns_iff :
    lib.Condemns checks events n g ↔ lib.eventSetFault = none ∧
      ((lib.SetsUpBefore n ∧ g.lookupFault = none ∧ g.IsBlind) ∨
        (lib.SetsUpBefore lib.count ∧ ∃ event ∈ events, event.Counts checks ∧
          (lib.eventSource event = .ok g.uuid ∨ lib.IsUntied event))) := by
  constructor
  · rintro (⟨hset, hbefore, hfound, hblind⟩ | ⟨hset, hall, event, hevent, hcounts, hsource⟩)
    · exact ⟨hset, Or.inl ⟨hbefore, hfound, hblind⟩⟩
    · exact ⟨hset, Or.inr ⟨hall, event, hevent, hcounts, hsource⟩⟩
  · rintro ⟨hset, ⟨hbefore, hfound, hblind⟩ | ⟨hall, event, hevent, hcounts, hsource⟩⟩
    · exact .blind hset hbefore hfound hblind
    · exact .struck hset hall event hevent hcounts hsource

/-- **A device is reported if there is a reason for it.** -/
theorem mem_reported_checkHealth (hlisted : lib.devices = .ok devices)
    (hdistinct : (devices.map (·.id)).Nodup) (hd : devices[n]? = some d)
    (hg : lib.gpus[n]? = some g) :
    d.id ∈ (lib.checkHealth checks devices false events).reported ↔
      checks.disabled = false ∧ lib.Condemns checks events n g := by
  have hid : d.id = g.uuid := id_eq_uuid_of_devices hlisted hd hg
  have hown : g.uuid ∈ devices.map (·.id) := hid ▸ List.mem_map_of_mem (List.mem_of_getElem? hd)
  rw [condemns_iff, ← mem_setUp_of_devices hlisted hdistinct hd hg,
    setsUpBefore_count_iff hlisted hdistinct, checkHealth, hid]
  cases hdisabled : checks.disabled with
  | true => simp
  | false =>
    cases hset : lib.eventSetFault with
    | some f => simp [answer, calling]
    | none =>
      cases hstart : (lib.setUp devices).outcome with
      | error e => simp [answer, calling, hstart]
      | ok _ => simp [answer, calling, hstart, List.mem_flatMap, mem_reportsOf, hown]

/-- **A replica is broken after the check if there is a reason for its device.**  The snapshot of a
session whose check has run through all its events is the advertised list, in which exactly those
replicas are broken; and the check fails exactly where the library does. -/
theorem broken_iff_condemned (number : Nat) (settings : Settings) (policy : Option Policy)
    (options : Options) (replication : Replication) (value : Option String)
    (events : List Event) (hlisted : lib.devices = .ok devices)
    (hdistinct : (devices.map (·.id)).Nodup) :
    let checks := Checks.read value
    let inventory : Inventory := ⟨devices, replication⟩
    let run := lib.checkHealth checks devices false events
    let begun := Session.new number settings policy options inventory
    List.Forall₂
      (fun o r => r = { Replica.ofDevice o.1 o.2 with health := r.health } ∧
        (r.health = .unhealthy ↔ checks.disabled = false ∧
          ∃ n g, devices[n]? = some o.1 ∧ lib.gpus[n]? = some g ∧
            lib.Condemns checks events n g))
      inventory.origins (begun.after run.reported).snapshot ∧
    ∀ e, run.outcome = .error e ↔ checks.disabled = false ∧ lib.CheckFails e := by
  intro checks inventory run begun
  refine ⟨?_, fun e => outcome_checkHealth_eq_error_iff hlisted hdistinct false⟩
  rw [Session.snapshot_new_after, List.forall₂_map_right_iff, List.forall₂_same]
  rintro ⟨d, i⟩ horigin
  refine ⟨Session.marked_eq run.reported _, ?_⟩
  have hmem : d ∈ devices := Inventory.mem_devices_of_mem_origins horigin
  obtain ⟨n, hd⟩ := List.mem_iff_getElem?.mp hmem
  obtain ⟨g, hg, -, hhealthy⟩ := exists_gpu_of_devices hlisted hd
  have hreported : d.id ∈ run.reported ↔
      checks.disabled = false ∧ lib.Condemns checks events n g :=
    mem_reported_checkHealth hlisted hdistinct hd hg
  have hbroken : d.health = .unhealthy ∨ d.id ∈ run.reported ↔ d.id ∈ run.reported := by
    simp [hhealthy]
  rw [Session.health_marked_ofDevice, hbroken, hreported]
  refine and_congr_right fun _ => ⟨fun hcondemned => ⟨n, g, hd, hg, hcondemned⟩, ?_⟩
  rintro ⟨m, g', hd', hg', hcondemned⟩
  obtain rfl := position_eq_of_id_eq hdistinct hd' hd rfl
  obtain rfl := Option.some.inj (hg.symm.trans hg')
  exact hcondemned

/-- Three accelerators, the second of which does not report critical errors. -/
def ofThree : Library where
  count := 3
  gpus := [{ uuid := "GPU-a" }, { uuid := "GPU-b", eventTypes := 0 }, { uuid := "GPU-c" }]

/-- An overlooked error of the first and another error of the third break the second and the third.
-/
theorem broken_iff_condemned_of_three :
    let a : Device := ⟨"GPU-a", "0", 0, ["/dev/nvidia0"], .healthy⟩
    let b : Device := ⟨"GPU-b", "1", 0, ["/dev/nvidia0"], .healthy⟩
    let c : Device := ⟨"GPU-c", "2", 0, ["/dev/nvidia0"], .healthy⟩
    let events : List Event := [{ gpu := some 0, xid := 48 }, { gpu := some 2, xid := 79 }]
    let IsCondemned (d : Device) : Prop :=
      ∃ n g, [a, b, c][n]? = some d ∧ ofThree.gpus[n]? = some g ∧
        ofThree.Condemns (.read (some " 48")) events n g
    ofThree.devices = .ok [a, b, c] ∧ ([a, b, c].map (·.id)).Nodup ∧
      ¬ IsCondemned a ∧ IsCondemned b ∧ IsCondemned c := by
  intro a b c events IsCondemned
  have hlisted : ofThree.devices = .ok [a, b, c] := by decide
  have hdistinct : ([a, b, c].map (·.id)).Nodup := by decide
  have hbroken := (broken_iff_condemned 1 {} none ⟨false, false⟩ (.fixed 1) (some " 48") events
    hlisted hdistinct).1
  have hsnapshot : ((Session.new 1 {} none ⟨false, false⟩ ⟨[a, b, c], .fixed 1⟩).after
      (ofThree.checkHealth (.read (some " 48")) [a, b, c] false events).reported).snapshot
      = [Replica.ofDevice a 0, (Replica.ofDevice b 0).failed, (Replica.ofDevice c 0).failed] := by
    decide
  rw [hsnapshot] at hbroken
  obtain _ | ⟨⟨-, ha⟩, _ | ⟨⟨-, hb⟩, _ | ⟨⟨-, hc⟩, -⟩⟩⟩ := hbroken
  refine ⟨hlisted, hdistinct, fun hcondemned => ?_, (hb.mp rfl).2, (hc.mp rfl).2⟩
  exact absurd (ha.mpr ⟨by decide, hcondemned⟩) (by decide)

end Library

end GpuPlugin.Nvml
