import GpuPlugin.Proofs.Inventory.Partition
import GpuPlugin.Proofs.Nvml.Listing

/-!
# Proofs/Nvml/Queries — the queries that a list of devices takes

A list of devices takes one query for their number and then four for each position.  It is made if
all of them are answered, and otherwise the first one that is refused is told, whatever the later
ones would come to (`devices_eq_error_iff`).  Listed devices have their memory in MiB, and replicas
that follow the memory stand for a thousand of these; rounding twice is rounding once
(`enumerated`).
-/

namespace GpuPlugin.Nvml

/-! ## Queries -/

/-- A query of the library that goes into a list of devices. -/
inductive Query where
  | count
  | handle (index : Nat)
  | uuid (index : Nat)
  | memory (index : Nat)
  | minor (index : Nat)
  deriving DecidableEq, Repr

namespace Query

/-- What a query is told to be part of when it fails, where that is told. -/
def attempt : Query → Option Attempt
  | .count => some .count
  | .handle index => some (.getDevice index)
  | .uuid _ | .memory _ | .minor _ => none

/-- The queries for a position, in their order. -/
def about (index : Nat) : List Query :=
  [.handle index, .uuid index, .memory index, .minor index]

end Query

namespace Library

variable {lib : Library} {devices : List Device} {n : Nat} {g : Gpu} {e : Error}

/-- **Why a query fails**, if it does.  There is no handle beyond the accelerators that the library
knows, however many it claims to have. -/
def faultOf (lib : Library) : Query → Option Fault
  | .count => lib.countFault
  | .handle index => (lib.gpus[index]?.map Gpu.handleFault).getD (some .invalidArgument)
  | .uuid index => lib.gpus[index]?.bind Gpu.uuidFault
  | .memory index => lib.gpus[index]?.bind Gpu.memoryFault
  | .minor index => lib.gpus[index]?.bind Gpu.minorFault

/-- **All queries**, in their order: the number of devices, and then position by position. -/
def queries (lib : Library) : List Query :=
  .count :: (List.range lib.count).flatMap Query.about

/-- What is told when a query fails. -/
def refusal (lib : Library) (q : Query) : Option Error :=
  (lib.faultOf q).map fun fault => ⟨q.attempt, fault⟩

theorem refusal_eq_none_iff {q : Query} : lib.refusal q = none ↔ lib.faultOf q = none :=
  Option.map_eq_none_iff

/-! ## One position -/

theorem attempting_answer_bind {α β : Type} (a : Attempt) (fault : Option Fault) (v : α)
    (next : α → Except Error β) :
    attempting a (answer fault v) >>= next = fault.elim (next v) fun f => .error ⟨some a, f⟩ := by
  cases fault <;> rfl

theorem calling_answer_bind {α β : Type} (fault : Option Fault) (v : α)
    (next : α → Except Error β) :
    calling (answer fault v) >>= next = fault.elim (next v) fun f => .error ⟨none, f⟩ := by
  cases fault <;> rfl

/-- **An accelerator is listed if the four queries for its position are answered**, and otherwise
the first one that is refused is told. -/
theorem deviceAt_of_gpu (hg : lib.gpus[n]? = some g) :
    lib.deviceAt n = ((Query.about n).findSome? lib.refusal).elim (.ok (g.listedAt n)) .error := by
  have hhandle : lib.gpuAt n = answer g.handleFault g := by rw [gpuAt, hg]
  simp only [deviceAt, hhandle, attempting_answer_bind, calling_answer_bind, Query.about,
    List.findSome?_cons, List.findSome?_nil, refusal, faultOf, hg, Option.map_some,
    Option.getD_some, Option.bind_some]
  cases g.handleFault with
  | some fault => rfl
  | none =>
    cases g.uuidFault with
    | some fault => rfl
    | none =>
      cases g.memoryFault with
      | some fault => rfl
      | none => cases g.minorFault <;> rfl

theorem deviceAt_of_none (hg : lib.gpus[n]? = none) :
    lib.deviceAt n = .error ⟨some (.getDevice n), .invalidArgument⟩ := by
  rw [deviceAt, gpuAt, hg]
  rfl

theorem findSome?_about_of_none (hg : lib.gpus[n]? = none) :
    (Query.about n).findSome? lib.refusal = some ⟨some (.getDevice n), .invalidArgument⟩ := by
  rw [Query.about, List.findSome?_cons, refusal, faultOf, hg]
  rfl

/-- **A device is refused as the first of the queries for its position that is refused.** -/
theorem deviceAt_of_refusal (h : (Query.about n).findSome? lib.refusal = some e) :
    lib.deviceAt n = .error e := by
  cases hg : lib.gpus[n]? with
  | none =>
    rw [findSome?_about_of_none hg] at h
    rw [deviceAt_of_none hg, Option.some.inj h]
  | some g =>
    rw [deviceAt_of_gpu hg, h]
    rfl

theorem exists_deviceAt (h : (Query.about n).findSome? lib.refusal = none) :
    ∃ g, lib.gpus[n]? = some g ∧ lib.deviceAt n = .ok (g.listedAt n) := by
  cases hg : lib.gpus[n]? with
  | none =>
    rw [findSome?_about_of_none hg] at h
    cases h
  | some g =>
    refine ⟨g, rfl, ?_⟩
    rw [deviceAt_of_gpu hg, h]
    rfl

/-! ## All positions -/

theorem findSome?_queries (lib : Library) : lib.queries.findSome? lib.refusal
    = (lib.refusal .count).or
        ((List.range lib.count).findSome? fun n => (Query.about n).findSome? lib.refusal) := by
  rw [queries, List.findSome?_cons, Traversal.findSome?_flatMap]
  cases lib.refusal .count <;> rfl

theorem devices_of_refusal (h : lib.queries.findSome? lib.refusal = some e) :
    lib.devices = .error e := by
  rw [findSome?_queries, refusal, faultOf] at h
  rw [Library.devices, attempting_answer_bind]
  cases hcount : lib.countFault with
  | some fault =>
    rw [hcount] at h
    rw [← Option.some.inj h]
    rfl
  | none =>
    rw [hcount] at h
    refine Traversal.mapM_eq_error_of_findSome? (fun n hn => ?_) (fun _ _ => deviceAt_of_refusal) h
    obtain ⟨g, -, hg⟩ := exists_deviceAt hn
    exact ⟨_, hg⟩

theorem exists_devices (h : lib.queries.findSome? lib.refusal = none) :
    ∃ devices, lib.devices = .ok devices := by
  rw [findSome?_queries, Option.or_eq_none_iff, refusal_eq_none_iff,
    List.findSome?_eq_none_iff] at h
  obtain ⟨hcount, hpositions⟩ := h
  rw [Library.devices, attempting_answer_bind, show lib.countFault = none from hcount]
  refine ⟨_, Traversal.mapM_eq_ok_filterMap (g := fun n => lib.gpus[n]?.map (·.listedAt n)) ?_⟩
  intro n hn
  obtain ⟨g, hg, hlisted⟩ := exists_deviceAt (hpositions n hn)
  exact ⟨_, congrArg (Option.map (·.listedAt n)) hg, hlisted⟩

/-- **The first query that is refused decides.** -/
theorem devices_eq_error_iff :
    lib.devices = .error e ↔ lib.queries.findSome? lib.refusal = some e := by
  refine ⟨fun h => ?_, devices_of_refusal⟩
  cases hfirst : lib.queries.findSome? lib.refusal with
  | some e' => rw [Except.error.inj (h.symm.trans (devices_of_refusal hfirst))]
  | none =>
    obtain ⟨devices, hlisted⟩ := exists_devices hfirst
    cases h.symm.trans hlisted

theorem exists_devices_iff : (∃ devices, lib.devices = .ok devices) ↔
    lib.queries.findSome? lib.refusal = none := by
  refine ⟨?_, exists_devices⟩
  rintro ⟨devices, hlisted⟩
  rw [Option.eq_none_iff_forall_ne_some]
  intro e hfirst
  cases hlisted.symm.trans (devices_of_refusal hfirst)

/-! ## The list -/

/-- **What becomes of a list of devices.** -/
structure Enumerated (lib : Library) : Prop where
  /-- It is made if and only if every query is answered. -/
  listed_iff : (∃ devices, lib.devices = .ok devices) ↔ ∀ q ∈ lib.queries, lib.faultOf q = none
  /-- Otherwise the first query that fails is told, and there is no list. -/
  refused_iff : ∀ e, lib.devices = .error e ↔ ∃ before q after fault,
    lib.queries = before ++ q :: after ∧ (∀ p ∈ before, lib.faultOf p = none) ∧
      lib.faultOf q = some fault ∧ e = ⟨q.attempt, fault⟩
  /-- There is one device for each position, in their order, and each is that of the accelerator
  there. -/
  listed : ∀ devices, lib.devices = .ok devices → devices.length = lib.count ∧
    ∀ n < lib.count, ∃ g, lib.gpus[n]? = some g ∧ devices[n]? = some {
      id := g.uuid
      index := toString n
      memory := g.memoryBytes / 1048576
      paths := ["/dev/nvidia" ++ toString g.minor]
      health := .healthy }
  /-- Where the number of replicas follows the memory, and no name is used twice, the replicas of a
  device are as many as its bytes have room for, by one division. -/
  replicated : ∀ devices, lib.devices = .ok devices →
    (Inventory.mk devices .auto).Distinct → ∀ (n : Nat) (d : Device) (g : Gpu),
    devices[n]? = some d → lib.gpus[n]? = some g →
    (Inventory.mk devices .auto).replicas.filter (Replica.deviceId ·.id = g.uuid)
      = (List.range (g.memoryBytes / 1048576000)).map (Replica.ofDevice d)

theorem refused_iff (lib : Library) (e : Error) : lib.devices = .error e ↔
    ∃ before q after fault,
      lib.queries = before ++ q :: after ∧ (∀ p ∈ before, lib.faultOf p = none) ∧
        lib.faultOf q = some fault ∧ e = ⟨q.attempt, fault⟩ := by
  rw [devices_eq_error_iff, List.findSome?_eq_some_iff]
  constructor
  · rintro ⟨before, q, after, hsplit, hq, hbefore⟩
    obtain ⟨fault, hfault, rfl⟩ := Option.map_eq_some_iff.mp hq
    exact ⟨before, q, after, fault, hsplit, fun p hp => refusal_eq_none_iff.mp (hbefore p hp),
      hfault, rfl⟩
  · rintro ⟨before, q, after, fault, hsplit, hbefore, hfault, rfl⟩
    exact ⟨before, q, after, hsplit, congrArg (Option.map _) hfault,
      fun p hp => refusal_eq_none_iff.mpr (hbefore p hp)⟩

/-- **Rounding to MiB and then to replicas is rounding once.** -/
theorem countFor_auto_listedAt (g : Gpu) (n : Nat) :
    Replication.auto.countFor (g.listedAt n) = g.memoryBytes / 1048576000 :=
  Nat.div_div_eq_div_mul g.memoryBytes 1048576 1000

theorem filter_replicas_of_devices (hlisted : lib.devices = .ok devices)
    (hdistinct : (Inventory.mk devices .auto).Distinct) {d : Device} (hd : devices[n]? = some d)
    (hg : lib.gpus[n]? = some g) :
    (Inventory.mk devices .auto).replicas.filter (Replica.deviceId ·.id = g.uuid)
      = (List.range (g.memoryBytes / 1048576000)).map (Replica.ofDevice d) := by
  obtain ⟨g', hg', rfl⟩ := exists_listedAt_of_devices hlisted hd
  obtain rfl := Option.some.inj (hg.symm.trans hg')
  obtain ⟨before, after, hsplit⟩ := List.append_of_mem (List.mem_of_getElem? hd)
  have hfilter := hdistinct.filter_replicas hsplit
  rw [Replication.replicasOf, countFor_auto_listedAt] at hfilter
  exact hfilter

/-- **A list of devices is made of all its queries or of none**, whatever the library answers. -/
theorem enumerated (lib : Library) : lib.Enumerated where
  listed_iff := by
    rw [exists_devices_iff, List.findSome?_eq_none_iff]
    simp only [refusal_eq_none_iff]
  refused_iff := lib.refused_iff
  listed devices hlisted := by
    refine ⟨length_of_devices hlisted, fun n hn => ?_⟩
    obtain ⟨d, hd⟩ := exists_device_of_gpu hlisted hn
    obtain ⟨g, hg, rfl⟩ := exists_listedAt_of_devices hlisted hd
    exact ⟨g, hg, hd⟩
  replicated _ hlisted hdistinct _ _ _ := filter_replicas_of_devices hlisted hdistinct

/-- The last query for the first position fails before the first one for the second. -/
example :
    let lost : Gpu := { uuid := "b", handleFault := some .gpuLost }
    let late : Gpu := { uuid := "a", minorFault := some .timeout }
    let lib : Library := { count := 2, gpus := [late, lost] }
    lib.devices = .error ⟨none, .timeout⟩ := by
  decide

end Library

end GpuPlugin.Nvml
