import GpuPlugin.Inventory
import GpuPlugin.Proofs.Replica.Naming
import Mathlib.Data.List.Basic

/-!
# Proofs/Inventory/Advertised — the advertised ids, and the devices behind them

An id is advertised exactly when it names a replica of a listed device below the device's count
(`mem_advertised`).  Such an id leads back to a listed device (`lists_of_advertised`), so a
look-up by the cut id cannot fail for an advertised one, even where device ids repeat or look like
replicas of each other.
-/

namespace GpuPlugin

theorem Replication.mem_replicate {r : Replication} {devices : List Device} {q : Device} :
    q ∈ r.replicate devices ↔ ∃ d ∈ devices, ∃ i < r.countFor d, q = Replica.ofDevice d i := by
  simp only [replicate, replicasOf, List.mem_flatMap, List.mem_map, List.mem_range, eq_comm]

namespace Inventory

variable {inv : Inventory}

/-! ## Where replicas come from -/

/-- The device and the index each advertised replica is made of, in the advertised order. -/
def origins (inv : Inventory) : List (Device × Nat) :=
  inv.devices.flatMap fun d => (List.range (inv.replication.countFor d)).map (d, ·)

/-- **Each advertised replica has one origin.** -/
theorem replicas_eq_map_origins (inv : Inventory) :
    inv.replicas = inv.origins.map fun o => Replica.ofDevice o.1 o.2 := by
  rw [origins, List.map_flatMap, replicas, Replication.replicate]
  refine congrArg (fun f => inv.devices.flatMap f) (funext fun d => ?_)
  rw [Replication.replicasOf, List.map_map]
  rfl

theorem mem_origins {o : Device × Nat} :
    o ∈ inv.origins ↔ o.1 ∈ inv.devices ∧ o.2 < inv.replication.countFor o.1 := by
  obtain ⟨d, i⟩ := o
  rw [origins, List.mem_flatMap]
  constructor
  · rintro ⟨e, he, ho⟩
    obtain ⟨j, hj, heq⟩ := List.mem_map.mp ho
    obtain ⟨rfl, rfl⟩ := Prod.mk.inj heq
    exact ⟨he, List.mem_range.mp hj⟩
  · rintro ⟨hd, hi⟩
    exact ⟨d, hd, List.mem_map.mpr ⟨i, List.mem_range.mpr hi, rfl⟩⟩

theorem mem_devices_of_mem_origins {o : Device × Nat} (ho : o ∈ inv.origins) : o.1 ∈ inv.devices :=
  (mem_origins.mp ho).1

/-! ## Advertised ids -/

/-- The ids of the advertised replicas, in their order. -/
def advertised (inv : Inventory) : List String := inv.replicas.map (·.id)

/-- **The advertised ids are the names of replicas below the count of their device.** -/
theorem mem_advertised {id : String} :
    id ∈ inv.advertised ↔
      ∃ d ∈ inv.devices, ∃ i < inv.replication.countFor d, id = Replica.id d.id i := by
  rw [advertised, List.mem_map]
  constructor
  · rintro ⟨q, hq, rfl⟩
    obtain ⟨d, hd, i, hi, rfl⟩ := Replication.mem_replicate.mp hq
    exact ⟨d, hd, i, hi, rfl⟩
  · rintro ⟨d, hd, i, hi, rfl⟩
    exact ⟨Replica.ofDevice d i, Replication.mem_replicate.mpr ⟨d, hd, i, hi, rfl⟩, rfl⟩

theorem hasReplica_iff {id : String} : inv.hasReplica id = true ↔ id ∈ inv.advertised := by
  simp only [hasReplica, advertised, List.any_eq_true, List.mem_map, beq_iff_eq]

/-! ## Looking devices up -/

theorem id_of_device? {id : String} {d : Device} (h : inv.device? id = some d) : d.id = id := by
  rw [device?] at h
  simpa using List.find?_some h

theorem exists_device?_of_mem {d : Device} (h : d ∈ inv.devices) :
    ∃ e, inv.device? d.id = some e :=
  Option.isSome_iff_exists.mp (List.find?_isSome.mpr ⟨d, h, beq_self_eq_true _⟩)

/-- A device of the inventory has the given id. -/
def Lists (inv : Inventory) (device : String) : Prop := ∃ d ∈ inv.devices, d.id = device

theorem Lists.exists_device? {device : String} (h : inv.Lists device) :
    ∃ d, inv.device? device = some d := by
  obtain ⟨d, hd, rfl⟩ := h
  exact exists_device?_of_mem hd

theorem device?_eq_none_iff {device : String} : inv.device? device = none ↔ ¬ inv.Lists device := by
  rw [device?, List.find?_eq_none, Lists]
  simp only [beq_iff_eq, not_exists, not_and]

/-- **Behind an advertised id there is a listed device.** -/
theorem lists_of_advertised {id : String} (h : id ∈ inv.advertised) :
    inv.Lists (Replica.deviceId id) := by
  obtain ⟨d, hd, i, -, rfl⟩ := mem_advertised.mp h
  rw [Replica.deviceId_id]
  exact ⟨d, hd, rfl⟩

/-- The listed devices behind a list of ids, each once, in the order they are first named. -/
def behind (inv : Inventory) (ids : List String) : List Device :=
  (Replica.deviceIds ids).filterMap inv.device?

/-- Behind ids that lead to listed devices none is missing. -/
theorem map_id_behind_of_listed {ids : List String}
    (h : ∀ id ∈ ids, inv.Lists (Replica.deviceId id)) :
    (inv.behind ids).map (·.id) = Replica.deviceIds ids := by
  have hfound : ∀ device ∈ Replica.deviceIds ids,
      (inv.device? device).map (·.id) = some device := by
    intro device hdevice
    obtain ⟨id, hid, rfl⟩ := Replica.mem_deviceIds.mp hdevice
    obtain ⟨d, hd⟩ := (h id hid).exists_device?
    rw [hd, Option.map_some, id_of_device? hd]
  rw [behind, List.map_filterMap, List.filterMap_congr hfound]
  exact List.filterMap_some

/-- **Behind advertised ids no device is missing.** -/
theorem map_id_behind {ids : List String} (h : ∀ id ∈ ids, id ∈ inv.advertised) :
    (inv.behind ids).map (·.id) = Replica.deviceIds ids :=
  map_id_behind_of_listed fun id hid => lists_of_advertised (h id hid)

end Inventory

end GpuPlugin
