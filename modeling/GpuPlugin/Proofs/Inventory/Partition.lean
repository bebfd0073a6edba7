import GpuPlugin.Proofs.Inventory.Advertised
import Mathlib.Data.List.Forall2
import Mathlib.Data.List.Nodup

/-!
# Proofs/Inventory/Partition — the replicas of different devices stay apart

Where the devices have different ids, so have all of their replicas, whatever the ids are made of:
an id is advertised for one device and one index, and cutting it leads back to that device.  The
replicas of a device stand next to each other in the advertised list, by index, and no other replica
leads to it (`partitioned_of_distinct`).
-/

namespace GpuPlugin

namespace Replication

variable {r : Replication} {devices : List Device} {d q : Device}

/-- The devices of replicas that are cut are those that were split. -/
theorem exists_mem_of_mem_replicate (hq : q ∈ r.replicate devices) :
    ∃ d ∈ devices, Replica.deviceId q.id = d.id := by
  obtain ⟨d, hd, i, -, rfl⟩ := mem_replicate.mp hq
  exact ⟨d, hd, Replica.deviceId_id d.id i⟩

/-- All replicas of a device lead back to it. -/
theorem deviceId_of_mem_replicasOf (hq : q ∈ r.replicasOf d) : Replica.deviceId q.id = d.id := by
  obtain ⟨i, -, rfl⟩ := List.mem_map.mp hq
  exact Replica.deviceId_id d.id i

/-- **Replicas of other devices do not lead to a device.** -/
theorem filter_replicate_of_not_listed (hnot : ∀ e ∈ devices, e.id ≠ d.id) :
    (r.replicate devices).filter (Replica.deviceId ·.id = d.id) = [] := by
  refine List.filter_eq_nil_iff.mpr ?_
  intro q hq
  obtain ⟨e, he, hid⟩ := exists_mem_of_mem_replicate hq
  simpa only [hid, decide_eq_true_eq] using hnot e he

theorem filter_replicasOf (r : Replication) (d : Device) :
    (r.replicasOf d).filter (Replica.deviceId ·.id = d.id) = r.replicasOf d := by
  refine List.filter_eq_self.mpr ?_
  intro q hq
  exact decide_eq_true (deviceId_of_mem_replicasOf hq)

/-- What is split before a device, the device itself, and what is split after it. -/
theorem replicate_append_cons (r : Replication) (before after : List Device) (d : Device) :
    r.replicate (before ++ d :: after)
      = r.replicate before ++ r.replicasOf d ++ r.replicate after := by
  rw [replicate, List.flatMap_append, List.flatMap_cons, List.append_assoc]
  rfl

end Replication

namespace Inventory

variable {inv : Inventory} {d : Device}

/-! ## Devices with different ids -/

/-- No two devices of an inventory have the same id. -/
def Distinct (inv : Inventory) : Prop := (inv.devices.map (·.id)).Nodup

instance (inv : Inventory) : Decidable inv.Distinct :=
  inferInstanceAs (Decidable (inv.devices.map (·.id)).Nodup)

theorem Distinct.eq_of_id_eq (hdistinct : inv.Distinct) {e : Device} (hd : d ∈ inv.devices)
    (he : e ∈ inv.devices) (hid : d.id = e.id) : d = e :=
  List.inj_on_of_nodup_map hdistinct hd he hid

/-- **A listed device is found by its id.** -/
theorem Distinct.device?_eq_some (hdistinct : inv.Distinct) (hd : d ∈ inv.devices) :
    inv.device? d.id = some d := by
  obtain ⟨e, he⟩ := exists_device?_of_mem hd
  have hmem : e ∈ inv.devices := List.mem_of_find?_eq_some he
  rw [he, hdistinct.eq_of_id_eq hmem hd (id_of_device? he)]

theorem Distinct.ne_of_split (hdistinct : inv.Distinct) {before after : List Device}
    (hsplit : inv.devices = before ++ d :: after) :
    (∀ e ∈ before, e.id ≠ d.id) ∧ ∀ e ∈ after, e.id ≠ d.id := by
  rw [Distinct, hsplit, List.map_append, List.map_cons, List.nodup_middle, List.nodup_cons,
    ← List.map_append] at hdistinct
  have hother : ∀ e ∈ before ++ after, e.id ≠ d.id := by
    intro e he hid
    exact hdistinct.1 (hid ▸ List.mem_map_of_mem he)
  exact List.forall_mem_append.mp hother

/-! ## Origins

An advertised id tells its origin, and each origin is advertised once. -/

theorem nodup_origins (hdevices : inv.devices.Nodup) : inv.origins.Nodup := by
  refine List.nodup_flatMap.mpr ⟨fun d _ => ?_, hdevices.imp fun {d e} hne => ?_⟩
  · exact List.nodup_range.map fun i j h => (Prod.mk.inj h).2
  · intro o hd he
    obtain ⟨i, -, rfl⟩ := List.mem_map.mp hd
    obtain ⟨j, -, heq⟩ := List.mem_map.mp he
    exact hne (Prod.mk.inj heq).1.symm

theorem advertised_eq_map_origins (inv : Inventory) :
    inv.advertised = inv.origins.map fun o => Replica.id o.1.id o.2 := by
  rw [advertised, replicas_eq_map_origins, List.map_map]
  rfl

/-- **The origin of an id is the only one.** -/
theorem Distinct.origin_unique (hdistinct : inv.Distinct) {o o' : Device × Nat}
    (ho : o ∈ inv.origins) (ho' : o' ∈ inv.origins)
    (hid : Replica.id o.1.id o.2 = Replica.id o'.1.id o'.2) : o = o' := by
  obtain ⟨hdevice, hindex⟩ := Replica.id_inj.mp hid
  have hmem := mem_devices_of_mem_origins ho
  have hmem' := mem_devices_of_mem_origins ho'
  exact Prod.ext (hdistinct.eq_of_id_eq hmem hmem' hdevice) hindex

theorem Distinct.nodup_advertised (hdistinct : inv.Distinct) : inv.advertised.Nodup := by
  have horigins : inv.origins.Nodup := nodup_origins (List.Nodup.of_map _ hdistinct)
  rw [advertised_eq_map_origins]
  exact horigins.map_on fun o ho o' ho' hid => hdistinct.origin_unique ho ho' hid

theorem Distinct.hasReplica_iff (hdistinct : inv.Distinct) (id : String) :
    inv.hasReplica id = true ↔
      ∃! o : Device × Nat, (o.1 ∈ inv.devices ∧ o.2 < inv.replication.countFor o.1) ∧
        id = Replica.id o.1.id o.2 := by
  rw [Inventory.hasReplica_iff, advertised_eq_map_origins, List.mem_map]
  constructor
  · rintro ⟨o, ho, rfl⟩
    refine ⟨o, ⟨mem_origins.mp ho, rfl⟩, ?_⟩
    rintro o' ⟨ho', hid⟩
    exact hdistinct.origin_unique (mem_origins.mpr ho') ho hid.symm
  · rintro ⟨o, ⟨ho, rfl⟩, -⟩
    exact ⟨o, mem_origins.mpr ho, rfl⟩

/-! ## The partition -/

/-- **An inventory whose replicas are parted by device.** -/
structure Partitioned (inv : Inventory) : Prop where
  nodup : inv.advertised.Nodup
  /-- An id is advertised if it names a listed device and an index below the device's count, which
  are then the only ones it names. -/
  named : ∀ id, inv.hasReplica id = true ↔
    ∃! o : Device × Nat, (o.1 ∈ inv.devices ∧ o.2 < inv.replication.countFor o.1) ∧
      id = Replica.id o.1.id o.2
  /-- Each replica is its device under another id, and cutting that id finds the device. -/
  found : List.Forall₂
    (fun o r => r = { o.1 with id := Replica.id o.1.id o.2 } ∧
      inv.device? (Replica.deviceId r.id) = some o.1)
    inv.origins inv.replicas
  /-- The replicas that lead to a device stand between those of the devices before it and those of
  the devices after it, one for each index below its count and in the order of the indices. -/
  block : ∀ before d after, inv.devices = before ++ d :: after →
    inv.replicas = inv.replication.replicate before
      ++ (List.range (inv.replication.countFor d)).map (Replica.ofDevice d)
      ++ inv.replication.replicate after ∧
    inv.replicas.filter (Replica.deviceId ·.id = d.id)
      = (List.range (inv.replication.countFor d)).map (Replica.ofDevice d)

theorem Distinct.found (hdistinct : inv.Distinct) :
    List.Forall₂
      (fun o r => r = { o.1 with id := Replica.id o.1.id o.2 } ∧
        inv.device? (Replica.deviceId r.id) = some o.1)
      inv.origins inv.replicas := by
  rw [replicas_eq_map_origins, List.forall₂_map_right_iff, List.forall₂_same]
  intro o ho
  refine ⟨rfl, ?_⟩
  rw [Replica.ofDevice, Replica.deviceId_id]
  exact hdistinct.device?_eq_some (mem_devices_of_mem_origins ho)

theorem Distinct.filter_replicas (hdistinct : inv.Distinct) {before after : List Device}
    (hsplit : inv.devices = before ++ d :: after) :
    inv.replicas.filter (Replica.deviceId ·.id = d.id) = inv.replication.replicasOf d := by
  obtain ⟨hbefore, hafter⟩ := hdistinct.ne_of_split hsplit
  rw [replicas, hsplit, Replication.replicate_append_cons, List.filter_append, List.filter_append,
    Replication.filter_replicate_of_not_listed hbefore, Replication.filter_replicasOf,
    Replication.filter_replicate_of_not_listed hafter, List.nil_append, List.append_nil]

/-- **The replicas of devices with different ids are parted by device.** -/
theorem partitioned_of_distinct (hdistinct : inv.Distinct) : inv.Partitioned where
  nodup := hdistinct.nodup_advertised
  named := hdistinct.hasReplica_iff
  found := hdistinct.found
  block before d after hsplit := by
    refine ⟨?_, hdistinct.filter_replicas hsplit⟩
    rw [replicas, hsplit, Replication.replicate_append_cons]
    rfl

/-- Devices whose ids end in colons, look like replicas of each other, or are empty. -/
theorem partitioned_of_tangled_ids :
    let a : Device := ⟨"", "0", 2000, [], .healthy⟩
    let b : Device := ⟨"::0", "1", 999, [], .healthy⟩
    let c : Device := ⟨"::0:", "2", 1000, [], .unhealthy⟩
    let inv : Inventory := ⟨[a, b, c], .auto⟩
    inv.Distinct ∧ inv.advertised = ["::0", "::1", "::0:::0"] ∧ inv.Partitioned ∧
      inv.replicas.filter (Replica.deviceId ·.id = "::0:") = [{ c with id := "::0:::0" }] := by
  intro a b c inv
  have hdistinct : inv.Distinct := by decide
  have hpartitioned := partitioned_of_distinct hdistinct
  have hadvertised : inv.advertised = ["::0", "::1", "::0:::0"] := by decide +kernel
  have hsplit : inv.replication.replicasOf c = [{ c with id := "::0:::0" }] := by decide +kernel
  have hblock := (hpartitioned.block [a, b] c [] rfl).2
  exact ⟨hdistinct, hadvertised, hpartitioned, hblock.trans hsplit⟩

end Inventory

end GpuPlugin
