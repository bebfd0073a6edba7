import GpuPlugin.Proofs.Inventory.Partition
import GpuPlugin.Proofs.Repetition
import GpuPlugin.Proofs.Traversal

/-!
# Proofs/Inventory/Owners — the devices that replicas are made of

A replica is made of one device.  Where devices have different ids, cutting the ids of replicas and
looking the devices up gives these devices back, each once and in the order in which they are first
asked for (`behind_eq_owners`).
-/

namespace GpuPlugin.Inventory

variable {inv : Inventory} {ids : List String} {owners : List Device}

/-- **A device owns an id** if the id names one of its replicas. -/
def Owns (inv : Inventory) (id : String) (d : Device) : Prop :=
  d ∈ inv.devices ∧ ∃ i < inv.replication.countFor d, id = Replica.id d.id i

theorem deviceId_of_owns {id : String} {d : Device} (h : inv.Owns id d) :
    Replica.deviceId id = d.id := by
  obtain ⟨-, i, -, rfl⟩ := h
  exact Replica.deviceId_id d.id i

/-- **Advertised ids have owners.** -/
theorem exists_owners (h : ∀ id ∈ ids, id ∈ inv.advertised) :
    ∃ owners, List.Forall₂ inv.Owns ids owners := by
  induction ids with
  | nil => exact ⟨[], .nil⟩
  | cons id ids ih =>
    obtain ⟨hid, hids⟩ := List.forall_mem_cons.mp h
    obtain ⟨d, hd, i, hi, heq⟩ := mem_advertised.mp hid
    obtain ⟨owners, howners⟩ := ih hids
    exact ⟨d :: owners, .cons ⟨hd, i, hi, heq⟩ howners⟩

/-- Cutting ids leads to their owners. -/
theorem map_deviceId_eq (h : List.Forall₂ inv.Owns ids owners) :
    ids.map Replica.deviceId = owners.map (·.id) := by
  induction h with
  | nil => rfl
  | cons hid _ ih => rw [List.map_cons, List.map_cons, deviceId_of_owns hid, ih]

theorem mem_devices_of_owners (h : List.Forall₂ inv.Owns ids owners) :
    ∀ d ∈ owners, d ∈ inv.devices := by
  intro d hd
  obtain ⟨id, -, howns⟩ := Traversal.exists_mem_of_forall₂ h hd
  exact howns.1

/-- **Behind ids stand their owners**, each once. -/
theorem Distinct.behind_eq_owners (hdistinct : inv.Distinct)
    (h : List.Forall₂ inv.Owns ids owners) : inv.behind ids = owners.eraseDups := by
  have hlisted := mem_devices_of_owners h
  have hdeviceIds : Replica.deviceIds ids = owners.eraseDups.map (·.id) := by
    rw [Replica.deviceIds, map_deviceId_eq h]
    exact Repetition.eraseDups_map_of_injOn fun d hd e he =>
      hdistinct.eq_of_id_eq (hlisted d hd) (hlisted e he)
  have hfound : ∀ d ∈ owners.eraseDups, inv.device? d.id = some d := fun d hd =>
    hdistinct.device?_eq_some (hlisted d (List.mem_eraseDups.mp hd))
  rw [behind, hdeviceIds, List.filterMap_map]
  exact (List.filterMap_congr hfound).trans List.filterMap_some

end GpuPlugin.Inventory
