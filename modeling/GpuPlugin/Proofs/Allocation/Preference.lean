import GpuPlugin.Proofs.Allocation.Refusal
import GpuPlugin.Proofs.Policy.Choice

/-!
# Proofs/Allocation/Preference — what is preferred can be allocated

Preferences are asked for in advertised ids.  For shared devices they are answered in such ids as
well, chosen among those of the container.  Devices that are not shared are answered by their own
ids, and it is their one replica that an allocation has to name (`preferred_allocatable`).
-/

namespace GpuPlugin

namespace Inventory

/-- A device that is not shared has at most one replica. -/
theorem eq_id_zero_of_advertised {inv : Inventory} {id : String}
    (hshared : inv.replication.isShared = false) (hid : id ∈ inv.advertised) :
    id = Replica.id (Replica.deviceId id) 0 := by
  obtain ⟨d, -, i, hi, rfl⟩ := mem_advertised.mp hid
  cases hr : inv.replication with
  | auto =>
    rw [hr] at hshared
    cases hshared
  | fixed count =>
    rw [hr] at hshared hi
    have hcount : ¬ 1 < count := of_decide_eq_false hshared
    have hlt : i < count := hi
    obtain rfl : i = 0 := by omega
    rw [Replica.deviceId_id]

/-- A device that is not shared stands behind the id of its one replica. -/
theorem id_zero_mem_of_mem_behind {inv : Inventory} {ids : List String} {d : Device}
    (hshared : inv.replication.isShared = false) (h : ∀ id ∈ ids, id ∈ inv.advertised)
    (hd : d ∈ inv.behind ids) : Replica.id d.id 0 ∈ ids := by
  have hmem : d.id ∈ (inv.behind ids).map (·.id) := List.mem_map_of_mem hd
  rw [map_id_behind h] at hmem
  obtain ⟨id, hid, hdevice⟩ := Replica.mem_deviceIds.mp hmem
  rw [← hdevice, ← eq_id_zero_of_advertised hshared (h id hid)]
  exact hid

end Inventory

/-! ## Requests and answers -/

/-- An answer stays within a request: each container is answered with ids of its own. -/
def PreferredResponse.Within (response : PreferredResponse) (request : PreferredRequest) : Prop :=
  List.Forall₂ (fun c r => ∀ id ∈ r.deviceIds, id ∈ c.available ++ c.required)
    request.containers response.containers

/-- The same answer, with each device named by its first replica. -/
def PreferredResponse.byFirstReplica (response : PreferredResponse) : PreferredResponse :=
  ⟨response.containers.map fun r => ⟨r.deviceIds.map (Replica.id · 0)⟩⟩

/-- The allocation that asks for what is preferred. -/
def PreferredResponse.asRequest (response : PreferredResponse) : AllocateRequest :=
  ⟨response.containers.map fun r => ⟨r.deviceIds⟩⟩

/-- All ids that a request is about are advertised. -/
def PreferredRequest.Advertised (request : PreferredRequest) (inv : Inventory) : Prop :=
  ∀ c ∈ request.containers, ∀ id ∈ c.available ++ c.required, id ∈ inv.advertised

instance (request : PreferredRequest) (inv : Inventory) : Decidable (request.Advertised inv) :=
  inferInstanceAs
    (Decidable (∀ c ∈ request.containers, ∀ id ∈ c.available ++ c.required, id ∈ inv.advertised))

namespace Allocator

variable {a : Allocator}

/-! ## One container -/

section Container

variable {c : ContainerPreferredRequest}
  (hadvertised : ∀ id ∈ c.available ++ c.required, id ∈ a.inventory.advertised)

include hadvertised

theorem lists_of_mem_mentions :
    ∀ m ∈ c.mentions, a.inventory.Lists (Replica.deviceId m.2) := by
  obtain ⟨havailable, hrequired⟩ := List.forall_mem_append.mp hadvertised
  refine List.forall_mem_append.mpr ⟨List.forall_mem_map.mpr ?_, List.forall_mem_map.mpr ?_⟩
  · exact fun id hid => Inventory.lists_of_advertised (havailable id hid)
  · exact fun id hid => Inventory.lists_of_advertised (hrequired id hid)

theorem preferredFor_of_shared (hshared : a.settings.replication.isShared = true) :
    a.preferredFor c = .ok ⟨Ranking.selected c.available c.required c.size.toInt.toNat⟩ := by
  rw [preferredFor_of_listed (lists_of_mem_mentions hadvertised), preference?, if_pos hshared]

theorem preferredFor_of_not_shared (hshared : a.settings.replication.isShared = false) :
    a.preferredFor c =
      match a.policy with
      | some policy =>
        .ok ⟨(policy.choose (a.inventory.behind c.available) (a.inventory.behind c.required)
          c.size.toInt.toNat).map (·.id)⟩
      | none => .error .noPreference := by
  rw [preferredFor_of_listed (lists_of_mem_mentions hadvertised), preference?,
    if_neg (Bool.not_eq_true _ ▸ hshared)]
  cases a.policy <;> rfl

/-- **Replicas are preferred under their own names.** -/
theorem mem_of_preferredFor_of_shared (hshared : a.settings.replication.isShared = true)
    {r : ContainerPreferredResponse} (h : a.preferredFor c = .ok r) {id : String}
    (hid : id ∈ r.deviceIds) : id ∈ c.available ++ c.required := by
  rw [preferredFor_of_shared hadvertised hshared] at h
  obtain rfl := Except.ok.inj h
  exact Ranking.mem_of_mem_selected hid

/-- **Devices that are not shared are preferred under the names of the devices**, whose one replica
is an id of the container. -/
theorem id_zero_mem_of_preferredFor_of_not_shared
    (hrep : a.settings.replication = a.inventory.replication)
    (hshared : a.settings.replication.isShared = false)
    {r : ContainerPreferredResponse} (h : a.preferredFor c = .ok r) {device : String}
    (hdevice : device ∈ r.deviceIds) : Replica.id device 0 ∈ c.available ++ c.required := by
  rw [preferredFor_of_not_shared hadvertised hshared] at h
  cases hp : a.policy with
  | none =>
    rw [hp] at h
    cases h
  | some policy =>
    rw [hp] at h
    obtain rfl := Except.ok.inj h
    obtain ⟨d, hd, rfl⟩ := List.mem_map.mp hdevice
    obtain ⟨havailable, hrequired⟩ := List.forall_mem_append.mp hadvertised
    rw [hrep] at hshared
    rcases List.mem_append.mp (policy.mem_of_mem_choose hd) with hd | hd
    · exact List.mem_append_right _ (Inventory.id_zero_mem_of_mem_behind hshared hrequired hd)
    · exact List.mem_append_left _ (Inventory.id_zero_mem_of_mem_behind hshared havailable hd)

end Container

/-! ## All containers -/

/-- An allocation that stays within advertised ids is granted. -/
theorem allocate_asRequest_of_within {pathExists : String → Bool} {request : PreferredRequest}
    {response : PreferredResponse} (hadvertised : request.Advertised a.inventory)
    (hwithin : response.Within request) :
    ∃ granted, a.allocate pathExists response.asRequest = .ok granted := by
  refine ⟨_, allocate_of_advertised (firstUnknown?_eq_none_iff.mpr (forall_mem_ids.mpr ?_))⟩
  intro q hq id hid
  obtain ⟨r, hr, rfl⟩ := List.mem_map.mp hq
  obtain ⟨c, hc, hown⟩ := Traversal.exists_mem_of_forall₂ hwithin hr
  exact hadvertised c hc id (hown id hid)

/-- **What is preferred can be allocated.**  For shared devices the answer names ids of the
container's own, and the allocation that asks for them is granted.  Devices that are not shared are
answered by their own ids; named by their first replicas, the same holds for them. -/
theorem preferred_allocatable (a : Allocator) (pathExists : String → Bool)
    (request : PreferredRequest) (response : PreferredResponse)
    (hrep : a.settings.replication = a.inventory.replication)
    (hadvertised : request.Advertised a.inventory) (h : a.preferred request = .ok response) :
    (a.settings.replication.isShared = true →
      response.Within request ∧
        ∃ granted, a.allocate pathExists response.asRequest = .ok granted) ∧
    (a.settings.replication.isShared = false →
      response.byFirstReplica.Within request ∧
        ∃ granted, a.allocate pathExists response.byFirstReplica.asRequest = .ok granted) := by
  have hanswers := (List.forall₂_and_left _ _).mpr ⟨hadvertised, preferred_eq_ok_iff.mp h⟩
  constructor
  · intro hshared
    have hwithin : response.Within request := hanswers.imp fun c r ⟨hc, hr⟩ id hid =>
      mem_of_preferredFor_of_shared hc hshared hr hid
    exact ⟨hwithin, allocate_asRequest_of_within hadvertised hwithin⟩
  · intro hshared
    have hwithin : response.byFirstReplica.Within request := by
      rw [PreferredResponse.Within, PreferredResponse.byFirstReplica, List.forall₂_map_right_iff]
      refine hanswers.imp fun c r ⟨hc, hr⟩ id hid => ?_
      obtain ⟨device, hdevice, rfl⟩ := List.mem_map.mp hid
      exact id_zero_mem_of_preferredFor_of_not_shared hc hrep hshared hr hdevice
    exact ⟨hwithin, allocate_asRequest_of_within hadvertised hwithin⟩

/-- Two devices with a number of replicas each, and a policy. -/
def ofTwo (count : Nat) : Allocator where
  settings := { replication := .fixed count }
  inventory :=
    ⟨[⟨"GPU-a", "0", 4000, [], .healthy⟩, ⟨"GPU-b", "1", 4000, [], .healthy⟩], .fixed count⟩
  policy := some .simple

/-- A required replica and one of the other device are preferred, and can be allocated. -/
theorem preferred_allocatable_of_two_shared :
    let request : PreferredRequest := ⟨[⟨["GPU-a::0", "GPU-b::0", "GPU-b::1"], ["GPU-a::1"], 2⟩]⟩
    let response : PreferredResponse := ⟨[⟨["GPU-a::1", "GPU-b::0"]⟩]⟩
    (ofTwo 2).settings.replication = (ofTwo 2).inventory.replication ∧
      request.Advertised (ofTwo 2).inventory ∧ (ofTwo 2).preferred request = .ok response ∧
      response.Within request ∧
      ∃ granted, (ofTwo 2).allocate (fun _ => true) response.asRequest = .ok granted := by
  intro request response
  have hadvertised : request.Advertised (ofTwo 2).inventory := by decide
  have hpreferred : (ofTwo 2).preferred request = .ok response := by decide +kernel
  exact ⟨rfl, hadvertised, hpreferred,
    (preferred_allocatable (ofTwo 2) _ request response rfl hadvertised hpreferred).1 rfl⟩

/-- The ids of whole devices are not ids of the container, and no allocation can name them. -/
theorem preferred_whole_device_refused :
    let request : PreferredRequest := ⟨[⟨["GPU-a::0"], [], 1⟩]⟩
    let response : PreferredResponse := ⟨[⟨["GPU-a"]⟩]⟩
    (ofTwo 1).settings.replication = (ofTwo 1).inventory.replication ∧
      request.Advertised (ofTwo 1).inventory ∧ (ofTwo 1).preferred request = .ok response ∧
      ¬ response.Within request ∧
      (ofTwo 1).allocate (fun _ => true) response.asRequest
        = .error (.unknownDevice "nvidia.com/gpu" "GPU-a") := by
  refine ⟨rfl, by decide, by decide, ?_, by decide⟩
  rintro (_ | ⟨hown, -⟩)
  exact absurd (hown "GPU-a" List.mem_cons_self) (by decide)

end Allocator

end GpuPlugin
