import GpuPlugin.Allocation
import GpuPlugin.Proofs.Inventory.Advertised
import GpuPlugin.Proofs.Traversal

/-!
# Proofs/Allocation/Grant — which allocations are granted

An allocation is granted exactly when all of its ids are advertised, and is otherwise refused with
the first one that is not (`allocate_exactly_advertised`).  The look-up of the devices comes after
the test of the ids and refuses nothing (`devicesBehind_of_advertised`): behind an advertised id
there is a listed device.
-/

namespace GpuPlugin

/-- All ids of a request, container by container. -/
def AllocateRequest.ids (request : AllocateRequest) : List String :=
  request.containers.flatMap (·.deviceIds)

namespace Allocator

variable {a : Allocator} {pathExists : String → Bool}

/-! ## The first id that is not advertised -/

theorem firstUnknown?_eq_none_iff {ids : List String} :
    a.firstUnknown? ids = none ↔ ∀ id ∈ ids, id ∈ a.inventory.advertised := by
  simp only [firstUnknown?, List.find?_eq_none, Bool.not_eq_true', Bool.not_eq_false,
    Inventory.hasReplica_iff]

theorem firstUnknown?_eq_some_iff {ids : List String} {id : String} :
    a.firstUnknown? ids = some id ↔
      id ∉ a.inventory.advertised ∧ ∃ before after, ids = before ++ id :: after ∧
        ∀ q ∈ before, q ∈ a.inventory.advertised := by
  simp only [firstUnknown?, List.find?_eq_some_iff_append, Bool.not_eq_true', Bool.not_not,
    Inventory.hasReplica_iff, ← Bool.not_eq_true]

/-! ## One container -/

/-- The devices behind ids that lead to listed ones are found. -/
theorem devicesBehind_of_listed {refusal : String → AllocationError} {ids : List String}
    (h : ∀ id ∈ ids, a.inventory.Lists (Replica.deviceId id)) :
    a.devicesBehind refusal ids = .ok (a.inventory.behind ids) := by
  refine Traversal.mapM_eq_ok_filterMap fun device hdevice => ?_
  obtain ⟨id, hid, rfl⟩ := Replica.mem_deviceIds.mp hdevice
  obtain ⟨d, hd⟩ := (h id hid).exists_device?
  exact ⟨d, hd, by rw [hd]⟩

/-- **Devices behind advertised ids are listed**, so none of them is refused. -/
theorem devicesBehind_of_advertised {refusal : String → AllocationError} {ids : List String}
    (h : ∀ id ∈ ids, id ∈ a.inventory.advertised) :
    a.devicesBehind refusal ids = .ok (a.inventory.behind ids) :=
  devicesBehind_of_listed fun id hid => Inventory.lists_of_advertised (h id hid)

/-- What a container is answered when all of its ids are advertised. -/
def granted (a : Allocator) (pathExists : String → Bool) (c : ContainerAllocateRequest) :
    ContainerAllocateResponse :=
  a.grant pathExists (a.inventory.behind c.deviceIds)

theorem allocateFor_of_advertised {c : ContainerAllocateRequest}
    (h : a.firstUnknown? c.deviceIds = none) :
    a.allocateFor pathExists c = .ok (a.granted pathExists c) := by
  rw [allocateFor, h, devicesBehind_of_advertised (firstUnknown?_eq_none_iff.mp h)]
  rfl

theorem allocateFor_of_unknown {c : ContainerAllocateRequest} {id : String}
    (h : a.firstUnknown? c.deviceIds = some id) :
    a.allocateFor pathExists c = .error (.unknownDevice a.settings.resourceName id) := by
  rw [allocateFor, h]
  rfl

/-! ## All containers

The ids of the containers one after another are tested as one list: what is first in it is first
among the containers and then within its container. -/

theorem mapM_allocateFor_of_advertised {containers : List ContainerAllocateRequest}
    (h : a.firstUnknown? (containers.flatMap (·.deviceIds)) = none) :
    containers.mapM (a.allocateFor pathExists) = .ok (containers.map (a.granted pathExists)) := by
  induction containers with
  | nil => rfl
  | cons c containers ih =>
    rw [List.flatMap_cons, firstUnknown?, List.find?_append, Option.or_eq_none_iff] at h
    rw [Traversal.mapM_cons_of_ok (allocateFor_of_advertised h.1), ih h.2]
    rfl

theorem mapM_allocateFor_of_unknown {containers : List ContainerAllocateRequest} {id : String}
    (h : a.firstUnknown? (containers.flatMap (·.deviceIds)) = some id) :
    containers.mapM (a.allocateFor pathExists)
      = .error (.unknownDevice a.settings.resourceName id) := by
  induction containers with
  | nil => cases h
  | cons c containers ih =>
    rw [List.flatMap_cons, firstUnknown?, List.find?_append, Option.or_eq_some_iff] at h
    rcases h with h | ⟨hc, h⟩
    · exact Traversal.mapM_cons_of_error (allocateFor_of_unknown h) containers
    · rw [Traversal.mapM_cons_of_ok (allocateFor_of_advertised hc), ih h]
      rfl

theorem allocate_of_advertised {request : AllocateRequest}
    (h : a.firstUnknown? request.ids = none) :
    a.allocate pathExists request = .ok ⟨request.containers.map (a.granted pathExists)⟩ := by
  rw [allocate, mapM_allocateFor_of_advertised h]
  rfl

theorem allocate_of_unknown {request : AllocateRequest} {id : String}
    (h : a.firstUnknown? request.ids = some id) :
    a.allocate pathExists request = .error (.unknownDevice a.settings.resourceName id) := by
  rw [allocate, mapM_allocateFor_of_unknown h]
  rfl

theorem allocate_eq_ok_iff {request : AllocateRequest} {response : AllocateResponse} :
    a.allocate pathExists request = .ok response ↔
      a.firstUnknown? request.ids = none ∧
        response.containers = request.containers.map (a.granted pathExists) := by
  obtain ⟨answers⟩ := response
  cases h : a.firstUnknown? request.ids with
  | none =>
    rw [allocate_of_advertised h, Except.ok.injEq, AllocateResponse.mk.injEq, eq_comm]
    exact ⟨fun hanswers => ⟨rfl, hanswers⟩, And.right⟩
  | some id =>
    rw [allocate_of_unknown h]
    exact ⟨nofun, nofun⟩

theorem allocate_eq_error_iff {request : AllocateRequest} {e : AllocationError} :
    a.allocate pathExists request = .error e ↔
      ∃ id, a.firstUnknown? request.ids = some id ∧
        e = .unknownDevice a.settings.resourceName id := by
  cases h : a.firstUnknown? request.ids with
  | none =>
    rw [allocate_of_advertised h]
    exact ⟨nofun, nofun⟩
  | some id =>
    rw [allocate_of_unknown h, Except.error.injEq, eq_comm]
    exact ⟨fun he => ⟨id, rfl, he⟩, fun ⟨_, hid, he⟩ => Option.some.inj hid ▸ he⟩

theorem forall_mem_ids {request : AllocateRequest} {P : String → Prop} :
    (∀ id ∈ request.ids, P id) ↔ ∀ c ∈ request.containers, ∀ id ∈ c.deviceIds, P id := by
  rw [AllocateRequest.ids, List.forall_mem_flatMap]

/-- **An allocation is granted exactly when every id of it is advertised**, with one answer for each
container in order.  Otherwise it is refused, with the first id that is not advertised and with no
other answer.  Once the ids are known to be advertised, the look-up of their devices refuses none,
whichever refusal it would give. -/
theorem allocate_exactly_advertised (a : Allocator) (pathExists : String → Bool)
    (request : AllocateRequest) :
    (∀ response, a.allocate pathExists request = .ok response ↔
      (∀ c ∈ request.containers, ∀ id ∈ c.deviceIds, id ∈ a.inventory.advertised) ∧
        response.containers = request.containers.map (a.granted pathExists)) ∧
    (∀ e, a.allocate pathExists request = .error e ↔
      ∃ before id after, request.ids = before ++ id :: after ∧
        (∀ q ∈ before, q ∈ a.inventory.advertised) ∧ id ∉ a.inventory.advertised ∧
        e = .unknownDevice a.settings.resourceName id) ∧
    ∀ refusal ids, (∀ id ∈ ids, id ∈ a.inventory.advertised) →
      ∃ devices, a.devicesBehind refusal ids = .ok devices ∧
        devices.map (·.id) = Replica.deviceIds ids := by
  refine ⟨fun response => ?_, fun e => ?_, fun refusal ids h =>
    ⟨_, devicesBehind_of_advertised h, Inventory.map_id_behind h⟩⟩
  · rw [← forall_mem_ids, ← firstUnknown?_eq_none_iff]
    exact allocate_eq_ok_iff
  · rw [allocate_eq_error_iff]
    constructor
    · rintro ⟨id, hid, he⟩
      obtain ⟨hnot, before, after, hids, hbefore⟩ := firstUnknown?_eq_some_iff.mp hid
      exact ⟨before, id, after, hids, hbefore, hnot, he⟩
    · rintro ⟨before, id, after, hids, hbefore, hnot, he⟩
      exact ⟨id, firstUnknown?_eq_some_iff.mpr ⟨hnot, before, after, hids, hbefore⟩, he⟩

end Allocator

end GpuPlugin
