import GpuPlugin.Proofs.Allocation.Grant
import GpuPlugin.Proofs.Repetition
import Mathlib.Logic.Relation

/-!
# Proofs/Allocation/Indifference — what an allocation does not depend on

An allocation is about devices: which of its replicas a device is asked for by, and how often,
makes no difference.  So a request can be reworded (`AllocateRequest.Rewords`), any number of
times, and the answer stays the same to the last field.  Nor do the containers of a request know of
each other: two requests put one after the other are answered one after the other
(`allocate_indifferent`).
-/

namespace GpuPlugin

/-! ## Rewordings -/

/-- **One rewording** of the ids of a container.  Ids of the same device are those that are cut to
the same id. -/
inductive Inventory.Rewords (inv : Inventory) : List String → List String → Prop
  /-- An id is replaced by another advertised one of its device. -/
  | replace {before after : List String} {id id' : String} (hadvertised : id' ∈ inv.advertised)
      (hdevice : Replica.deviceId id' = Replica.deviceId id) :
      inv.Rewords (before ++ id :: after) (before ++ id' :: after)
  /-- A further advertised id of a device is inserted somewhere after one that names it. -/
  | insert {before after : List String} {id id' : String} (hadvertised : id' ∈ inv.advertised)
      (hnamed : id ∈ before) (hdevice : Replica.deviceId id' = Replica.deviceId id) :
      inv.Rewords (before ++ after) (before ++ id' :: after)

/-- One rewording of a request: that of one of its containers. -/
inductive AllocateRequest.Rewords (inv : Inventory) : AllocateRequest → AllocateRequest → Prop
  | container {before after : List ContainerAllocateRequest} {ids ids' : List String}
      (h : inv.Rewords ids ids') :
      Rewords inv ⟨before ++ ⟨ids⟩ :: after⟩ ⟨before ++ ⟨ids'⟩ :: after⟩

namespace Inventory.Rewords

variable {inv : Inventory} {ids ids' : List String}

/-- **A rewording names the same devices**, in the same order. -/
theorem deviceIds_eq (h : inv.Rewords ids ids') :
    Replica.deviceIds ids' = Replica.deviceIds ids := by
  cases h with
  | replace _ hdevice =>
    simp only [Replica.deviceIds, List.map_append, List.map_cons, hdevice]
  | insert _ hnamed hdevice =>
    simp only [Replica.deviceIds, List.map_append, List.map_cons, hdevice]
    exact Repetition.eraseDups_append_cons_of_mem (List.mem_map_of_mem hnamed) _

/-- A rewording brings in advertised ids only. -/
theorem forall_advertised (h : inv.Rewords ids ids') (hids : ∀ id ∈ ids, id ∈ inv.advertised) :
    ∀ id ∈ ids', id ∈ inv.advertised := by
  cases h with
  | replace hadvertised =>
    obtain ⟨hbefore, hafter⟩ := List.forall_mem_append.mp hids
    exact List.forall_mem_append.mpr ⟨hbefore,
      List.forall_mem_cons.mpr ⟨hadvertised, (List.forall_mem_cons.mp hafter).2⟩⟩
  | insert hadvertised =>
    obtain ⟨hbefore, hafter⟩ := List.forall_mem_append.mp hids
    exact List.forall_mem_append.mpr ⟨hbefore, List.forall_mem_cons.mpr ⟨hadvertised, hafter⟩⟩

end Inventory.Rewords

/-! ## Requests one after the other -/

/-- The answers to two requests, put one after the other.  The first refusal is the answer. -/
def AllocateResponse.joined :
    Except AllocationError AllocateResponse → Except AllocationError AllocateResponse →
      Except AllocationError AllocateResponse
  | .error e, _ => .error e
  | .ok _, .error e => .error e
  | .ok r, .ok s => .ok ⟨r.containers ++ s.containers⟩

namespace Allocator

variable {a : Allocator} {pathExists : String → Bool} {request request' : AllocateRequest}
  {response : AllocateResponse}

/-- **A reworded request is answered as before.** -/
theorem allocate_of_rewords (h : request.Rewords a.inventory request')
    (hanswer : a.allocate pathExists request = .ok response) :
    a.allocate pathExists request' = .ok response := by
  obtain ⟨hknown, hanswers⟩ := allocate_eq_ok_iff.mp hanswer
  have hadvertised := forall_mem_ids.mp (firstUnknown?_eq_none_iff.mp hknown)
  cases h with
  | @container before after ids ids' h =>
    obtain ⟨hbefore, hrest⟩ := List.forall_mem_append.mp hadvertised
    obtain ⟨hids, hafter⟩ := List.forall_mem_cons.mp hrest
    refine allocate_eq_ok_iff.mpr ⟨firstUnknown?_eq_none_iff.mpr (forall_mem_ids.mpr ?_), ?_⟩
    · exact List.forall_mem_append.mpr
        ⟨hbefore, List.forall_mem_cons.mpr ⟨h.forall_advertised hids, hafter⟩⟩
    · have hgranted : a.granted pathExists ⟨ids'⟩ = a.granted pathExists ⟨ids⟩ := by
        rw [granted, granted, Inventory.behind, Inventory.behind, h.deviceIds_eq]
      rw [hanswers, List.map_append, List.map_append, List.map_cons, List.map_cons, hgranted]

/-- The same after any number of rewordings. -/
theorem allocate_of_reworded
    (h : Relation.ReflTransGen (AllocateRequest.Rewords a.inventory) request request')
    (hanswer : a.allocate pathExists request = .ok response) :
    a.allocate pathExists request' = .ok response := by
  induction h with
  | refl => exact hanswer
  | tail _ hstep ih => exact allocate_of_rewords hstep ih

theorem allocate_append (a : Allocator) (pathExists : String → Bool)
    (first second : AllocateRequest) :
    a.allocate pathExists ⟨first.containers ++ second.containers⟩
      = AllocateResponse.joined (a.allocate pathExists first)
          (a.allocate pathExists second) := by
  rw [allocate, allocate, allocate, List.mapM_append]
  cases first.containers.mapM (a.allocateFor pathExists) with
  | error e => rfl
  | ok r => cases second.containers.mapM (a.allocateFor pathExists) <;> rfl

/-- **An allocation depends neither on which replicas its devices are asked for by, nor on the other
containers.**  A request that is granted is answered in just the same way after any number of
rewordings.  Two requests put one after the other are answered one after the other: as the first one
is refused, or else as the second one is refused, or else with all answers in order. -/
theorem allocate_indifferent (a : Allocator) (pathExists : String → Bool) :
    (∀ request request' response,
      Relation.ReflTransGen (AllocateRequest.Rewords a.inventory) request request' →
      a.allocate pathExists request = .ok response →
      a.allocate pathExists request' = .ok response) ∧
    ∀ first second : AllocateRequest,
      a.allocate pathExists ⟨first.containers ++ second.containers⟩
        = AllocateResponse.joined (a.allocate pathExists first)
            (a.allocate pathExists second) :=
  ⟨fun _ _ _ h hanswer => allocate_of_reworded h hanswer, allocate_append a pathExists⟩

/-- An id is replaced by that of the device's other replica, which is then asked for once more
behind another device. -/
theorem allocate_indifferent_of_two_rewordings :
    let gpus : List Device :=
      [⟨"GPU-a", "0", 4000, ["/dev/nvidia0"], .healthy⟩,
        ⟨"GPU-b", "1", 4000, ["/dev/nvidia1"], .healthy⟩]
    let a : Allocator := ⟨{ passDeviceSpecs := true, replication := .fixed 2 },
      ⟨gpus, .fixed 2⟩, none⟩
    let pathExists : String → Bool := (· == "/dev/nvidiactl")
    let request : AllocateRequest := ⟨[⟨[]⟩, ⟨["GPU-b::1", "GPU-a::0"]⟩]⟩
    let request' : AllocateRequest := ⟨[⟨[]⟩, ⟨["GPU-b::0", "GPU-a::0", "GPU-b::1"]⟩]⟩
    let response : AllocateResponse := ⟨request.containers.map (a.granted pathExists)⟩
    Relation.ReflTransGen (AllocateRequest.Rewords a.inventory) request request' ∧
      a.allocate pathExists request = .ok response ∧
      response.containers.map (·.devices.map (·.hostPath))
        = [["/dev/nvidiactl"], ["/dev/nvidiactl", "/dev/nvidia1", "/dev/nvidia0"]] ∧
      a.allocate pathExists request' = .ok response := by
  intro gpus a pathExists request request' response
  have hreplaced : a.inventory.Rewords ([] ++ "GPU-b::1" :: ["GPU-a::0"])
      ([] ++ "GPU-b::0" :: ["GPU-a::0"]) := .replace (by decide +kernel) (by decide +kernel)
  have hinserted : a.inventory.Rewords (["GPU-b::0", "GPU-a::0"] ++ [])
      (["GPU-b::0", "GPU-a::0"] ++ "GPU-b::1" :: []) :=
    .insert (by decide +kernel) List.mem_cons_self (by decide +kernel)
  have hreworded : Relation.ReflTransGen (AllocateRequest.Rewords a.inventory) request request' :=
    (Relation.ReflTransGen.single
      (@AllocateRequest.Rewords.container _ [⟨[]⟩] [] _ _ hreplaced)).tail
      (@AllocateRequest.Rewords.container _ [⟨[]⟩] [] _ _ hinserted)
  have hallocate : a.allocate pathExists request = .ok response :=
    allocate_of_advertised (by decide +kernel)
  exact ⟨hreworded, hallocate, by decide +kernel,
    (allocate_indifferent a pathExists).1 request request' response hreworded hallocate⟩

end Allocator

end GpuPlugin
