import GpuPlugin.Proofs.Allocation.Refusal
import GpuPlugin.Proofs.Policy.Choice
import GpuPlugin.Proofs.Ranking.Whole

/-!
# Proofs/Allocation/Agreement — a policy and a ranking choose alike

Devices that are not split are left to a policy, others are ranked.  The two ways of choosing agree
where both apply: if the ids of the devices have no separator in them, they are cut to themselves,
and a ranking of these ids takes them as the policy takes the devices, the required ones and then
the spare ones in order (`preferred_eq_select`).
-/

namespace GpuPlugin

namespace Inventory

variable {inv : Inventory} {ids : List String}

/-- The ids of all devices of an inventory are whole: they have no separator in them. -/
def HasWholeIds (inv : Inventory) : Prop := ∀ d ∈ inv.devices, ¬ Replica.HasSeparator d.id

instance (inv : Inventory) : Decidable inv.HasWholeIds :=
  inferInstanceAs (Decidable (∀ d ∈ inv.devices, ¬ Replica.HasSeparator d.id))

/-- **What listed ids are cut to is not cut any further.** -/
theorem HasWholeIds.deviceId_eq (hwhole : inv.HasWholeIds)
    (hlisted : ∀ id ∈ ids, inv.Lists (Replica.deviceId id)) :
    ∀ device ∈ Replica.deviceIds ids, Replica.deviceId device = device := by
  intro device hdevice
  obtain ⟨id, hid, rfl⟩ := Replica.mem_deviceIds.mp hdevice
  obtain ⟨d, hd, hname⟩ := hlisted id hid
  rw [← hname]
  exact Replica.deviceId_of_not_hasSeparator (hwhole d hd)

end Inventory

namespace Allocator

variable {a : Allocator} {c : ContainerPreferredRequest} {size : Nat}

/-! ## One container -/

section Container

variable (havailable : ∀ id ∈ c.available, a.inventory.Lists (Replica.deviceId id))
  (hrequired : ∀ id ∈ c.required, a.inventory.Lists (Replica.deviceId id))

include hrequired

/-- **No request requires a device twice**, so a policy chooses as many devices as are due. -/
theorem length_choose_behind (available : List Device) :
    (Policy.simple.choose available (a.inventory.behind c.required) size).length
      = Policy.due available (a.inventory.behind c.required) size := by
  refine Policy.length_choose_eq_due_iff.mpr (.inl ?_)
  rw [Inventory.map_id_behind_of_listed hrequired]
  exact Repetition.nodup_eraseDups _

include havailable

/-- **A policy takes the devices behind a request in order.** -/
theorem map_id_choose_behind :
    (Policy.simple.choose (a.inventory.behind c.available) (a.inventory.behind c.required) size).map
        (·.id)
      = (Replica.deviceIds c.required).eraseDups ++
        (Ranking.spare (Replica.deviceIds c.available) (Replica.deviceIds c.required)).take
          (size - (Replica.deviceIds c.required).eraseDups.length) := by
  have hids := Inventory.map_id_behind_of_listed hrequired
  have honce : (Replica.deviceIds c.required).eraseDups = Replica.deviceIds c.required :=
    Repetition.eraseDups_eraseDups _
  have hlength :
      (a.inventory.behind c.required).length = (Replica.deviceIds c.required).length := by
    rw [← hids, List.length_map]
  have hroom : max size (Replica.deviceIds c.required).length
        - (Replica.deviceIds c.required).length
      = size - (Replica.deviceIds c.required).length := by omega
  rw [Policy.map_id_choose, Policy.spareIds, Policy.idsOf, Policy.idsOf, hids,
    Inventory.map_id_behind_of_listed havailable, hlength, honce, hroom, Ranking.spare]

/-- A container is answered by its policy as by a ranking of its devices. -/
theorem select_deviceIds (hwhole : a.inventory.HasWholeIds) :
    Ranking.select (Replica.deviceIds c.available) (Replica.deviceIds c.required) size
      = .ok ((Policy.simple.choose (a.inventory.behind c.available)
          (a.inventory.behind c.required) size).map (·.id)) := by
  rw [map_id_choose_behind havailable hrequired]
  refine Ranking.select_of_whole (List.forall_mem_append.mpr ⟨?_, ?_⟩) size
  · exact hwhole.deviceId_eq hrequired
  · exact hwhole.deviceId_eq havailable

end Container

/-! ## All containers -/

/-- **A policy chooses as a ranking does**, among devices that are not split and whose ids have no
separator in them.  Each container of a request that is answered is given just what a ranking
selects from the devices it names, each once, and this selection is never reported as not unique.
-/
theorem preferred_eq_select {request : PreferredRequest} {response : PreferredResponse}
    (hwhole : a.inventory.HasWholeIds) (hshared : a.settings.replication.isShared = false)
    (hpolicy : a.policy = some .simple) (h : a.preferred request = .ok response) :
    List.Forall₂
      (fun c r => Ranking.select (Replica.deviceIds c.available) (Replica.deviceIds c.required)
        c.size.toInt.toNat = .ok r.deviceIds)
      request.containers response.containers := by
  refine (preferred_eq_ok_iff.mp h).imp fun c r hr => ?_
  obtain ⟨hlisted, hanswer⟩ := preferredFor_eq_ok_iff.mp hr
  obtain ⟨havailable, hrequired⟩ := List.forall_mem_append.mp hlisted
  rw [List.forall_mem_map] at havailable hrequired
  rw [preference?, hshared, hpolicy] at hanswer
  obtain rfl := Option.some.inj hanswer
  exact select_deviceIds havailable hrequired hwhole

/-- A device that is required under two names and available under a third; in the other container a
negative size. -/
theorem preferred_eq_select_of_overlap :
    let gpus : List Device :=
      [⟨"GPU-a", "0", 4000, [], .healthy⟩, ⟨"GPU-b:", "1", 4000, [], .healthy⟩,
        ⟨"GPU-c", "2", 4000, [], .healthy⟩]
    let a : Allocator := ⟨{ replication := .fixed 1 }, ⟨gpus, .fixed 1⟩, some .simple⟩
    let request : PreferredRequest :=
      ⟨[⟨["GPU-c::0", "GPU-a::7", "GPU-b:::0"], ["GPU-a::0", "GPU-a"], 2⟩, ⟨["GPU-c"], [], -1⟩]⟩
    let response : PreferredResponse := ⟨[⟨["GPU-a", "GPU-c"]⟩, ⟨[]⟩]⟩
    a.inventory.HasWholeIds ∧ a.settings.replication.isShared = false ∧
      a.policy = some .simple ∧ a.preferred request = .ok response ∧
      List.Forall₂
        (fun c r => Ranking.select (Replica.deviceIds c.available) (Replica.deviceIds c.required)
          c.size.toInt.toNat = .ok r.deviceIds)
        request.containers response.containers := by
  intro gpus a request response
  have hwhole : a.inventory.HasWholeIds := by decide +kernel
  have hpreferred : a.preferred request = .ok response := by decide +kernel
  exact ⟨hwhole, rfl, rfl, hpreferred, preferred_eq_select hwhole rfl rfl hpreferred⟩

end Allocator

end GpuPlugin
