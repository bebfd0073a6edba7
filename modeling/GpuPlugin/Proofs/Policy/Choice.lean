import GpuPlugin.Policy
import GpuPlugin.Proofs.Repetition

/-!
# Proofs/Policy/Choice — which devices a policy picks

A policy picks among the required and the available devices and makes none up: the required ones
first, and of devices with one id the one that is named first (`chosen_choose`).  It goes on until
it has `size` devices or as many as the required ones are **counted with their repetitions**.  So a
device that is required twice lets one more available device in than is due
(`required_twice_adds_one`), unless there is none or it is due anyway.
-/

namespace GpuPlugin.Policy

variable {available required : List Device} {size : Nat}

/-- **A policy picks among required and available devices.** -/
theorem mem_of_mem_choose {policy : Policy} {d : Device}
    (h : d ∈ policy.choose available required size) : d ∈ required ++ available := by
  cases policy with
  | simple =>
    have hfirst := Repetition.find?_of_mem_eraseDupsBy (List.mem_of_mem_take h)
    exact List.mem_of_find?_eq_some hfirst

/-! ## The ids of the chosen devices -/

/-- The ids of a list of devices, each once. -/
def idsOf (devices : List Device) : List String := (devices.map (·.id)).eraseDups

/-- The ids of the devices that are available and not required, each once. -/
def spareIds (available required : List Device) : List String :=
  (idsOf available).filter (· ∉ required.map (·.id))

theorem idsOf_append (required available : List Device) :
    idsOf (required ++ available) = idsOf required ++ spareIds available required := by
  rw [idsOf, List.map_append, Repetition.eraseDups_append_eq_filter]
  rfl

theorem length_idsOf_le_append (required available : List Device) :
    (idsOf required).length ≤ (idsOf (required ++ available)).length := by
  rw [idsOf_append, List.length_append]
  exact Nat.le_add_right _ _

theorem length_idsOf_le (devices : List Device) : (idsOf devices).length ≤ devices.length := by
  have hle := Repetition.length_eraseDups_le (devices.map (·.id))
  rwa [List.length_map] at hle

/-- **What is chosen is required or spare.**  All ids that are required are among the chosen ones,
as the bound is not below their number. -/
theorem map_id_choose (available required : List Device) (size : Nat) :
    (Policy.simple.choose available required size).map (·.id)
      = idsOf required ++ (spareIds available required).take
          (max size required.length - (idsOf required).length) := by
  have hroom : (idsOf required).length ≤ max size required.length :=
    Nat.le_trans (length_idsOf_le required) (Nat.le_max_right _ _)
  rw [choose, List.map_take, Repetition.map_eraseDupsBy, ← idsOf, idsOf_append, List.take_append,
    List.take_of_length_le hroom]

theorem length_choose (available required : List Device) (size : Nat) :
    (Policy.simple.choose available required size).length
      = min (max size required.length) (idsOf (required ++ available)).length := by
  have hle := length_idsOf_le required
  rw [← List.length_map (·.id), map_id_choose, idsOf_append, List.length_append, List.length_append,
    List.length_take]
  omega

/-! ## The number of chosen devices -/

/-- **How many devices are due**: `size`, or as many as there are, and all that are required. -/
def due (available required : List Device) (size : Nat) : Nat :=
  max (idsOf required).length (min size (idsOf (required ++ available)).length)

theorem due_le_length_choose :
    due available required size ≤ (Policy.simple.choose available required size).length := by
  have hall := length_idsOf_le_append required available
  have hle := length_idsOf_le required
  rw [length_choose, due]
  omega

/-- **As many devices are chosen as are due**, unless a required device that is named again counts
twice, and this lets a device in for which there is no room. -/
theorem length_choose_eq_due_iff :
    (Policy.simple.choose available required size).length = due available required size ↔
      (required.map (·.id)).Nodup ∨ required.length ≤ size ∨
        (idsOf (required ++ available)).length ≤ max size (idsOf required).length := by
  have hle := length_idsOf_le required
  have hall := length_idsOf_le_append required available
  have hnodup : (required.map (·.id)).Nodup ↔ (idsOf required).length = required.length := by
    rw [← Repetition.length_eraseDups_eq_iff, List.length_map, idsOf]
  rw [length_choose, due, hnodup]
  omega

/-! ## The choice -/

/-- **What a choice of whole devices keeps to.** -/
structure Chosen (available required : List Device) (size : Nat) (chosen : List Device) : Prop where
  /-- No two chosen devices have the same id. -/
  nodup : (chosen.map (·.id)).Nodup
  /-- Of the devices with one id the first is chosen, required ones being looked at first. -/
  first : ∀ d ∈ chosen, (required ++ available).find? (·.id == d.id) = some d
  /-- The required ids come first, in the order in which they are first named, and then the first of
  the available ids that are not chosen yet, in order. -/
  ids : ∃ further, chosen.map (·.id) = (required.map (·.id)).eraseDups ++ further ∧
    further <+: (available.map (·.id)).eraseDups.filter (· ∉ required.map (·.id))
  length : chosen.length
    = min (max size required.length) ((required ++ available).map (·.id)).eraseDups.length

theorem chosen_simple (available required : List Device) (size : Nat) :
    Chosen available required size (Policy.simple.choose available required size) where
  nodup := by
    rw [choose, List.map_take, Repetition.map_eraseDupsBy]
    exact (Repetition.nodup_eraseDups _).sublist (List.take_sublist _ _)
  first _ hd := Repetition.find?_of_mem_eraseDupsBy (List.mem_of_mem_take hd)
  ids := ⟨_, map_id_choose available required size, List.take_prefix _ _⟩
  length := length_choose available required size

/-- **What a policy chooses**, with whatever repetitions and overlaps it is asked: the required
devices and then available ones, each id once.  There are never fewer than are due, and just as many
if no device is required twice, or if `size` leaves room for all that are required as often as they
are named, or if the devices that are due are all there are. -/
theorem chosen_choose (available required : List Device) (size : Nat) :
    Chosen available required size (Policy.simple.choose available required size) ∧
      due available required size ≤ (Policy.simple.choose available required size).length ∧
      ((Policy.simple.choose available required size).length = due available required size ↔
        (required.map (·.id)).Nodup ∨ required.length ≤ size ∨
          (idsOf (required ++ available)).length ≤ max size (idsOf required).length) :=
  ⟨chosen_simple available required size, due_le_length_choose, length_choose_eq_due_iff⟩

/-- Of two devices one is required twice.  It is all that is due, but the other is chosen as well.
-/
theorem required_twice_adds_one :
    let a : Device := ⟨"GPU-a", "0", 4000, [], .healthy⟩
    let b : Device := ⟨"GPU-b", "1", 4000, [], .healthy⟩
    Policy.simple.choose [b] [a, a] 1 = [a, b] ∧ due [b] [a, a] 1 = 1 ∧
      (Policy.simple.choose [b] [a, a] 1).length ≠ due [b] [a, a] 1 := by
  decide

end GpuPlugin.Policy
