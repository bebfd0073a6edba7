import GpuPlugin.Proofs.Allocation.Grant
import GpuPlugin.Proofs.Ranking.Selection

/-!
# Proofs/Allocation/Refusal — which preferences are refused, and how

A preferred request names its ids container by container, the available ones before the required
ones.  The first that leads to no listed device is the refusal of the whole request, by the device
it was cut to and the list it came from (`preferred_eq_error_iff`).  Only where there is nothing to
base a preference on (`Prefers`) can a container be refused although all of its devices are listed,
and then it always is.
-/

namespace GpuPlugin

/-- The ids of a container's request in the order in which they are looked at, each with the list it
is in. -/
def ContainerPreferredRequest.mentions (c : ContainerPreferredRequest) :
    List (PreferredList × String) :=
  c.available.map (.available, ·) ++ c.required.map (.required, ·)

/-- The ids of a request, container by container. -/
def PreferredRequest.mentions (request : PreferredRequest) : List (PreferredList × String) :=
  request.containers.flatMap (·.mentions)

namespace Inventory

variable {inv : Inventory} {e : AllocationError}

/-- The refusal of a device, unless it is listed. -/
def unlisted? (inv : Inventory) (refusal : String → AllocationError) (device : String) :
    Option AllocationError :=
  match inv.device? device with
  | some _ => none
  | none => some (refusal device)

theorem unlisted?_eq_none_iff {refusal : String → AllocationError} {device : String} :
    inv.unlisted? refusal device = none ↔ inv.Lists device := by
  rw [← not_iff_not, ← device?_eq_none_iff, unlisted?]
  split
  next hfound => simp [hfound]
  next hnone => simp [hnone]

theorem unlisted?_eq_some_iff {refusal : String → AllocationError} {device : String} :
    inv.unlisted? refusal device = some e ↔ ¬ inv.Lists device ∧ e = refusal device := by
  rw [← device?_eq_none_iff, unlisted?]
  split
  next hfound => simp [hfound]
  next hnone => simp [hnone, eq_comm]

/-- The refusal of an id in a preferred request, unless it leads to a listed device. -/
def refusal? (inv : Inventory) (m : PreferredList × String) : Option AllocationError :=
  inv.unlisted? (.unknownPreferred m.1) (Replica.deviceId m.2)

/-- **The first refusal** among the ids of a request names the list and the device of the first that
leads to none. -/
theorem findSome?_refusal?_eq_some_iff {mentions : List (PreferredList × String)} :
    mentions.findSome? inv.refusal? = some e ↔
      ∃ before m after, mentions = before ++ m :: after ∧
        (∀ q ∈ before, inv.Lists (Replica.deviceId q.2)) ∧ ¬ inv.Lists (Replica.deviceId m.2) ∧
        e = .unknownPreferred m.1 (Replica.deviceId m.2) := by
  rw [List.findSome?_eq_some_iff]
  simp only [refusal?, unlisted?_eq_some_iff, unlisted?_eq_none_iff]
  constructor
  · rintro ⟨before, m, after, hsplit, ⟨hnot, he⟩, hbefore⟩
    exact ⟨before, m, after, hsplit, hbefore, hnot, he⟩
  · rintro ⟨before, m, after, hsplit, hbefore, hnot, he⟩
    exact ⟨before, m, after, hsplit, ⟨hnot, he⟩, hbefore⟩

theorem findSome?_refusal?_eq_none_iff {mentions : List (PreferredList × String)} :
    mentions.findSome? inv.refusal? = none ↔
      ∀ m ∈ mentions, inv.Lists (Replica.deviceId m.2) := by
  rw [List.findSome?_eq_none_iff]
  simp only [refusal?, unlisted?_eq_none_iff]

end Inventory

namespace Allocator

variable {a : Allocator} {c : ContainerPreferredRequest} {e : AllocationError}

/-! ## One container -/

/-- **The first device that is not listed is refused.** -/
theorem devicesBehind_of_unlisted {refusal : String → AllocationError} {ids : List String}
    (hfirst : (ids.map Replica.deviceId).findSome? (a.inventory.unlisted? refusal) = some e) :
    a.devicesBehind refusal ids = .error e := by
  rw [← Traversal.findSome?_eraseDups] at hfirst
  refine Traversal.mapM_eq_error_of_findSome? (fun device hdevice => ?_)
    (fun device e' hdevice => ?_) hfirst
  · obtain ⟨d, hd⟩ := (Inventory.unlisted?_eq_none_iff.mp hdevice).exists_device?
    exact ⟨d, by rw [hd]⟩
  · obtain ⟨hnot, rfl⟩ := Inventory.unlisted?_eq_some_iff.mp hdevice
    rw [Inventory.device?_eq_none_iff.mpr hnot]

/-- There is something to base a preference on. -/
def Prefers (a : Allocator) : Prop :=
  (a.policy.isSome || a.settings.replication.isShared) = true

/-- What a container is answered when all of its devices are listed, if there is something to base a
preference on. -/
def preference? (a : Allocator) (c : ContainerPreferredRequest) :
    Option ContainerPreferredResponse :=
  let size := c.size.toInt.toNat
  if a.settings.replication.isShared then
    some ⟨Ranking.selected c.available c.required size⟩
  else
    a.policy.map fun policy =>
      ⟨(policy.choose (a.inventory.behind c.available) (a.inventory.behind c.required) size).map
        (·.id)⟩

theorem isSome_preference?_iff : (a.preference? c).isSome = true ↔ a.Prefers := by
  rw [preference?, Prefers]
  cases a.settings.replication.isShared <;> simp

theorem preferredFor_of_listed
    (hlisted : ∀ m ∈ c.mentions, a.inventory.Lists (Replica.deviceId m.2)) :
    a.preferredFor c =
      match a.preference? c with
      | some r => .ok r
      | none => .error .noPreference := by
  obtain ⟨havailable, hrequired⟩ := List.forall_mem_append.mp hlisted
  rw [List.forall_mem_map] at havailable hrequired
  rw [preferredFor, devicesBehind_of_listed havailable, devicesBehind_of_listed hrequired]
  change (if _ then _ else _) = _
  rw [preference?]
  split
  · rw [Ranking.selected]
    cases Ranking.select c.available c.required c.size.toInt.toNat <;> rfl
  · cases a.policy <;> rfl

theorem preferredFor_of_unlisted (hfirst : c.mentions.findSome? a.inventory.refusal? = some e) :
    a.preferredFor c = .error e := by
  rw [ContainerPreferredRequest.mentions, List.findSome?_append, Option.or_eq_some_iff] at hfirst
  rcases hfirst with hfirst | ⟨hnone, hfirst⟩
  · have havailable : (c.available.map Replica.deviceId).findSome?
        (a.inventory.unlisted? (.unknownPreferred .available)) = some e := by
      rwa [List.findSome?_map] at hfirst ⊢
    rw [preferredFor, devicesBehind_of_unlisted havailable]
    rfl
  · have hlisted := Inventory.findSome?_refusal?_eq_none_iff.mp hnone
    rw [List.forall_mem_map] at hlisted
    have hrequired : (c.required.map Replica.deviceId).findSome?
        (a.inventory.unlisted? (.unknownPreferred .required)) = some e := by
      rwa [List.findSome?_map] at hfirst ⊢
    rw [preferredFor, devicesBehind_of_listed hlisted, devicesBehind_of_unlisted hrequired]
    rfl

theorem preferredFor_eq_ok_iff {r : ContainerPreferredResponse} :
    a.preferredFor c = .ok r ↔
      (∀ m ∈ c.mentions, a.inventory.Lists (Replica.deviceId m.2)) ∧ a.preference? c = some r := by
  cases hfirst : c.mentions.findSome? a.inventory.refusal? with
  | some e =>
    obtain ⟨before, m, after, hsplit, -, hnot, -⟩ :=
      Inventory.findSome?_refusal?_eq_some_iff.mp hfirst
    rw [preferredFor_of_unlisted hfirst]
    refine ⟨nofun, fun h => absurd (h.1 m ?_) hnot⟩
    rw [hsplit]
    exact List.mem_append_right before List.mem_cons_self
  | none =>
    have hlisted := Inventory.findSome?_refusal?_eq_none_iff.mp hfirst
    rw [preferredFor_of_listed hlisted, and_iff_right hlisted]
    cases a.preference? c with
    | none => exact ⟨nofun, nofun⟩
    | some r' => rw [Except.ok.injEq, Option.some.injEq]

/-! ## All containers -/

theorem preferred_eq_ok_iff {request : PreferredRequest} {response : PreferredResponse} :
    a.preferred request = .ok response ↔
      List.Forall₂ (fun c r => a.preferredFor c = .ok r)
        request.containers response.containers := by
  rw [← Traversal.mapM_eq_ok_iff, preferred]
  obtain ⟨answers⟩ := response
  cases request.containers.mapM a.preferredFor with
  | error e => exact ⟨nofun, nofun⟩
  | ok rs =>
    refine ⟨fun h => ?_, fun h => ?_⟩
    · rw [PreferredResponse.mk.inj (Except.ok.inj h)]
    · rw [Except.ok.inj h]
      rfl

/-- **A request is answered if all of its devices are listed and each container has a preference**,
which is then its answer. -/
theorem preferred_eq_ok_iff_listed {request : PreferredRequest} {response : PreferredResponse} :
    a.preferred request = .ok response ↔
      (∀ m ∈ request.mentions, a.inventory.Lists (Replica.deviceId m.2)) ∧
        List.Forall₂ (fun c r => a.preference? c = some r)
          request.containers response.containers := by
  rw [preferred_eq_ok_iff, PreferredRequest.mentions, List.forall_mem_flatMap,
    ← List.forall₂_and_left]
  simp only [preferredFor_eq_ok_iff]

theorem preferred_of_mapM_eq_error {request : PreferredRequest}
    (h : request.containers.mapM a.preferredFor = .error e) : a.preferred request = .error e := by
  rw [preferred, h]
  rfl

/-- **With nothing to base a preference on, the first container is refused**, whatever comes after
it: for its first device that is not listed, or else for want of a preference. -/
theorem preferred_of_not_prefers (hnot : ¬ a.Prefers) {rest : List ContainerPreferredRequest} :
    a.preferred ⟨c :: rest⟩
      = .error ((c.mentions.findSome? a.inventory.refusal?).getD .noPreference) := by
  refine preferred_of_mapM_eq_error (Traversal.mapM_cons_of_error ?_ rest)
  cases hfirst : c.mentions.findSome? a.inventory.refusal? with
  | some e => exact preferredFor_of_unlisted hfirst
  | none =>
    have hnone : a.preference? c = none :=
      Option.not_isSome_iff_eq_none.mp (mt isSome_preference?_iff.mp hnot)
    rw [preferredFor_of_listed (Inventory.findSome?_refusal?_eq_none_iff.mp hfirst), hnone]
    rfl

section Prefers

variable (hprefers : a.Prefers) {request : PreferredRequest}

include hprefers

theorem exists_preference? (c : ContainerPreferredRequest) : ∃ r, a.preference? c = some r :=
  Option.isSome_iff_exists.mp (isSome_preference?_iff.mpr hprefers)

theorem preferred_of_unlisted
    (hfirst : request.mentions.findSome? a.inventory.refusal? = some e) :
    a.preferred request = .error e := by
  rw [PreferredRequest.mentions, Traversal.findSome?_flatMap] at hfirst
  refine preferred_of_mapM_eq_error (Traversal.mapM_eq_error_of_findSome? (fun c hc => ?_)
    (fun c e' hc => preferredFor_of_unlisted hc) hfirst)
  obtain ⟨r, hr⟩ := exists_preference? hprefers c
  exact ⟨r, preferredFor_eq_ok_iff.mpr ⟨Inventory.findSome?_refusal?_eq_none_iff.mp hc, hr⟩⟩

/-- **With something to base a preference on, a request is refused for its first device that is not
listed**, and for nothing else. -/
theorem preferred_eq_error_iff :
    a.preferred request = .error e ↔
      request.mentions.findSome? a.inventory.refusal? = some e := by
  refine ⟨fun herror => ?_, preferred_of_unlisted hprefers⟩
  cases hfirst : request.mentions.findSome? a.inventory.refusal? with
  | some e' =>
    rw [preferred_of_unlisted hprefers hfirst] at herror
    rw [Except.error.inj herror]
  | none =>
    have hlisted := Inventory.findSome?_refusal?_eq_none_iff.mp hfirst
    have hanswered : request.containers.mapM a.preferredFor
        = .ok (request.containers.filterMap a.preference?) := by
      refine Traversal.mapM_eq_ok_filterMap fun c hc => ?_
      obtain ⟨r, hr⟩ := exists_preference? hprefers c
      refine ⟨r, hr, preferredFor_eq_ok_iff.mpr ⟨fun m hm => ?_, hr⟩⟩
      exact hlisted m (List.mem_flatMap.mpr ⟨c, hc, hm⟩)
    rw [preferred, hanswered] at herror
    cases herror

end Prefers

end Allocator

end GpuPlugin
