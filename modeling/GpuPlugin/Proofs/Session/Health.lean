import GpuPlugin.Plugin
import GpuPlugin.Proofs.Inventory.Advertised
import Mathlib.Data.List.Forall2

/-!
# Proofs/Session/Health — what reports leave of a snapshot

A report is matched against the device behind each replica, and replica ids lead back to their own
device only.  So a report breaks exactly the replicas of the device it names, and after any number
of reports the snapshot depends on nothing but which ids were reported
(`snapshot_determined_by_reports`).
-/

namespace GpuPlugin

namespace Session

/-! ## A run of reports -/

/-- The session after reports, one after another. -/
def after (s : Session) (reports : List String) : Session := reports.foldl report s

/-- A replica after reports: broken if the device behind it is among them. -/
def marked (reports : List String) (r : Device) : Device :=
  if Replica.deviceId r.id ∈ reports then r.failed else r

theorem marked_nil (r : Device) : marked [] r = r := if_neg List.not_mem_nil

/-- Marking changes the health and nothing else. -/
theorem marked_eq (reports : List String) (r : Device) :
    marked reports r = { r with health := (marked reports r).health } := by
  rw [marked]
  split <;> rfl

theorem health_marked (reports : List String) (r : Device) :
    (marked reports r).health = .unhealthy ↔
      r.health = .unhealthy ∨ Replica.deviceId r.id ∈ reports := by
  by_cases h : Replica.deviceId r.id ∈ reports
  · rw [marked, if_pos h]
    exact ⟨fun _ => Or.inr h, fun _ => rfl⟩
  · rw [marked, if_neg h]
    exact ⟨Or.inl, fun hr => hr.resolve_right h⟩

/-- A replica is marked by reports on its own device, whatever else its id looks like. -/
theorem health_marked_ofDevice (reports : List String) (d : Device) (i : Nat) :
    (marked reports (Replica.ofDevice d i)).health = .unhealthy ↔
      d.health = .unhealthy ∨ d.id ∈ reports := by
  rw [health_marked, Replica.ofDevice, Replica.deviceId_id]

/-- One report first and others after it come to all of them at once. -/
theorem marked_reported (id : String) (reports : List String) (r : Device) :
    marked reports (if Replica.deviceId r.id = id then r.failed else r)
      = marked (id :: reports) r := by
  by_cases h : Replica.deviceId r.id = id
  · rw [if_pos h, marked, Device.failed_id, Device.failed_failed, ite_self]
    exact (if_pos (h ▸ List.mem_cons_self)).symm
  · rw [if_neg h, marked, marked]
    simp only [List.mem_cons, h, false_or]

/-- **Reports mark each replica on its own.** -/
theorem snapshot_after (s : Session) (reports : List String) :
    (s.after reports).snapshot = s.snapshot.map (marked reports) := by
  induction reports generalizing s with
  | nil => exact (List.map_id'' marked_nil s.snapshot).symm
  | cons id reports ih =>
    rw [after, List.foldl_cons, ← after, ih, report, reported, List.map_map]
    exact List.map_congr_left fun r _ => marked_reported id reports r

variable (number : Nat) (settings : Settings) (policy : Option Policy) (options : Options)

theorem snapshot_new_after (inv : Inventory) (reports : List String) :
    ((new number settings policy options inv).after reports).snapshot
      = inv.origins.map fun o => marked reports (Replica.ofDevice o.1 o.2) := by
  rw [snapshot_after, new, inv.replicas_eq_map_origins, List.map_map]
  rfl

/-- **The snapshot is determined by the set of reported ids.**  Member by member it is the
advertised list in its order, except for the health; a replica is broken if it was so from the
beginning or the id of the device it is made of has been reported.  Hence neither order nor
repetition of the reports matters, and what is broken stays broken. -/
theorem snapshot_determined_by_reports (inv : Inventory) (reports : List String) :
    let begun := new number settings policy options inv
    inv.replicas = inv.origins.map (fun o => Replica.ofDevice o.1 o.2) ∧
    List.Forall₂
      (fun o r => r = { Replica.ofDevice o.1 o.2 with health := r.health } ∧
        (r.health = .unhealthy ↔ o.1.health = .unhealthy ∨ o.1.id ∈ reports))
      inv.origins (begun.after reports).snapshot ∧
    (∀ reports' : List String, (∀ id, id ∈ reports' ↔ id ∈ reports) →
      (begun.after reports').snapshot = (begun.after reports).snapshot) ∧
    ∀ more : List String,
      List.Forall₂ (fun r r' => r.health = .unhealthy → r'.health = .unhealthy)
        (begun.after reports).snapshot (begun.after (reports ++ more)).snapshot := by
  intro begun
  have hsnapshot : ∀ reports, (begun.after reports).snapshot
      = inv.origins.map fun o => marked reports (Replica.ofDevice o.1 o.2) :=
    snapshot_new_after number settings policy options inv
  refine ⟨inv.replicas_eq_map_origins, ?_, fun reports' hsame => ?_, fun more => ?_⟩
  · rw [hsnapshot, List.forall₂_map_right_iff, List.forall₂_same]
    exact fun o _ => ⟨marked_eq reports _, health_marked_ofDevice reports o.1 o.2⟩
  · simp only [hsnapshot, marked, hsame]
  · simp only [hsnapshot, List.forall₂_map_left_iff, List.forall₂_map_right_iff,
      List.forall₂_same, health_marked_ofDevice]
    exact fun o _ hbroken => hbroken.imp_right (List.mem_append_left more)

end Session

end GpuPlugin
