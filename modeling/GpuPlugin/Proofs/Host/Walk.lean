import GpuPlugin.Host
import GpuPlugin.Proofs.Path.Components

/-!
# Proofs/Host/Walk — where a path leads

Which files there are decides whether a path can be walked, but not where it leads: each of its
steps goes on from the place reached so far, whatever is there (`eq_foldl_walk_of_locate`).  So
paths that take the same steps lead to one place, and an absolute path leads to the same place on
all hosts.
-/

namespace GpuPlugin.Host

open GpuPlugin.Path

variable {h : Host} {here next l : Location} {path : String}

/-- The place that a step leads to, if it can be taken. -/
def walk (here : Location) : Component → Location
  | .root => []
  | .current => here
  | .up => here.dropLast
  | .name s => here ++ [s]

/-- A segment that means nothing leads nowhere else, and every other one where its step leads. -/
theorem eq_walk_of_step {segment : List Char} (hstep : h.step here segment = .ok next) :
    next = if isIdle segment then here else walk here (.ofSegment segment) := by
  have hup : String.ofList segment = ".." ↔ segment = ['.', '.'] := by
    rw [← String.toList_inj, String.toList_ofList]
    rfl
  rw [step] at hstep
  split at hstep
  next => cases hstep
  next =>
    simp only [hup] at hstep
    rw [Component.ofSegment]
    split_ifs at hstep ⊢
    all_goals exact (Except.ok.inj hstep).symm
  next => cases hstep

theorem eq_foldl_walk_of_foldlM {segments : List (List Char)}
    (hwalk : segments.foldlM h.step here = .ok l) :
    l = ((segments.filter (!isIdle ·)).map Component.ofSegment).foldl walk here := by
  induction segments generalizing here with
  | nil => exact (Except.ok.inj hwalk).symm
  | cons segment segments ih =>
    rw [List.foldlM_cons] at hwalk
    cases hstep : h.step here segment with
    | error e =>
      rw [hstep] at hwalk
      cases hwalk
    | ok next =>
      rw [hstep] at hwalk
      rw [ih hwalk, eq_walk_of_step hstep]
      cases hidle : isIdle segment <;> simp [hidle]

/-- An anchor leads to the root or nowhere else. -/
theorem foldl_walk_anchor (path : String) (here : Location) :
    (anchor path.toList).foldl walk here = if isAbsolute path then [] else here := by
  rcases anchor_cases path with ⟨habsolute, hanchor⟩ | ⟨hrelative, hanchor | hanchor⟩
  · rw [hanchor, if_pos habsolute]
    rfl
  all_goals
    rw [hanchor, hrelative]
    rfl

/-- **A path leads where its steps lead**, from the working directory on. -/
theorem eq_foldl_walk_of_locate (hlocate : h.locate path = .ok l) :
    l = (components path).foldl walk h.workingDirectory := by
  rw [components_eq, List.foldl_append, foldl_walk_anchor]
  rw [locate] at hlocate
  split_ifs at hlocate ⊢
  all_goals exact eq_foldl_walk_of_foldlM hlocate

/-- **An absolute path leads to one place**, wherever one is. -/
theorem foldl_walk_of_isAbsolute (habsolute : isAbsolute path = true) (here there : Location) :
    (components path).foldl walk here = (components path).foldl walk there := by
  rw [components_eq, List.foldl_append, List.foldl_append, foldl_walk_anchor, foldl_walk_anchor,
    if_pos habsolute, if_pos habsolute]

end GpuPlugin.Host
