import GpuPlugin.LogFile
import GpuPlugin.Proofs.Path.Parent

/-!
# Proofs/LogFile/Parts — the directory and the name of a log file

The path of a log file is parted so that its log files lie where it points: a path that ends in a
name is its parent and that name (`Path.components_of_fileName`), and one that is nothing but a name
is that name at the dot.  All other paths are refused (`parted_split`).
-/

namespace GpuPlugin.LogFile

open GpuPlugin.Path (Component components fileName)

variable {path dir name : String}

/-- **A path without a last name**: the empty one, the root, the dot, or one that ends by going
up. -/
def NoName (path : String) : Prop :=
  path = "" ∨ components path = [.root] ∨ components path = [.current] ∨
    (components path).getLast? = some .up

theorem noName_iff_fileName : NoName path ↔ fileName path = none :=
  Path.fileName_eq_none_iff.symm

/-- **A directory and a name that make up a path.**  A path that is nothing but the name is taken at
the dot; that is the one case in which a step is added. -/
structure MakeUp (path dir name : String) : Prop where
  dir_ne_empty : dir ≠ ""
  name_ne_empty : name ≠ ""
  slash_notMem : '/' ∉ name.toList
  components_join : components (Path.join dir name) =
    if components path = [.name name] then .current :: components path else components path

/-! ## Paths with a name -/

/-- A name alone is made up of the dot and the name. -/
theorem makeUp_dot (hplain : Path.IsPlain name) (h : components path = [.name name]) :
    MakeUp path "." name where
  dir_ne_empty := by decide
  name_ne_empty := hplain.ne_empty
  slash_notMem := hplain.slash_notMem
  components_join := by
    rw [Path.components_join_of_isPlain "." hplain, if_pos h, h]
    rfl

/-- A path with a directory is made up of the directory and its last name. -/
theorem makeUp_of_ne_empty (hplain : Path.IsPlain name) (hdir : dir ≠ "")
    (h : components path = components dir ++ [.name name]) : MakeUp path dir name where
  dir_ne_empty := hdir
  name_ne_empty := hplain.ne_empty
  slash_notMem := hplain.slash_notMem
  components_join := by
    have hnot : components path ≠ [.name name] := fun halone =>
      hdir (Path.components_eq_nil_iff.mp (List.append_left_eq_self.mp (h.symm.trans halone)))
    rw [Path.components_join_of_isPlain dir hplain, if_neg hnot, h]

theorem split_of_fileName_none (h : fileName path = none) : split path = .error (.noName path) := by
  rw [split, h]

theorem split_of_parent (hname : fileName path = some name)
    (hparent : Path.parent path = some dir) :
    split path = .ok (if dir = "" then "." else dir, name) := by
  rw [split, hname]
  dsimp only
  rw [hparent]
  split
  next hnone => cases hnone
  next hempty => rw [if_pos (Option.some.inj hempty)]
  next hdir hsome =>
    obtain rfl := Option.some.inj hsome
    rw [if_neg hdir]

/-- **A path with a last name is parted** into what makes it up. -/
theorem exists_makeUp (h : fileName path = some name) :
    ∃ dir, split path = .ok (dir, name) ∧ MakeUp path dir name := by
  obtain ⟨dir, hparent, hcomponents⟩ := Path.components_of_fileName h
  have hplain := Path.isPlain_of_fileName h
  refine ⟨_, split_of_parent h hparent, ?_⟩
  split_ifs with hempty
  · subst hempty
    exact makeUp_dot hplain hcomponents
  · exact makeUp_of_ne_empty hplain hempty hcomponents

/-! ## All paths -/

/-- **What parting a path comes to**: two parts that make it up, or the refusal of a path without a
last name. -/
structure Parted (path : String) (parts : Except Error (String × String)) : Prop where
  /-- The paths without a last name are those whose last step is no name. -/
  noName_iff : NoName path ↔ ∀ name, (components path).getLast? ≠ some (.name name)
  /-- They are refused as such, and no others are. -/
  refused_iff : ∀ e, parts = .error e ↔ NoName path ∧ e = .noName path
  /-- All others are made up of their parts. -/
  answered : ¬ NoName path → ∃ dir name, parts = .ok (dir, name) ∧ MakeUp path dir name

/-- **A path is parted without moving the place it names.** -/
theorem parted_split (path : String) : Parted path (split path) where
  noName_iff := by
    rw [noName_iff_fileName, Option.eq_none_iff_forall_ne_some]
    exact forall_congr' fun name =>
      not_congr (Path.fileName_eq_some_iff.trans List.getLast?_eq_some_iff.symm)
  refused_iff e := by
    rw [noName_iff_fileName]
    cases hname : fileName path with
    | none =>
      rw [split_of_fileName_none hname, Except.error.injEq, eq_self, true_and, eq_comm]
    | some name =>
      obtain ⟨dir, hsplit, -⟩ := exists_makeUp hname
      rw [hsplit]
      exact ⟨nofun, fun h => nomatch h.1⟩
  answered hname := by
    obtain ⟨name, hsome⟩ := Option.ne_none_iff_exists'.mp (mt noName_iff_fileName.mpr hname)
    obtain ⟨dir, hsplit, hmakeUp⟩ := exists_makeUp hsome
    exact ⟨dir, name, hsplit, hmakeUp⟩

/-- Slashes and dots around the last name. -/
example : ["a//./b/./", "b", "/b", "./b"].map split
    = [.ok ("a", "b"), .ok (".", "b"), .ok ("/", "b"), .ok (".", "b")] := by
  decide +kernel

end GpuPlugin.LogFile
