import GpuPlugin.Container
import GpuPlugin.Proofs.Path.Components

/-!
# Proofs/Container/Announcement — what a container can read of its devices

Names that are listed between commas are read back by cutting the list at its commas, provided that
none of them has a comma in it or is empty (`namesIn_intercalate`).  A path that is put under a root
loses its leading slashes and no step (`lies_under`).
-/

namespace GpuPlugin.Container

/-! ## Names between commas -/

/-- **The names in a value**, which stand between commas.  The empty value names nothing. -/
def namesIn (value : String) : List String :=
  if value = "" then [] else (value.toList.splitOn ',').map String.ofList

/-- A name that can be announced in either way: between commas, or as an entry of a directory. -/
def IsListable (name : String) : Prop :=
  name ≠ "" ∧ ',' ∉ name.toList ∧ Path.isAbsolute name = false

instance (name : String) : Decidable (IsListable name) :=
  inferInstanceAs (Decidable (name ≠ "" ∧ ',' ∉ name.toList ∧ Path.isAbsolute name = false))

/-- **Listed names are read back.** -/
theorem namesIn_intercalate {names : List String} (h : ∀ name ∈ names, IsListable name) :
    namesIn (",".intercalate names) = names := by
  rcases names with _ | ⟨first, names⟩
  · rfl
  have hcomma : ∀ chars ∈ (first :: names).map String.toList, ',' ∉ chars :=
    List.forall_mem_map.mpr fun name hname => (h name hname).2.1
  have hsplit : (",".intercalate (first :: names)).toList.splitOn ','
      = (first :: names).map String.toList := by
    rw [String.toList_intercalate]
    exact List.splitOn_intercalate ',' hcomma (List.cons_ne_nil _ _)
  have hne : ",".intercalate (first :: names) ≠ "" := by
    intro hempty
    rw [hempty] at hsplit
    have hfirst : first.toList = [] := (List.cons.inj hsplit).1.symm
    exact (h first List.mem_cons_self).1 (String.toList_eq_nil_iff.mp hfirst)
  rw [namesIn, if_neg hne, hsplit, List.map_map]
  exact List.map_id'' (fun _ => String.ofList_toList) _

/-! ## Paths under a root -/

/-- **A path lies under a root**: without its leading slashes it is joined to the root, and it is as
many steps below the root as it has itself. -/
structure LiesUnder (root path place : String) : Prop where
  joined : ∃ slashes rest, path.toList = List.replicate slashes '/' ++ rest.toList ∧
    Path.isAbsolute rest = false ∧ place = Path.join root rest
  components : root ≠ "" → Path.components place = Path.components root ++ Path.steps path.toList

theorem steps_replicate_append (slashes : Nat) (rest : List Char) :
    Path.steps (List.replicate slashes '/' ++ rest) = Path.steps rest := by
  induction slashes with
  | zero => rfl
  | succ slashes ih => rw [List.replicate_succ, List.cons_append, Path.steps_slash_cons, ih]

/-- What comes after the leading slashes of a path. -/
theorem exists_replicate_append (path : String) :
    ∃ slashes, path.toList
      = List.replicate slashes '/' ++ path.toList.dropWhile (· == '/') := by
  refine ⟨(path.toList.takeWhile (· == '/')).length, ?_⟩
  have hslashes : path.toList.takeWhile (· == '/')
      = List.replicate (path.toList.takeWhile (· == '/')).length '/' := by
    refine List.eq_replicate_of_mem fun c hc => ?_
    simpa using List.mem_takeWhile_imp hc
  rw [← hslashes, List.takeWhile_append_dropWhile]

theorem isAbsolute_dropWhile (path : String) :
    Path.isAbsolute (String.ofList (path.toList.dropWhile (· == '/'))) = false := by
  rw [Path.isAbsolute, String.toList_ofList]
  have hhead := List.head?_dropWhile_not (· == '/') path.toList
  cases hrest : (path.toList.dropWhile (· == '/')).head? with
  | none => rfl
  | some c =>
    rw [hrest] at hhead
    simpa using hhead

/-- **A path that is put under a root lies there.** -/
theorem lies_under (root path : String) : LiesUnder root path (under root path) := by
  obtain ⟨slashes, hpath⟩ := exists_replicate_append path
  refine ⟨⟨slashes, _, ?_, isAbsolute_dropWhile path, rfl⟩, fun hroot => ?_⟩
  · rwa [String.toList_ofList]
  · rw [under, Path.components_join_of_ne_empty hroot (isAbsolute_dropWhile path),
      String.toList_ofList]
    conv_rhs => rw [hpath]
    rw [steps_replicate_append]

/-- A name that does not start with a slash follows the root as it is. -/
theorem under_mountRoot {name : String} (hname : Path.isAbsolute name = false) :
    under mountRoot name = mountRoot ++ "/" ++ name := by
  have hrest : name.toList.dropWhile (· == '/') = name.toList := by
    rw [Path.isAbsolute] at hname
    cases hchars : name.toList with
    | nil => rfl
    | cons c chars =>
      rw [hchars] at hname
      exact List.dropWhile_cons_of_neg (by simpa using hname)
  rw [under, hrest, String.ofList_toList, Path.join, hname, if_neg Bool.false_ne_true]
  rfl

/-! ## What is handed over -/

theorem map_containerPath_mounts {names : List String} (h : ∀ name ∈ names, IsListable name) :
    (mounts names).map (·.containerPath) = names.map (mountRoot ++ "/" ++ ·) := by
  rw [mounts, List.map_map]
  exact List.map_congr_left fun name hname => under_mountRoot (h name hname).2.2

variable {root : String} {devices : List Device} {pathExists : String → Bool}

theorem map_containerPath_deviceSpecs :
    (deviceSpecs root devices pathExists).map (·.containerPath)
      = controlNodes.filter pathExists ++ devices.flatMap (·.paths) := by
  rw [deviceSpecs, List.map_map]
  exact List.map_id _

theorem lies_under_of_mem_deviceSpecs {node : DeviceSpec}
    (h : node ∈ deviceSpecs root devices pathExists) :
    LiesUnder root node.containerPath node.hostPath := by
  obtain ⟨path, -, rfl⟩ := List.mem_map.mp h
  exact lies_under root path

end GpuPlugin.Container
