import GpuPlugin.Path
import Mathlib.Data.List.Basic
import Mathlib.Data.List.TakeWhile

/-!
# Proofs/Path/Components — the steps of paths that are put together

The segments of a text are the same whether or not its anchor is taken off, because the anchor
itself has none that mean anything (`components_eq`).  So a name that is joined to a directory adds
its own steps to those of the directory (`LeadsOn.components_join`), and the last name of a path is
the last of its steps (`fileName_eq`).
-/

namespace GpuPlugin.Path

/-! ## Steps of a text -/

/-- The steps between the slashes of a text. -/
def steps (cs : List Char) : List Component :=
  ((cs.splitOn '/').filter (!isIdle ·)).map Component.ofSegment

/-- The step that the anchor of a text stands for, if it has one. -/
def anchor (cs : List Char) : List Component :=
  if (split cs).1 = ['/'] then [.root] else if (split cs).1 = ['.'] then [.current] else []

@[simp] theorem steps_nil : steps [] = [] := rfl

theorem steps_append_slash (dir rest : List Char) :
    steps (dir ++ '/' :: rest) = steps dir ++ steps rest := by
  rw [steps, List.splitOn_append_cons_self, List.filter_append, List.map_append]
  rfl

theorem steps_of_slash_notMem {name : List Char} (hslash : '/' ∉ name) :
    steps name = if isIdle name then [] else [.ofSegment name] := by
  rw [steps, List.splitOn_eq_singleton hslash]
  cases hidle : isIdle name <;> simp [hidle]

theorem steps_slash_cons (rest : List Char) : steps ('/' :: rest) = steps rest :=
  steps_append_slash [] rest

/-- An anchor has no steps between its slashes. -/
theorem steps_split (cs : List Char) : steps (split cs).2 = steps cs := by
  unfold split
  split
  next body => exact (steps_slash_cons body).symm
  next => rfl
  next rest => exact (steps_append_slash ['.'] rest).symm
  next => rfl

/-- **The steps of a path** are that of its anchor and those of its whole text. -/
theorem components_eq (p : String) : components p = anchor p.toList ++ steps p.toList := by
  rw [← steps_split]
  rfl

/-- The anchor of an absolute path is the root; any other is nothing or the dot. -/
theorem anchor_cases (p : String) :
    (isAbsolute p = true ∧ anchor p.toList = [.root]) ∨
      (isAbsolute p = false ∧ (anchor p.toList = [] ∨ anchor p.toList = [.current])) := by
  rw [isAbsolute, anchor]
  generalize p.toList = cs
  unfold split
  split
  next => exact .inl ⟨rfl, rfl⟩
  next => exact .inr ⟨rfl, .inr rfl⟩
  next => exact .inr ⟨rfl, .inr rfl⟩
  next hroot _ _ =>
    have hhead : cs.head? ≠ some '/' := fun h => by
      obtain ⟨body, rfl⟩ := List.head?_eq_some_iff.mp h
      exact hroot body rfl
    exact .inr ⟨beq_eq_false_iff_ne.mpr hhead, .inl rfl⟩

theorem root_notMem_steps (cs : List Char) : .root ∉ steps cs := by
  intro hroot
  obtain ⟨segment, -, hsegment⟩ := List.mem_map.mp hroot
  rw [Component.ofSegment] at hsegment
  split_ifs at hsegment

/-- **A path is absolute if the root is among its steps.** -/
theorem root_mem_components_iff {p : String} : .root ∈ components p ↔ isAbsolute p = true := by
  have hsteps : .root ∉ steps p.toList := root_notMem_steps p.toList
  rw [components_eq]
  rcases anchor_cases p with ⟨habsolute, hanchor⟩ | ⟨hrelative, hanchor | hanchor⟩
  · simp [habsolute, hanchor]
  all_goals simp [hrelative, hanchor, hsteps]

/-! ## Joining -/

theorem split_append_slash {dir : List Char} (hdir : dir ≠ []) (rest : List Char) :
    (split (dir ++ '/' :: rest)).1 = (split dir).1 := by
  obtain ⟨c, cs, rfl⟩ := List.exists_cons_of_ne_nil hdir
  by_cases hroot : c = '/'
  · subst hroot
    rfl
  by_cases hdot : c = '.'
  · subst hdot
    match cs with
    | [] => rfl
    | d :: cs =>
      by_cases hd : d = '/'
      · subst hd
        rfl
      · simp [split, hd]
  · simp [split, hroot, hdot]

/-- **A directory keeps its anchor**, whatever comes after it. -/
theorem anchor_append_slash {dir : List Char} (hdir : dir ≠ []) (rest : List Char) :
    anchor (dir ++ '/' :: rest) = anchor dir := by
  rw [anchor, anchor, split_append_slash hdir]

theorem components_append_slash {dir : List Char} (hdir : dir ≠ []) (rest : List Char) :
    components (String.ofList (dir ++ '/' :: rest))
      = components (String.ofList dir) ++ steps rest := by
  rw [components_eq, components_eq, String.toList_ofList, String.toList_ofList,
    anchor_append_slash hdir, steps_append_slash, List.append_assoc]

/-- What comes after a slash adds its steps, also after the slash of the root. -/
theorem components_slash_append (dir rest : List Char) :
    components (String.ofList (dir ++ '/' :: rest))
      = components (String.ofList (dir ++ ['/'])) ++ steps rest := by
  rcases eq_or_ne dir [] with rfl | hdir
  · rw [components_eq, components_eq, String.toList_ofList, String.toList_ofList,
      List.nil_append, List.nil_append, steps_slash_cons, steps_slash_cons]
    rfl
  · rw [components_append_slash hdir, components_append_slash hdir, steps_nil, List.append_nil]

/-- A text with no anchor: it neither starts at the root nor at the dot. -/
def IsFloating (name : String) : Prop := anchor name.toList = []

theorem IsFloating.isAbsolute_eq_false {name : String} (hname : IsFloating name) :
    isAbsolute name = false := by
  rcases anchor_cases name with ⟨-, hanchor⟩ | ⟨hrelative, -⟩
  · cases hanchor.symm.trans hname
  · exact hrelative

/-- Whatever does not start at the root adds its steps to those of a directory that has a name. -/
theorem components_join_of_ne_empty {dir name : String} (hdir : dir ≠ "")
    (habsolute : isAbsolute name = false) :
    components (join dir name) = components dir ++ steps name.toList := by
  rw [join, habsolute, if_neg Bool.false_ne_true]
  have hchars : dir.toList ≠ [] := fun h => hdir (String.toList_eq_nil_iff.mp h)
  obtain ⟨front, last, hsplit⟩ := (List.eq_nil_or_concat' dir.toList).resolve_left hchars
  obtain rfl : dir = String.ofList (front ++ [last]) := by
    rw [← hsplit, String.ofList_toList]
  by_cases hslash : last = '/'
  · subst hslash
    have hjoin : String.ofList (front ++ ['/']) ++ name
        = String.ofList (front ++ '/' :: name.toList) := by
      simp [← String.toList_inj]
    rw [if_pos (by simp), hjoin, components_slash_append]
  · have hjoin : String.ofList (front ++ [last]) ++ "/" ++ name
        = String.ofList ((front ++ [last]) ++ '/' :: name.toList) := by
      simp [← String.toList_inj]
    have hne : front ++ [last] ≠ [] := List.concat_ne_nil last front
    rw [if_neg (by simpa using hslash), hjoin, components_append_slash hne]

/-- A name **leads on** from a directory: it does not start at the root, and where the directory is
empty, so that the name is all there is, not at the dot either. -/
structure LeadsOn (dir name : String) : Prop where
  isAbsolute_eq_false : isAbsolute name = false
  isFloating : dir = "" → IsFloating name

theorem IsFloating.leadsOn {name : String} (dir : String) (hname : IsFloating name) :
    LeadsOn dir name :=
  ⟨hname.isAbsolute_eq_false, fun _ => hname⟩

/-- **A name that leads on from a directory adds its steps to those of the directory.** -/
theorem LeadsOn.components_join {dir name : String} (hname : LeadsOn dir name) :
    components (join dir name) = components dir ++ steps name.toList := by
  rcases eq_or_ne dir "" with rfl | hdir
  · rw [join, hname.isAbsolute_eq_false, if_neg Bool.false_ne_true, if_pos (by simp),
      String.empty_append, components_eq name, hname.isFloating rfl]
    rfl
  · exact components_join_of_ne_empty hdir hname.isAbsolute_eq_false

theorem components_join {name : String} (dir : String) (hname : IsFloating name) :
    components (join dir name) = components dir ++ steps name.toList :=
  (hname.leadsOn dir).components_join

/-- A path under another is absolute if one of the two is. -/
theorem isAbsolute_join (dir name : String) :
    isAbsolute (join dir name) = (isAbsolute dir || isAbsolute name) := by
  cases habsolute : isAbsolute name with
  | true => rw [join, if_pos habsolute, habsolute, Bool.or_true]
  | false =>
    rw [Bool.or_false]
    rcases eq_or_ne dir "" with rfl | hdir
    · rw [join, habsolute, if_neg Bool.false_ne_true, if_pos (by simp), String.empty_append,
        habsolute]
      rfl
    · have hsteps : .root ∉ steps name.toList := root_notMem_steps name.toList
      rw [Bool.eq_iff_iff, ← root_mem_components_iff, ← root_mem_components_iff,
        components_join_of_ne_empty hdir habsolute, List.mem_append, or_iff_left hsteps]

/-! ## The last name -/

/-- The name that a step is, if it is one. -/
def Component.name? : Component → Option String
  | .name s => some s
  | .root | .current | .up => none

/-- What is left when the end is trimmed ends in the last segment that means something. -/
theorem getLast?_trimEnd (segments : List (List Char)) :
    (trimEnd segments).getLast? = (segments.filter (!isIdle ·)).getLast? := by
  rw [trimEnd, List.getLast?_reverse, ← List.find?_not_eq_head?_dropWhile, List.getLast?_filter]

theorem name?_ofSegment (s : List Char) :
    (Component.ofSegment s).name? = if s = ['.', '.'] then none else some (String.ofList s) := by
  rw [Component.ofSegment]
  split <;> rfl

/-- An anchor is no name. -/
theorem name?_getLast?_anchor (cs : List Char) :
    (anchor cs).getLast?.bind Component.name? = none := by
  rw [anchor]
  split_ifs <;> rfl

/-- **The last name of a path is its last step**, if that is a name. -/
theorem fileName_eq (p : String) : fileName p = (components p).getLast?.bind Component.name? := by
  rw [fileName, segments, getLast?_trimEnd, components_eq, ← steps_split, steps,
    List.getLast?_append, List.getLast?_map]
  cases hlast : (((split p.toList).2.splitOn '/').filter (!isIdle ·)).getLast? with
  | none => exact (name?_getLast?_anchor p.toList).symm
  | some s => exact (name?_ofSegment s).symm

theorem fileName_eq_some_iff {p name : String} :
    fileName p = some name ↔ ∃ before, components p = before ++ [.name name] := by
  rw [fileName_eq, Option.bind_eq_some_iff]
  constructor
  · rintro ⟨step, hlast, hname⟩
    obtain ⟨before, hbefore⟩ := List.getLast?_eq_some_iff.mp hlast
    cases step with
    | name s =>
      obtain rfl := Option.some.inj hname
      exact ⟨before, hbefore⟩
    | _ => cases hname
  · rintro ⟨before, hbefore⟩
    exact ⟨.name name, List.getLast?_eq_some_iff.mpr ⟨before, hbefore⟩, rfl⟩

/-! ## Plain names -/

/-- **A plain name** is one segment that stands for itself. -/
structure IsPlain (name : String) : Prop where
  slash_notMem : '/' ∉ name.toList
  ne_empty : name ≠ ""
  ne_dot : name ≠ "."
  ne_dots : name ≠ ".."

theorem slash_notMem_of_mem_splitOn {s cs : List Char} (hs : s ∈ cs.splitOn '/') : '/' ∉ s := by
  induction cs generalizing s with
  | nil =>
    obtain rfl := List.mem_singleton.mp hs
    exact List.not_mem_nil
  | cons c cs ih =>
    rw [List.splitOn_cons_eq_if_modifyHead] at hs
    split_ifs at hs with hslash
    · rcases List.mem_cons.mp hs with rfl | hs
      · exact List.not_mem_nil
      · exact ih hs
    · obtain ⟨t, ts, hsplit⟩ := List.exists_cons_of_ne_nil (List.splitOn_ne_nil '/' cs)
      rw [hsplit] at hs ih
      rcases List.mem_cons.mp hs with rfl | hs
      · have hc : '/' ≠ c := fun h => hslash (beq_iff_eq.mpr h.symm)
        exact fun h => (List.mem_cons.mp h).elim hc (ih List.mem_cons_self)
      · exact ih (List.mem_cons_of_mem t hs)

theorem IsPlain.steps_eq {name : String} (hname : IsPlain name) :
    steps name.toList = [.name name] := by
  have hidle : isIdle name.toList = false := by
    have hempty : name.toList ≠ [] := fun h => hname.ne_empty (String.toList_eq_nil_iff.mp h)
    have hdot : name.toList ≠ ['.'] := fun h => hname.ne_dot (String.toList_inj.mp h)
    simp [isIdle, hempty, hdot]
  have hdots : name.toList ≠ ['.', '.'] := fun h => hname.ne_dots (String.toList_inj.mp h)
  rw [steps_of_slash_notMem hname.slash_notMem, hidle, if_neg Bool.false_ne_true,
    Component.ofSegment, if_neg hdots, String.ofList_toList]

theorem split_of_slash_notMem {name : List Char} (hslash : '/' ∉ name) (hdot : name ≠ ['.']) :
    (split name).1 = [] := by
  unfold split
  split
  next => exact absurd List.mem_cons_self hslash
  next => exact absurd rfl hdot
  next => exact absurd (List.mem_cons_of_mem '.' List.mem_cons_self) hslash
  next => rfl

theorem IsPlain.isFloating {name : String} (hname : IsPlain name) : IsFloating name := by
  have hdot : name.toList ≠ ['.'] := fun h => hname.ne_dot (String.toList_inj.mp h)
  rw [IsFloating, anchor, split_of_slash_notMem hname.slash_notMem hdot]
  rfl

/-- **A plain name that is joined to a directory is one more step.** -/
theorem components_join_of_isPlain {name : String} (dir : String) (hname : IsPlain name) :
    components (join dir name) = components dir ++ [.name name] := by
  rw [components_join dir hname.isFloating, hname.steps_eq]

/-- **The last name of a path is plain.** -/
theorem isPlain_of_fileName {p name : String} (hname : fileName p = some name) : IsPlain name := by
  rw [fileName, segments, getLast?_trimEnd] at hname
  split at hname
  next s hlast =>
    split_ifs at hname with hdots
    obtain rfl := Option.some.inj hname
    obtain ⟨hs, hmeant⟩ := List.mem_filter.mp (List.mem_of_getLast? hlast)
    obtain ⟨hempty, hdot⟩ : s ≠ [] ∧ s ≠ ['.'] := by simpa [isIdle] using hmeant
    exact {
      slash_notMem := by
        rw [String.toList_ofList]
        exact slash_notMem_of_mem_splitOn hs
      ne_empty := fun h => hempty (by simpa using congrArg String.toList h)
      ne_dot := fun h => hdot (by simpa using congrArg String.toList h)
      ne_dots := fun h => hdots (by simpa using congrArg String.toList h) }
  next => cases hname

end GpuPlugin.Path
