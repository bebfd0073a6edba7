import GpuPlugin.Proofs.Path.Components

/-!
# Proofs/Path/Parent — the path before the last name

The last name of a path and the path before it are found by looking for the last segment that means
something.  What stands before that segment has the steps before it, so a path that ends in a name
takes the steps of its parent and then that name (`components_of_fileName`), however many slashes
and dots there are in it.  The paths that do not end in a name are the empty one, the root, the dot,
and those that end by going up (`fileName_eq_none_iff`).
-/

namespace GpuPlugin.Path

variable {l : List (List Char)} {p name : String}

/-! ## Segments that mean nothing -/

/-- What is trimmed at the end of a list of segments means nothing. -/
theorem exists_trimEnd_append (l : List (List Char)) :
    ∃ idle, l = trimEnd l ++ idle ∧ ∀ s ∈ idle, isIdle s = true := by
  refine ⟨(l.reverse.takeWhile isIdle).reverse, ?_, fun s hs => ?_⟩
  · rw [trimEnd, ← List.reverse_append, List.takeWhile_append_dropWhile, List.reverse_reverse]
  · exact List.mem_takeWhile_imp (List.mem_reverse.mp hs)

theorem filter_idle (hidle : ∀ s ∈ l, isIdle s = true) : l.filter (!isIdle ·) = [] := by
  refine List.filter_eq_nil_iff.mpr fun s hs => ?_
  rw [hidle s hs]
  exact Bool.false_ne_true

/-- What is left when the end is trimmed ends in a segment that means something. -/
theorem isIdle_of_getLast?_trimEnd {s : List Char} (h : (trimEnd l).getLast? = some s) :
    isIdle s = false := by
  rw [getLast?_trimEnd] at h
  simpa using (List.mem_filter.mp (List.mem_of_getLast? h)).2

/-! ## Segments with slashes between them -/

/-- The steps of segments that are put together. -/
theorem steps_intercalate (hslash : ∀ s ∈ l, '/' ∉ s) :
    steps (['/'].intercalate l) = (l.filter (!isIdle ·)).map Component.ofSegment := by
  rcases eq_or_ne l [] with rfl | hne
  · rfl
  · rw [steps, List.splitOn_intercalate '/' hslash hne]

theorem intercalate_append_of_ne_nil {l' : List (List Char)} (hne : l ≠ []) (hne' : l' ≠ []) :
    ['/'].intercalate (l ++ l') = ['/'].intercalate l ++ '/' :: ['/'].intercalate l' := by
  induction l with
  | nil => exact absurd rfl hne
  | cons s l ih =>
    rcases eq_or_ne l [] with rfl | hrest
    · rw [List.singleton_append, List.intercalate_cons_of_ne_nil hne', List.intercalate_singleton,
        List.append_assoc, List.singleton_append]
    · have hboth : l ++ l' ≠ [] := List.append_ne_nil_of_left_ne_nil hrest l'
      rw [List.cons_append, List.intercalate_cons_of_ne_nil hboth, ih hrest,
        List.intercalate_cons_of_ne_nil hrest]
      simp only [List.append_assoc]

/-! ## The parent -/

theorem split_append (cs : List Char) : (split cs).1 ++ (split cs).2 = cs := by
  unfold split
  split <;> rfl

theorem split_fst_cases (cs : List Char) :
    (split cs).1 = [] ∨ (split cs).1 = ['/'] ∨ (split cs).1 = ['.'] := by
  unfold split
  split <;> simp

/-- An anchor alone is a path with the step of the anchor. -/
theorem components_split_fst (cs : List Char) :
    components (String.ofList (split cs).1) = anchor cs := by
  rw [anchor]
  rcases split_fst_cases cs with h | h | h
  all_goals
    rw [h]
    rfl

/-- The parent of a path is its text up to the last segment but one that means something. -/
theorem parent_of_segments {front : List (List Char)} {s : List Char}
    (h : segments (split p.toList).2 = front ++ [s]) :
    parent p = some (String.ofList ((split p.toList).1 ++ ['/'].intercalate (trimEnd front))) := by
  rw [parent]
  dsimp only
  split
  next hnil => exact absurd (h.symm.trans hnil) (List.concat_ne_nil s front)
  next => rw [h, List.dropLast_concat]

/-- The segments of a path that ends in a name: those of its parent, some that mean nothing, the
name, and again some that mean nothing. -/
theorem exists_segments_of_fileName (h : fileName p = some name) :
    ∃ front idle idle',
      (split p.toList).2.splitOn '/' = trimEnd front ++ (idle ++ name.toList :: idle') ∧
      (∀ s ∈ idle, isIdle s = true) ∧ (∀ s ∈ idle', isIdle s = true) ∧
      parent p
        = some (String.ofList ((split p.toList).1 ++ ['/'].intercalate (trimEnd front))) := by
  rw [fileName] at h
  split at h
  next s hlast =>
    split_ifs at h
    obtain rfl := Option.some.inj h
    obtain ⟨front, hfront⟩ := List.getLast?_eq_some_iff.mp hlast
    obtain ⟨idle', hbody, hidle'⟩ := exists_trimEnd_append ((split p.toList).2.splitOn '/')
    obtain ⟨idle, hdir, hidle⟩ := exists_trimEnd_append front
    refine ⟨front, idle, idle', ?_, hidle, hidle', parent_of_segments hfront⟩
    calc (split p.toList).2.splitOn '/'
        = (front ++ [s]) ++ idle' := by rw [hbody, ← hfront, segments]
      _ = ((trimEnd front ++ idle) ++ [s]) ++ idle' := by rw [← hdir]
      _ = _ := by simp
  next => cases h

/-- The steps of a name among segments that mean nothing. -/
theorem steps_intercalate_name {idle idle' : List (List Char)} (hname : IsPlain name)
    (hidle : ∀ s ∈ idle, isIdle s = true) (hidle' : ∀ s ∈ idle', isIdle s = true)
    (hslash : ∀ s ∈ idle ++ name.toList :: idle', '/' ∉ s) :
    steps (['/'].intercalate (idle ++ name.toList :: idle')) = [.name name] := by
  have halone : ∀ s ∈ [name.toList], '/' ∉ s := by simpa using hname.slash_notMem
  rw [steps_intercalate hslash, List.filter_append, filter_idle hidle, List.nil_append,
    ← List.singleton_append, List.filter_append, filter_idle hidle', List.append_nil,
    ← steps_intercalate halone, List.intercalate_singleton, hname.steps_eq]

/-- What is left when the end is trimmed has a text, if it has a segment. -/
theorem intercalate_trimEnd_ne_nil (hslash : ∀ s ∈ trimEnd l, '/' ∉ s) (hne : trimEnd l ≠ []) :
    ['/'].intercalate (trimEnd l) ≠ [] := by
  intro hnil
  have hblank : trimEnd l = [[]] := by
    rw [← List.splitOn_intercalate '/' hslash hne, hnil, List.splitOn_nil]
  cases isIdle_of_getLast?_trimEnd (congrArg List.getLast? hblank)

/-- **A path that ends in a name** takes the steps of its parent, and then that name. -/
theorem components_of_fileName (h : fileName p = some name) :
    ∃ dir, parent p = some dir ∧ components p = components dir ++ [.name name] := by
  obtain ⟨front, idle, idle', hbody, hidle, hidle', hparent⟩ := exists_segments_of_fileName h
  refine ⟨_, hparent, ?_⟩
  have hslash : ∀ s ∈ trimEnd front ++ (idle ++ name.toList :: idle'), '/' ∉ s := fun s hs =>
    slash_notMem_of_mem_splitOn (hbody ▸ hs)
  have hsteps : steps (['/'].intercalate (idle ++ name.toList :: idle')) = [.name name] :=
    steps_intercalate_name (isPlain_of_fileName h) hidle hidle' fun s hs =>
      hslash s (List.mem_append_right _ hs)
  have hjoined : (split p.toList).2
      = ['/'].intercalate (trimEnd front ++ (idle ++ name.toList :: idle')) := by
    rw [← hbody, List.intercalate_splitOn]
  rcases eq_or_ne (trimEnd front) [] with hnil | hne
  · -- Nothing is before the name but the anchor.
    rw [hnil, List.nil_append] at hjoined
    rw [hnil, List.intercalate_nil, List.append_nil, components_split_fst, components_eq,
      ← steps_split, hjoined, hsteps]
  · -- The text of the parent and the text of the name have a slash between them.
    have hrest : idle ++ name.toList :: idle' ≠ [] :=
      List.append_ne_nil_of_right_ne_nil idle (List.cons_ne_nil _ idle')
    rw [intercalate_append_of_ne_nil hne hrest] at hjoined
    have hdir : (split p.toList).1 ++ ['/'].intercalate (trimEnd front) ≠ [] :=
      List.append_ne_nil_of_right_ne_nil _ <| intercalate_trimEnd_ne_nil
        (fun s hs => hslash s (List.mem_append_left _ hs)) hne
    rw [← hsteps, ← components_append_slash hdir, List.append_assoc, ← hjoined, split_append,
      String.ofList_toList]

/-! ## Paths without a last name -/

theorem eq_nil_or_eq_dot_of_steps_eq_nil {cs : List Char} (hslash : '/' ∉ cs)
    (hsteps : steps cs = []) : cs = [] ∨ cs = ['.'] := by
  rw [steps_of_slash_notMem hslash] at hsteps
  split_ifs at hsteps with hidle
  simpa [isIdle] using hidle

/-- **Only the empty path takes no step.**  A segment that means nothing is an anchor where it comes
first. -/
theorem components_eq_nil_iff : components p = [] ↔ p = "" := by
  refine ⟨fun h => ?_, by rintro rfl; rfl⟩
  obtain ⟨hanchor, hsteps⟩ := List.append_eq_nil_iff.mp ((components_eq p).symm.trans h)
  by_cases hslash : '/' ∈ p.toList
  · obtain ⟨first, rest, hchars, hfirst⟩ := List.eq_append_cons_of_mem hslash
    rw [hchars, steps_append_slash] at hsteps
    rw [hchars] at hanchor
    obtain rfl | rfl :=
      eq_nil_or_eq_dot_of_steps_eq_nil hfirst (List.append_eq_nil_iff.mp hsteps).1
    all_goals cases hanchor
  · obtain hempty | hdot := eq_nil_or_eq_dot_of_steps_eq_nil hslash hsteps
    · exact String.toList_eq_nil_iff.mp hempty
    · rw [hdot] at hanchor
      cases hanchor

/-- The step of an anchor is the last one only where there are no others. -/
theorem components_eq_singleton {step : Component} (hlast : (components p).getLast? = some step)
    (hstep : step = .root ∨ step = .current) : components p = [step] := by
  rw [components_eq] at hlast ⊢
  rcases List.eq_nil_or_concat' (steps p.toList) with hnil | ⟨before, last, hsteps⟩
  · rw [hnil, List.append_nil] at hlast ⊢
    rw [anchor] at hlast ⊢
    split_ifs at hlast ⊢
    · obtain rfl : .root = step := Option.some.inj hlast
      rfl
    · obtain rfl : .current = step := Option.some.inj hlast
      rfl
    · cases hlast
  · rw [hsteps, ← List.append_assoc, List.getLast?_concat] at hlast
    obtain rfl := Option.some.inj hlast
    have hmem : last ∈ steps p.toList := hsteps ▸ List.mem_concat_self
    obtain ⟨s, -, rfl⟩ := List.mem_map.mp hmem
    rw [Component.ofSegment] at hstep
    split_ifs at hstep <;> simp at hstep

/-- **The paths without a last name** are the empty one, the root, the dot, and those that end by
going up. -/
theorem fileName_eq_none_iff : fileName p = none ↔
    p = "" ∨ components p = [.root] ∨ components p = [.current] ∨
      (components p).getLast? = some .up := by
  rw [fileName_eq]
  constructor
  · intro h
    cases hlast : (components p).getLast? with
    | none => exact .inl (components_eq_nil_iff.mp (List.getLast?_eq_none_iff.mp hlast))
    | some step =>
      cases step with
      | root => exact .inr (.inl (components_eq_singleton hlast (.inl rfl)))
      | current => exact .inr (.inr (.inl (components_eq_singleton hlast (.inr rfl))))
      | up => exact .inr (.inr (.inr rfl))
      | name s =>
        rw [hlast] at h
        cases h
  · rintro (rfl | h | h | h)
    · rfl
    all_goals
      rw [h]
      rfl

end GpuPlugin.Path
