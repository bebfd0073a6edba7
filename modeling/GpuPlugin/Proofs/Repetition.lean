import Mathlib.Data.List.Induction
import Mathlib.Data.List.Nodup
import Mathlib.Data.List.Perm.Subperm

/-!
# Proofs/Repetition — lists with their repetitions left out

A list without its repetitions keeps the first occurrence of every member.  Growing the list at its
end adds a member or nothing (`eraseDups_concat_of_notMem`, `eraseDups_concat_of_mem`), so what is
said of single members goes by induction from that end: choosing members and naming them apart can
be done before repetitions are left out or after.  Where members count as repetitions by their
names, the first of each name is kept (`find?_eraseDupsBy`).
-/

namespace GpuPlugin.Repetition

variable {α β : Type} [BEq α] [LawfulBEq α] {l : List α} {a b : α}

theorem eraseDups_concat_of_mem (h : a ∈ l) : (l ++ [a]).eraseDups = l.eraseDups := by
  simp [List.eraseDups_append, List.removeAll, h]

theorem eraseDups_concat_of_notMem (h : a ∉ l) : (l ++ [a]).eraseDups = l.eraseDups ++ [a] := by
  simp [List.eraseDups_append, List.removeAll, List.eraseDups_cons, h]

/-- **A repetition of an earlier member makes no difference**, wherever it stands. -/
theorem eraseDups_append_cons_of_mem (h : a ∈ l) (l' : List α) :
    (l ++ a :: l').eraseDups = (l ++ l').eraseDups := by
  have hrest : l'.removeAll (l ++ [a]) = l'.removeAll l := by
    refine List.filter_congr fun b _ => ?_
    have hmem : b ∈ l ++ [a] ↔ b ∈ l := by
      rw [List.mem_append, List.mem_singleton]
      exact or_iff_left_of_imp fun hba => hba ▸ h
    simp only [List.elem_eq_mem, hmem]
  rw [List.append_cons, List.eraseDups_append, eraseDups_concat_of_mem h, hrest,
    List.eraseDups_append]

theorem nodup_eraseDups (l : List α) : l.eraseDups.Nodup := by
  induction l using List.reverseRecOn with
  | nil => exact List.nodup_nil
  | append_singleton l a ih =>
    by_cases ha : a ∈ l
    · rwa [eraseDups_concat_of_mem ha]
    · rw [eraseDups_concat_of_notMem ha, ← List.concat_eq_append, List.nodup_concat]
      exact ⟨mt List.mem_eraseDups.mp ha, ih⟩

/-- **A list without repetitions is left as it is.** -/
theorem eraseDups_of_nodup (h : l.Nodup) : l.eraseDups = l := by
  induction l using List.reverseRecOn with
  | nil => rfl
  | append_singleton l a ih =>
    rw [← List.concat_eq_append, List.nodup_concat] at h
    rw [eraseDups_concat_of_notMem h.1, ih h.2]

theorem eraseDups_eraseDups (l : List α) : l.eraseDups.eraseDups = l.eraseDups :=
  eraseDups_of_nodup (nodup_eraseDups l)

/-- **Members can be chosen before or after repetitions are left out.** -/
theorem filter_eraseDups (p : α → Bool) (l : List α) :
    l.eraseDups.filter p = (l.filter p).eraseDups := by
  induction l using List.reverseRecOn with
  | nil => rfl
  | append_singleton l a ih =>
    rw [List.filter_append]
    cases hp : p a with
    | false =>
      rw [List.filter_cons_of_neg (Bool.eq_false_iff.mp hp), List.filter_nil, List.append_nil, ← ih]
      by_cases ha : a ∈ l
      · rw [eraseDups_concat_of_mem ha]
      · rw [eraseDups_concat_of_notMem ha, List.filter_append,
          List.filter_cons_of_neg (Bool.eq_false_iff.mp hp), List.filter_nil, List.append_nil]
    | true =>
      rw [List.filter_cons_of_pos hp, List.filter_nil]
      by_cases ha : a ∈ l
      · rw [eraseDups_concat_of_mem ha, ih,
          eraseDups_concat_of_mem (List.mem_filter.mpr ⟨ha, hp⟩)]
      · have hnot : a ∉ l.filter p := fun h => ha (List.mem_filter.mp h).1
        rw [eraseDups_concat_of_notMem ha, List.filter_append, List.filter_cons_of_pos hp,
          List.filter_nil, ih, eraseDups_concat_of_notMem hnot]

/-- What is found first is found first among the first occurrences. -/
theorem find?_eraseDups (p : α → Bool) (l : List α) : l.eraseDups.find? p = l.find? p := by
  rw [← List.head?_filter, ← List.head?_filter, filter_eraseDups]
  cases l.filter p with
  | nil => rfl
  | cons a l => rw [List.eraseDups_cons, List.head?_cons, List.head?_cons]

/-- **Members stand in the order of their first occurrences.** -/
theorem pairwise_idxOf_eraseDups (l : List α) :
    l.eraseDups.Pairwise (l.idxOf · < l.idxOf ·) := by
  induction l using List.reverseRecOn with
  | nil => exact .nil
  | append_singleton l a ih =>
    have hl : l.eraseDups.Pairwise ((l ++ [a]).idxOf · < (l ++ [a]).idxOf ·) := by
      refine ih.imp_of_mem fun {b c} hb hc hlt => ?_
      rwa [List.idxOf_append_of_mem (List.mem_eraseDups.mp hb),
        List.idxOf_append_of_mem (List.mem_eraseDups.mp hc)]
    by_cases ha : a ∈ l
    · rwa [eraseDups_concat_of_mem ha]
    · rw [eraseDups_concat_of_notMem ha]
      refine List.pairwise_append.mpr ⟨hl, List.pairwise_singleton _ _, fun b hb c hc => ?_⟩
      obtain rfl := List.mem_singleton.mp hc
      have hb := List.mem_eraseDups.mp hb
      rw [List.idxOf_append_of_mem hb, List.idxOf_append_of_notMem ha]
      exact Nat.lt_add_right _ (List.idxOf_lt_length_of_mem hb)

/-- **The first occurrences** of the members of a list, in their order. -/
structure FirstOccurrences (l firsts : List α) : Prop where
  nodup : firsts.Nodup
  mem_iff : ∀ a, a ∈ firsts ↔ a ∈ l
  ordered : firsts.Pairwise (l.idxOf · < l.idxOf ·)

theorem firstOccurrences_eraseDups (l : List α) : FirstOccurrences l l.eraseDups where
  nodup := nodup_eraseDups l
  mem_iff _ := List.mem_eraseDups
  ordered := pairwise_idxOf_eraseDups l

/-- **What is added to a list are the members that are not in it yet**, each once. -/
theorem eraseDups_append_eq_filter (l l' : List α) :
    (l ++ l').eraseDups = l.eraseDups ++ l'.eraseDups.filter (· ∉ l) := by
  rw [List.eraseDups_append, List.removeAll, filter_eraseDups]
  simp

theorem length_eraseDups_le (l : List α) : l.eraseDups.length ≤ l.length :=
  ((nodup_eraseDups l).subperm fun _ => List.mem_eraseDups.mp).length_le

/-- Only a list without repetitions is as long as the list of its first occurrences. -/
theorem length_eraseDups_eq_iff : l.eraseDups.length = l.length ↔ l.Nodup := by
  constructor
  · intro h
    have hsubperm : l.eraseDups.Subperm l :=
      (nodup_eraseDups l).subperm fun _ => List.mem_eraseDups.mp
    exact (hsubperm.perm_of_length_le (Nat.le_of_eq h.symm)).nodup_iff.mp (nodup_eraseDups l)
  · exact fun h => congrArg List.length (eraseDups_of_nodup h)

section Map

variable [BEq β] [LawfulBEq β] {f : α → β}

/-- **Members that are told apart by their names** can be named before repetitions are left out. -/
theorem eraseDups_map_of_injOn (h : ∀ a ∈ l, ∀ b ∈ l, f a = f b → a = b) :
    (l.map f).eraseDups = l.eraseDups.map f := by
  induction l using List.reverseRecOn with
  | nil => rfl
  | append_singleton l a ih =>
    have hl : ∀ b ∈ l, ∀ c ∈ l, f b = f c → b = c := fun b hb c hc =>
      h b (List.mem_append_left [a] hb) c (List.mem_append_left [a] hc)
    have hmem : f a ∈ l.map f ↔ a ∈ l := by
      refine ⟨fun hfa => ?_, List.mem_map_of_mem⟩
      obtain ⟨b, hb, hba⟩ := List.mem_map.mp hfa
      exact h b (List.mem_append_left [a] hb) a List.mem_concat_self hba ▸ hb
    rw [List.map_append, List.map_singleton]
    by_cases ha : a ∈ l
    · rw [eraseDups_concat_of_mem (hmem.mpr ha), eraseDups_concat_of_mem ha, ih hl]
    · rw [eraseDups_concat_of_notMem (mt hmem.mp ha), eraseDups_concat_of_notMem ha,
        List.map_append, List.map_singleton, ih hl]

end Map

/-! ## Members that are told apart by their names

Of the members of one name, only the first is kept. -/

section Named

variable {γ : Type} [BEq β] {f : γ → β}

theorem map_eraseDupsBy (f : γ → β) :
    ∀ l : List γ, (l.eraseDupsBy (f · == f ·)).map f = (l.map f).eraseDups
  | [] => rfl
  | c :: l => by
      rw [List.eraseDupsBy_cons, List.map_cons, map_eraseDupsBy f (l.filter _), List.map_cons,
        List.eraseDups_cons, List.filter_map]
      simp only [Function.comp_def, Bool.decide_eq_false]
termination_by l => l.length
decreasing_by exact Nat.lt_succ_of_le (List.length_filter_le _ _)

variable [LawfulBEq β]

/-- **Whatever is looked up by its name is still found.** -/
theorem find?_eraseDupsBy (f : γ → β) (b : β) :
    ∀ l : List γ, (l.eraseDupsBy (f · == f ·)).find? (f · == b) = l.find? (f · == b)
  | [] => rfl
  | c :: l => by
      rw [List.eraseDupsBy_cons, List.find?_cons, List.find?_cons]
      split
      next => rfl
      next hc =>
        rw [find?_eraseDupsBy f b (l.filter _), List.find?_filter]
        refine congrArg (List.find? · l) (funext fun d => ?_)
        -- a member of the name looked for has another name than `c`
        by_cases hd : f d = b
        · subst hd
          have hne : (f d == f c) = false := by
            rw [beq_eq_false_iff_ne] at hc ⊢
            exact hc.symm
          simp [hne]
        · simp [hd]
termination_by l => l.length
decreasing_by exact Nat.lt_succ_of_le (List.length_filter_le _ _)

/-- A member that is kept is the first of its name. -/
theorem find?_of_mem_eraseDupsBy {l : List γ} {c : γ} (h : c ∈ l.eraseDupsBy (f · == f ·)) :
    l.find? (f · == f c) = some c := by
  have hnodup : ((l.eraseDupsBy (f · == f ·)).map f).Nodup := by
    rw [map_eraseDupsBy]
    exact nodup_eraseDups _
  obtain ⟨d, hd⟩ : ∃ d, (l.eraseDupsBy (f · == f ·)).find? (f · == f c) = some d :=
    Option.isSome_iff_exists.mp (List.find?_isSome.mpr ⟨c, h, beq_self_eq_true _⟩)
  have hname : f d = f c := by simpa using List.find?_some hd
  rw [← find?_eraseDupsBy f, hd,
    List.inj_on_of_nodup_map hnodup (List.mem_of_find?_eq_some hd) h hname]

end Named

end GpuPlugin.Repetition
