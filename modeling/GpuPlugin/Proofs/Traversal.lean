import Mathlib.Data.List.Forall2

/-!
# Proofs/Traversal — answering a list one by one

A traversal of a list answers its members in order and ends at the first one that is refused, with
that refusal.  `mapM_eq_ok_iff` says when it answers the list: when it answers each member.
-/

namespace GpuPlugin.Traversal

variable {α β ε : Type} {f : α → Except ε β}

theorem exists_of_bind_eq_ok {r : Except ε α} {b : β} (h : r >>= f = .ok b) :
    ∃ a, r = .ok a ∧ f a = .ok b := by
  cases r with
  | error e => cases h
  | ok a => exact ⟨a, rfl, h⟩

theorem mapM_cons_of_error {a : α} {e : ε} (h : f a = .error e) (l : List α) :
    (a :: l).mapM f = .error e := by
  rw [List.mapM_cons, h]
  rfl

theorem mapM_cons_of_ok {a : α} {b : β} (h : f a = .ok b) (l : List α) :
    (a :: l).mapM f = (l.mapM f).map (b :: ·) := by
  rw [List.mapM_cons, h]
  cases l.mapM f <;> rfl

/-- **A traversal answers a list when it answers each of its members.** -/
theorem mapM_eq_ok_iff {l : List α} {r : List β} :
    l.mapM f = .ok r ↔ List.Forall₂ (fun a b => f a = .ok b) l r := by
  induction l generalizing r with
  | nil =>
    constructor
    · intro h
      obtain rfl : [] = r := Except.ok.inj h
      exact .nil
    · rintro ⟨⟩
      rfl
  | cons a l ih =>
    cases ha : f a with
    | error e =>
      rw [mapM_cons_of_error ha]
      refine ⟨nofun, ?_⟩
      rintro (_ | ⟨hb, -⟩)
      rw [ha] at hb
      cases hb
    | ok b =>
      rw [mapM_cons_of_ok ha]
      constructor
      · intro h
        cases hl : l.mapM f with
        | error e => rw [hl] at h; cases h
        | ok s =>
          rw [hl] at h
          obtain rfl : b :: s = r := Except.ok.inj h
          exact .cons ha (ih.mp hl)
      · rintro (_ | ⟨hb, hl⟩)
        obtain rfl := Except.ok.inj (ha.symm.trans hb)
        rw [ih.mpr hl]
        rfl

/-- A traversal that finds every member answers with what it found. -/
theorem mapM_eq_ok_filterMap {g : α → Option β} {l : List α}
    (h : ∀ a ∈ l, ∃ b, g a = some b ∧ f a = .ok b) : l.mapM f = .ok (l.filterMap g) := by
  induction l with
  | nil => rfl
  | cons a l ih =>
    obtain ⟨b, hg, hf⟩ := h a List.mem_cons_self
    have hl := ih fun a' ha' => h a' (List.mem_cons_of_mem a ha')
    rw [mapM_cons_of_ok hf, hl, List.filterMap_cons_some hg]
    rfl

/-! ## The first refusal

Which members are refused, and how, can be told apart from what the others are answered. -/

section Refusal

variable {refusal : α → Option ε} {e : ε}

/-- **A traversal is refused as the first of its members that is refused.** -/
theorem mapM_eq_error_of_findSome? (hanswered : ∀ a, refusal a = none → ∃ b, f a = .ok b)
    (hrefused : ∀ a e, refusal a = some e → f a = .error e) {l : List α}
    (hfirst : l.findSome? refusal = some e) : l.mapM f = .error e := by
  induction l with
  | nil => cases hfirst
  | cons a l ih =>
    rw [List.findSome?_cons] at hfirst
    split at hfirst
    next e' ha =>
      obtain rfl := Option.some.inj hfirst
      exact mapM_cons_of_error (hrefused a _ ha) l
    next ha =>
      obtain ⟨b, hb⟩ := hanswered a ha
      rw [mapM_cons_of_ok hb, ih hfirst]
      rfl

/-- Members that are not refused can be left out. -/
theorem findSome?_filter_of_none {p : α → Bool} (hp : ∀ a, p a = false → refusal a = none)
    (l : List α) : (l.filter p).findSome? refusal = l.findSome? refusal := by
  induction l with
  | nil => rfl
  | cons a l ih =>
    cases ha : p a with
    | true => rw [List.filter_cons_of_pos ha, List.findSome?_cons, List.findSome?_cons, ih]
    | false =>
      rw [List.filter_cons_of_neg (Bool.eq_false_iff.mp ha), List.findSome?_cons, hp a ha, ih]

/-- **Repetitions do not change which refusal is the first.** -/
theorem findSome?_eraseDups [BEq α] [LawfulBEq α] :
    ∀ l : List α, l.eraseDups.findSome? refusal = l.findSome? refusal
  | [] => rfl
  | a :: l => by
      rw [List.eraseDups_cons, List.findSome?_cons, List.findSome?_cons,
        findSome?_eraseDups (l.filter fun b => !b == a)]
      split
      next => rfl
      next ha =>
        refine findSome?_filter_of_none (fun b hb => ?_) l
        have heq : b = a := by simpa using hb
        rw [heq, ha]
termination_by l => l.length
decreasing_by exact Nat.lt_succ_of_le (List.length_filter_le _ _)

/-- What is refused first of several lists one after another. -/
theorem findSome?_flatMap {γ : Type} (g : γ → List α) (l : List γ) :
    (l.flatMap g).findSome? refusal = l.findSome? fun c => (g c).findSome? refusal := by
  induction l with
  | nil => rfl
  | cons c l ih =>
    rw [List.flatMap_cons, List.findSome?_append, List.findSome?_cons, ih]
    cases (g c).findSome? refusal <;> rfl

end Refusal

/-- In lists that are related member by member, each member on the right has a partner. -/
theorem exists_mem_of_forall₂ {R : α → β → Prop} {l : List α} {r : List β}
    (h : List.Forall₂ R l r) {b : β} (hb : b ∈ r) : ∃ a ∈ l, R a b := by
  induction h with
  | nil => cases hb
  | @cons a b' l r hab _ ih =>
    rcases List.mem_cons.mp hb with rfl | hb
    · exact ⟨a, List.mem_cons_self, hab⟩
    · obtain ⟨a', ha', hab'⟩ := ih hb
      exact ⟨a', List.mem_cons_of_mem a ha', hab'⟩

end GpuPlugin.Traversal
