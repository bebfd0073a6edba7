/-!
# Labels — named texts, each name once

The variables and annotations of a container: a finite map from names to texts.  Its entries are
kept in the order of their names, so that two maps with the same entries are the same value,
whatever order the entries came in.
-/

namespace GpuPlugin

/-- A finite map from names to texts. -/
structure Labels where
  entries : List (String × String)
  sorted : entries.Pairwise (·.1 < ·.1)
  deriving DecidableEq

namespace Labels

/-- The map without entries. -/
def empty : Labels := ⟨[], .nil⟩

instance : EmptyCollection Labels := ⟨empty⟩
instance : Inhabited Labels := ⟨empty⟩

/-- Put an entry in its place, over an entry of that name. -/
def put (k v : String) : List (String × String) → List (String × String)
  | [] => [(k, v)]
  | e :: rest =>
    if k < e.1 then (k, v) :: e :: rest
    else if k = e.1 then (k, v) :: rest
    else e :: put k v rest

theorem key_of_mem_put {k v : String} {e : String × String} :
    ∀ {l : List (String × String)}, e ∈ put k v l → e = (k, v) ∨ e ∈ l
  | [], h => by simpa [put] using h
  | x :: rest, h => by
      simp only [put] at h
      split at h
      · simpa using h
      · split at h
        · rcases List.mem_cons.mp h with h | h
          · exact .inl h
          · exact .inr (List.mem_cons_of_mem _ h)
        · rcases List.mem_cons.mp h with h | h
          · exact .inr (by simp [h])
          · rcases key_of_mem_put h with h | h
            · exact .inl h
            · exact .inr (List.mem_cons_of_mem _ h)

theorem pairwise_put (k v : String) :
    ∀ {l : List (String × String)}, l.Pairwise (·.1 < ·.1) → (put k v l).Pairwise (·.1 < ·.1)
  | [], _ => by simp [put]
  | x :: rest, h => by
      obtain ⟨hx, hr⟩ := List.pairwise_cons.mp h
      simp only [put]
      split
      next hlt =>
        refine List.pairwise_cons.mpr ⟨fun e he => ?_, h⟩
        rcases List.mem_cons.mp he with rfl | he
        · exact hlt
        · exact String.lt_trans hlt (hx e he)
      next hlt =>
        split
        next heq =>
          refine List.pairwise_cons.mpr ⟨fun e he => ?_, hr⟩
          exact heq ▸ hx e he
        next hne =>
          refine List.pairwise_cons.mpr ⟨fun e he => ?_, pairwise_put k v hr⟩
          rcases key_of_mem_put he with rfl | he
          · rcases String.le_total x.1 k with hle | hle
            · rcases Decidable.em (k ≤ x.1) with hk | hk
              · exact absurd (String.le_antisymm hk hle) hne
              · exact Decidable.not_not.mp fun hn => hk (String.not_lt.mp hn)
            · rcases Decidable.em (x.1 ≤ k) with hk | hk
              · exact absurd (String.le_antisymm hle hk) hne
              · exact absurd (Decidable.not_not.mp fun hn => hk (String.not_lt.mp hn)) hlt
          · exact hx e he

/-- The map with an entry added, or replaced if its name is taken. -/
def insert (m : Labels) (k v : String) : Labels :=
  ⟨put k v m.entries, pairwise_put k v m.sorted⟩

/-- The text under a name. -/
def get? (m : Labels) (k : String) : Option String :=
  m.entries.lookup k

theorem lookup_put_self (k v : String) :
    ∀ l : List (String × String), (put k v l).lookup k = some v
  | [] => by simp [put]
  | (a, b) :: rest => by
      simp only [put]
      split
      · simp
      · split
        · simp
        next hne =>
          have hb : (k == a) = false := by simpa using hne
          simp [List.lookup_cons, hb, lookup_put_self k v rest]

theorem lookup_put_of_ne {k n : String} (v : String) (hne : n ≠ k) :
    ∀ l : List (String × String), (put k v l).lookup n = l.lookup n
  | [] => by
      have hb : (n == k) = false := by simpa using hne
      simp [put, List.lookup_cons, hb]
  | (a, b) :: rest => by
      have hb : (n == k) = false := by simpa using hne
      simp only [put]
      split
      · simp [List.lookup_cons, hb]
      · split
        next heq =>
          obtain rfl := heq
          simp [List.lookup_cons, hb]
        next => simp [List.lookup_cons, lookup_put_of_ne v hne rest]

@[simp] theorem get?_insert_self (m : Labels) (k v : String) : (m.insert k v).get? k = some v :=
  lookup_put_self k v m.entries

theorem get?_insert_of_ne (m : Labels) {k n : String} (v : String) (h : n ≠ k) :
    (m.insert k v).get? n = m.get? n :=
  lookup_put_of_ne v h m.entries

/-- The map of a list of entries; of two entries with one name the later stays. -/
def ofList (l : List (String × String)) : Labels :=
  l.foldl (fun m e => m.insert e.1 e.2) empty

/-- The map with one entry. -/
def single (k v : String) : Labels := empty.insert k v

end Labels

end GpuPlugin
