import GpuPlugin.Host
import Mathlib.Order.Basic

/-!
# Proofs/Host/Removal — sockets put at a path and removed from it

A path is walked through directories, so it leads to the same place when only what is at that place
has changed, as long as no directory came or went there (`locate_of_agree`).  Hence a socket that
has been bound at a path is found there, and what has been removed from a path is gone.  Removing
finds nothing new anywhere: `h ≤ h'` says that everything found in `h` is found in `h'` as well.
-/

namespace GpuPlugin.Host

/-- Everything found in the one host is found in the other. -/
instance : Preorder Host where
  le h h' := ∀ l e, h.entryAt? l = some e → h'.entryAt? l = some e
  le_refl _ _ _ he := he
  le_trans _ _ _ h₁ h₂ l e he := h₂ l e (h₁ l e he)

/-! ## Walking past a change -/

theorem directory_of_step {h : Host} {here next : Location} {segment : List Char}
    (hstep : h.step here segment = .ok next) : h.entryAt? here = some .directory := by
  rw [step] at hstep
  split at hstep
  next => cases hstep
  next hentry => exact hentry
  next => cases hstep

theorem step_congr {h h' : Host} {here : Location} (hsame : h'.entryAt? here = h.entryAt? here)
    (segment : List Char) : h'.step here segment = h.step here segment := by
  rw [step, step, hsame]

/-- A walk that ends at a place without a directory has not come through that place before. -/
theorem walk_of_agree {h h' : Host} {l : Location} (hl : h.entryAt? l ≠ some .directory)
    (hsame : ∀ m, m ≠ l → h'.entryAt? m = h.entryAt? m) {segments : List (List Char)}
    {here : Location} (hwalk : segments.foldlM h.step here = .ok l) :
    segments.foldlM h'.step here = .ok l := by
  induction segments generalizing here with
  | nil => exact hwalk
  | cons segment segments ih =>
    rw [List.foldlM_cons] at hwalk ⊢
    cases hstep : h.step here segment with
    | error e =>
      rw [hstep] at hwalk
      cases hwalk
    | ok next =>
      -- Only a directory can be walked through, and there is none at the end.
      have hne : here ≠ l := by
        intro heq
        exact hl (heq ▸ directory_of_step hstep)
      rw [hstep] at hwalk
      rw [step_congr (hsame here hne), hstep]
      exact ih hwalk

/-- **A path still leads where it led** when only what is at its end has changed. -/
theorem locate_of_agree {h h' : Host} {path : String} {l : Location}
    (hlocate : h.locate path = .ok l) (hl : h.entryAt? l ≠ some .directory)
    (hdirectory : h'.workingDirectory = h.workingDirectory)
    (hsame : ∀ m, m ≠ l → h'.entryAt? m = h.entryAt? m) : h'.locate path = .ok l := by
  rw [locate] at hlocate ⊢
  split_ifs at hlocate ⊢
  · exact walk_of_agree hl hsame hlocate
  · rw [hdirectory]
    exact walk_of_agree hl hsame hlocate

theorem at?_of_dial {h : Host} {path : String} {s : Service} (hdial : h.dial path = some s) :
    h.at? path = some (.socket s) := by
  rw [dial] at hdial
  split_ifs at hdial
  split at hdial
  next hat =>
    obtain rfl := Option.some.inj hdial
    exact hat
  next => cases hdial

theorem at?_of_locate {h : Host} {path : String} {l : Location} (hlocate : h.locate path = .ok l) :
    h.at? path = h.entryAt? l := by
  rw [at?, hlocate]

/-! ## Erasing -/

theorem entryAt?_of_above {h : Host} {l : Location} (habove : l <+: h.workingDirectory) :
    h.entryAt? l = some .directory :=
  if_pos (List.isPrefixOf_iff_prefix.mpr habove)

theorem erase_le (h : Host) (l : Location) : h.erase l ≤ h := by
  intro m e hm
  by_cases habove : m <+: h.workingDirectory
  · have herased : (h.erase l).entryAt? m = some .directory := entryAt?_of_above habove
    rw [entryAt?_of_above habove, ← herased, hm]
  · by_cases heq : m = l
    · rw [heq, entryAt?_erase_self h (heq ▸ habove)] at hm
      cases hm
    · rw [entryAt?_erase_of_ne h heq] at hm
      exact hm

/-- What has been erased at the end of a path is not found there. -/
theorem at?_erase {h : Host} {path : String} {l : Location} (hlocate : h.locate path = .ok l)
    (hl : h.entryAt? l ≠ some .directory) : (h.erase l).at? path = none := by
  have hstill : (h.erase l).locate path = .ok l :=
    locate_of_agree hlocate hl rfl fun _ hne => entryAt?_erase_of_ne h hne
  rw [at?_of_locate hstill]
  exact entryAt?_erase_self h fun habove => hl (entryAt?_of_above habove)

/-! ## Removing -/

theorem remove_of_locate {h : Host} {path : String} {l : Location}
    (hlocate : h.locate path = .ok l) :
    h.remove path = match h.entryAt? l with
      | none => .error .notFound
      | some .directory => .error .isDirectory
      | some _ => .ok (h.erase l) := by
  rw [remove, hlocate]
  rfl

/-- **What is removed is gone**, and everything else has been there before. -/
theorem gone_of_remove {h h' : Host} {path : String} (hremove : h.remove path = .ok h') :
    h'.at? path = none ∧ h' ≤ h := by
  cases hlocate : h.locate path with
  | error e =>
    rw [remove, hlocate] at hremove
    cases hremove
  | ok l =>
    rw [remove_of_locate hlocate] at hremove
    split at hremove
    next => cases hremove
    next => cases hremove
    next entry hkind hentry =>
      obtain rfl := Except.ok.inj hremove
      have hl : h.entryAt? l ≠ some .directory := fun hd =>
        hkind (Option.some.inj (hentry.symm.trans hd))
      exact ⟨at?_erase hlocate hl, erase_le h l⟩

/-- **What cannot be removed is missing or a directory**, and is missing if that is the reason. -/
theorem at?_of_remove_eq_error {h : Host} {path : String} {e : FileFault}
    (hremove : h.remove path = .error e) :
    h.at? path = none ∨ (h.at? path = some .directory ∧ e ≠ .notFound) := by
  cases hlocate : h.locate path with
  | error e => exact Or.inl (by rw [at?, hlocate])
  | ok l =>
    rw [remove_of_locate hlocate] at hremove
    rw [at?_of_locate hlocate]
    split at hremove
    next hentry => exact Or.inl hentry
    next hentry =>
      obtain rfl := Except.error.inj hremove
      exact Or.inr ⟨hentry, nofun⟩
    next => cases hremove

/-! ## Clearing

A path is cleared when nothing is left at it, whether or not there was something to remove. -/

/-- A path at which there is no socket. -/
def NoSocketAt (h : Host) (path : String) : Prop := ∀ s, h.at? path ≠ some (.socket s)

theorem noSocketAt_of_none {h : Host} {path : String} (hnone : h.at? path = none) :
    h.NoSocketAt path := fun s hs => by rw [hnone] at hs; cases hs

theorem noSocketAt_of_remove_eq_error {h : Host} {path : String} {e : FileFault}
    (hremove : h.remove path = .error e) : h.NoSocketAt path := by
  rcases at?_of_remove_eq_error hremove with hnone | ⟨hdirectory, -⟩
  · exact noSocketAt_of_none hnone
  · intro s hs
    rw [hdirectory] at hs
    cases hs

theorem clear_of_remove {h h' : Host} {path : String} (hremove : h.remove path = .ok h') :
    h.clear path = .ok h' := by
  rw [clear, hremove]

theorem gone_of_clear {h h' : Host} {path : String} (hclear : h.clear path = .ok h') :
    h'.at? path = none ∧ h' ≤ h := by
  rw [clear] at hclear
  split at hclear
  next hremove =>
    obtain rfl := Except.ok.inj hclear
    refine ⟨?_, le_refl h⟩
    rcases at?_of_remove_eq_error hremove with hnone | ⟨-, hne⟩
    · exact hnone
    · exact absurd rfl hne
  next => exact gone_of_remove hclear

theorem noSocketAt_of_clear_eq_error {h : Host} {path : String} {e : FileFault}
    (hclear : h.clear path = .error e) : h.NoSocketAt path := by
  rw [clear] at hclear
  split at hclear
  next => cases hclear
  next => exact noSocketAt_of_remove_eq_error hclear

/-! ## Binding -/

theorem erase_put_le (h : Host) {l : Location} (hl : h.entryAt? l = none) (e : Entry) :
    (h.put l e).erase l ≤ h := by
  intro m e' hm
  by_cases heq : m = l
  · subst heq
    have habove : ¬ m <+: (h.put m e).workingDirectory := fun habove => by
      rw [entryAt?_of_above (h := h) habove] at hl
      cases hl
    rw [entryAt?_erase_self _ habove] at hm
    cases hm
  · rw [entryAt?_erase_of_ne _ heq, entryAt?_put_of_ne _ _ heq] at hm
    exact hm

/-- **A socket that has been bound is found at its path**, and removing it leaves nothing of it
behind. -/
theorem bound_of_bind {h h' : Host} {path : String} {s : Service}
    (hbind : h.bind path s = some h') :
    h'.dial path = some s ∧ ∃ h'', h'.remove path = .ok h'' ∧ h'' ≤ h := by
  rw [bind] at hbind
  split_ifs at hbind with hpath
  split at hbind
  next l hlocate =>
    split_ifs at hbind with hnone
    obtain rfl := Option.some.inj hbind
    have hl : h.entryAt? l = none := Option.isNone_iff_eq_none.mp hnone
    have habove : ¬ l <+: h.workingDirectory := fun habove => by
      rw [entryAt?_of_above habove] at hl
      cases hl
    have hsocket : (h.put l (.socket s)).entryAt? l = some (.socket s) :=
      entryAt?_put_self h _ habove
    have hstill : (h.put l (.socket s)).locate path = .ok l :=
      locate_of_agree hlocate (by rw [hl]; nofun) rfl fun _ hne => entryAt?_put_of_ne h _ hne
    have hremove : (h.put l (.socket s)).remove path = .ok ((h.put l (.socket s)).erase l) := by
      rw [remove_of_locate hstill, hsocket]
    refine ⟨?_, (h.put l (.socket s)).erase l, hremove, erase_put_le h hl _⟩
    rw [dial, if_pos hpath, at?_of_locate hstill, hsocket]
  next => cases hbind

end GpuPlugin.Host
