import GpuPlugin.Nvml.Checks
import GpuPlugin.Proofs.Repetition
import GpuPlugin.Proofs.Text.Word
import Mathlib.Data.List.Sort

/-!
# Proofs/Nvml/Checks — a list of errors to overlook, entry by entry

An entry either switches the checks off, or names an error number, or says nothing
(`ChecksEntry.read_eq_disableAll_iff`, `ChecksEntry.read_eq_skip_iff`).  A list of entries says what
its entries say, so the settings are decided by the set of entries that say something
(`entrywise_read`): neither their order, nor repetitions, nor the entries that say nothing matter,
and two lists with a comma between them are one list.
-/

namespace GpuPlugin.Nvml

variable {entry : List Char} {x y : Nat} {value : String}

/-! ## Entries -/

/-- The words that switch the checks off. -/
def switches : List (List Char) := [['a', 'l', 'l'], ['x', 'i', 'd', 's']]

/-- **An entry switches the checks off** if it is one of the words for it in letters of either case,
with white space around it or without. -/
def SwitchesOff (entry : List Char) : Prop :=
  ∃ word, Text.Pads word entry ∧ word.map Char.toLower ∈ switches

/-- **An entry names a number** of 64 bits if it is a decimal numeral of it, after any number of
zeros and perhaps a plus sign, with white space around it or without. -/
def Names (entry : List Char) (x : Nat) : Prop :=
  x < UInt64.size ∧ ∃ word, Text.Pads word entry ∧ Text.IsUnsigned x word

/-- An entry **says something** if it switches the checks off or names a number; otherwise it is
empty or invalid. -/
def SaysSomething (entry : List Char) : Prop := SwitchesOff entry ∨ ∃ x, Names entry x

/-- What an entry is read as: its word, in lower case. -/
def wordOf (entry : List Char) : List Char := (Text.trimBlank entry).map Char.toLower

theorem wordOf_mem_switches_iff : wordOf entry ∈ switches ↔ SwitchesOff entry := by
  constructor
  · exact fun h => ⟨_, Text.pads_trimBlank entry, h⟩
  · rintro ⟨word, hpads, hword⟩
    have hne : word ≠ [] := by
      rintro rfl
      exact absurd hword (by decide)
    have hletters : ∀ letters ∈ switches, letters.all Char.isAlpha = true := by decide
    have hblank : ∀ c ∈ word, Text.isBlank c = false := fun c hc => by
      rw [← Text.isBlank_toLower]
      exact Text.isBlank_of_isAlpha
        (List.all_eq_true.mp (hletters _ hword) _ (List.mem_map_of_mem hc))
    rw [wordOf, (Text.trimBlank_eq_iff hne hblank).mpr hpads]
    exact hword

theorem word64?_wordOf_iff : Text.word64? (wordOf entry) = some x ↔ Names entry x := by
  rw [Text.word64?_eq_some_iff, Names]
  refine and_congr_right' ⟨fun h => ?_, ?_⟩
  · have hword : Text.trimBlank entry = wordOf entry :=
      (Text.map_toLower_eq_iff h.isAlpha_eq_false).mp rfl
    exact ⟨_, Text.pads_trimBlank entry, hword ▸ h⟩
  · rintro ⟨word, hpads, h⟩
    rw [wordOf, (Text.trimBlank_eq_iff h.ne_nil h.isBlank_eq_false).mpr hpads,
      (Text.map_toLower_eq_iff h.isAlpha_eq_false).mpr rfl]
    exact h

namespace ChecksEntry

theorem mem_switches_iff {word : List Char} :
    word ∈ switches ↔ word = ['a', 'l', 'l'] ∨ word = ['x', 'i', 'd', 's'] := by
  simp [switches]

theorem read_of_mem_switches (h : wordOf entry ∈ switches) : read entry = .disableAll :=
  if_pos (mem_switches_iff.mp h)

theorem read_of_notMem_switches (h : wordOf entry ∉ switches) :
    read entry = ((Text.word64? (wordOf entry)).map skip).getD .nothing := by
  refine (if_neg (mt mem_switches_iff.mpr h)).trans ?_
  rw [← wordOf]
  cases Text.word64? (wordOf entry) <;> rfl

theorem read_eq_disableAll_iff : read entry = .disableAll ↔ SwitchesOff entry := by
  rw [← wordOf_mem_switches_iff]
  by_cases hword : wordOf entry ∈ switches
  · exact iff_of_true (read_of_mem_switches hword) hword
  · rw [read_of_notMem_switches hword]
    cases Text.word64? (wordOf entry) <;> exact iff_of_false nofun hword

theorem read_eq_skip_iff : read entry = .skip x ↔ Names entry x := by
  rw [← word64?_wordOf_iff]
  by_cases hword : wordOf entry ∈ switches
  · have hno : ∀ word ∈ switches, Text.word64? word = none := by decide
    rw [read_of_mem_switches hword, hno _ hword]
    exact iff_of_false nofun nofun
  · rw [read_of_notMem_switches hword]
    cases Text.word64? (wordOf entry) <;> simp

theorem xid?_read_eq_some_iff : (read entry).xid? = some x ↔ Names entry x := by
  rw [← read_eq_skip_iff]
  cases read entry <;> simp [xid?]

/-- A printed number is read as itself. -/
theorem read_toString (hx : x < UInt64.size) : read (toString x).toList = .skip x :=
  read_eq_skip_iff.mpr
    ⟨hx, _, Text.pads_self _, .inl (Text.isNumeral_toString x)⟩

end ChecksEntry

/-! ## Lists of entries -/

/-- **The entries of a value** stand between its commas. -/
def entries (value : String) : List (List Char) := value.toList.splitOn ','

theorem entries_comma (a b : String) : entries (a ++ "," ++ b) = entries a ++ entries b := by
  rw [entries, String.toList_append, String.toList_append, List.append_assoc]
  exact List.splitOn_append_cons_self a.toList b.toList

namespace Checks

/-- Two settings are **the same** if they agree on whether there are checks at all and list the same
numbers. -/
def Same (c c' : Checks) : Prop :=
  c.disabled = c'.disabled ∧ c.skippedInOrder = c'.skippedInOrder

/-- The list of numbers is a matter of which numbers are in it. -/
theorem same_of_skips {c c' : Checks} (hdisabled : c.disabled = c'.disabled)
    (hskips : ∀ x, c.skips x = c'.skips x) : c.Same c' := by
  have hmem : ∀ x, x ∈ c.skipped.eraseDups ↔ x ∈ c'.skipped.eraseDups := fun x => by
    rw [List.mem_eraseDups, List.mem_eraseDups, ← List.contains_iff_mem, ← List.contains_iff_mem]
    exact Bool.eq_iff_iff.mp (hskips x)
  have hperm : c.skipped.eraseDups.Perm c'.skipped.eraseDups :=
    (List.perm_ext_iff_of_nodup (Repetition.nodup_eraseDups _) (Repetition.nodup_eraseDups _)).mpr
      hmem
  have hsorted : c.skippedInOrder.Perm c'.skippedInOrder :=
    ((List.mergeSort_perm _ _).trans hperm).trans (List.mergeSort_perm _ _).symm
  exact ⟨hdisabled, hsorted.eq_of_pairwise (fun _ _ _ _ => Nat.le_antisymm)
    (List.pairwise_mergeSort' (· ≤ ·) _) (List.pairwise_mergeSort' (· ≤ ·) _)⟩

theorem disabled_read_iff :
    (read (some value)).disabled = true ↔ ∃ entry ∈ entries value, SwitchesOff entry := by
  simp only [← ChecksEntry.read_eq_disableAll_iff]
  rw [read, ofEntries, List.contains_iff_mem, List.mem_map]
  rfl

theorem skips_read_iff : (read (some value)).skips x = true ↔
    x ∈ applicationXids ∨ ∃ entry ∈ entries value, Names entry x := by
  simp only [← ChecksEntry.xid?_read_eq_some_iff]
  rw [skips, List.contains_iff_mem, read, ofEntries, List.mem_append, List.filterMap_map,
    List.mem_filterMap]
  rfl

theorem skips_of_mem_applicationXids (value : Option String) (hx : x ∈ applicationXids) :
    (read value).skips x = true := by
  rw [skips, List.contains_iff_mem]
  exact List.mem_append_left _ hx

/-- **Two lists with a comma between them are one list.** -/
theorem disabled_read_comma (a b : String) : (read (some (a ++ "," ++ b))).disabled = true ↔
    (read (some a)).disabled = true ∨ (read (some b)).disabled = true := by
  simp only [disabled_read_iff, entries_comma, List.mem_append, or_and_right, exists_or]

theorem skips_read_comma (a b : String) : (read (some (a ++ "," ++ b))).skips x = true ↔
    (read (some a)).skips x = true ∨ (read (some b)).skips x = true := by
  simp only [skips_read_iff, entries_comma, List.mem_append, or_and_right, exists_or]
  exact or_or_distrib_left

/-- **Nothing but the set of entries that say something matters.** -/
theorem same_of_entries {value' : String}
    (h : ∀ entry, SaysSomething entry → (entry ∈ entries value ↔ entry ∈ entries value')) :
    (read (some value)).Same (read (some value')) := by
  refine same_of_skips (Bool.eq_iff_iff.mpr ?_) fun x => Bool.eq_iff_iff.mpr ?_
  · rw [disabled_read_iff, disabled_read_iff]
    exact exists_congr fun entry => and_congr_left fun hoff => h entry (.inl hoff)
  · rw [skips_read_iff, skips_read_iff]
    exact or_congr_right <| exists_congr fun entry =>
      and_congr_left fun hnames => h entry (.inr ⟨x, hnames⟩)

/-- The numbers with commas between them, as they are printed. -/
def printed (xids : List Nat) : String := ",".intercalate (xids.map toString)

theorem comma_notMem_toString (n : Nat) : ',' ∉ (toString n).toList := fun h =>
  absurd ((Text.isNumeral_toString n).isDigit ',' h) (by decide)

theorem entries_printed {xids : List Nat} (hne : xids ≠ []) :
    entries (printed xids) = xids.map fun x => (toString x).toList := by
  rw [entries, printed, String.toList_intercalate, List.map_map]
  exact List.splitOn_intercalate ',' (List.forall_mem_map.mpr fun x _ => comma_notMem_toString x)
    (mt List.map_eq_nil_iff.mp hne)

/-- **Printed numbers are read back**, and nothing else is. -/
theorem read_printed {xids : List Nat} (hsize : ∀ x ∈ xids, x < UInt64.size) :
    (read (some (printed xids))).disabled = false ∧
      ∀ x, (read (some (printed xids))).skips x = true ↔ x ∈ applicationXids ∨ x ∈ xids := by
  rcases eq_or_ne xids [] with rfl | hne
  · refine ⟨rfl, fun x => ?_⟩
    rw [skips, List.contains_iff_mem, or_iff_left List.not_mem_nil]
    rfl
  have hread : ∀ x ∈ xids, ChecksEntry.read (toString x).toList = .skip x :=
    fun x hx => ChecksEntry.read_toString (hsize x hx)
  constructor
  · rw [← Bool.not_eq_true, disabled_read_iff, entries_printed hne]
    rintro ⟨entry, hentry, hoff⟩
    obtain ⟨x, hx, rfl⟩ := List.mem_map.mp hentry
    rw [← ChecksEntry.read_eq_disableAll_iff, hread x hx] at hoff
    cases hoff
  · intro x
    rw [skips_read_iff, entries_printed hne]
    refine or_congr_right ⟨?_, fun hx => ?_⟩
    · rintro ⟨entry, hentry, hnames⟩
      obtain ⟨y, hy, rfl⟩ := List.mem_map.mp hentry
      rw [← ChecksEntry.read_eq_skip_iff, hread y hy] at hnames
      obtain rfl := ChecksEntry.skip.inj hnames
      exact hy
    · exact ⟨_, List.mem_map_of_mem hx, ChecksEntry.read_eq_skip_iff.mp (hread x hx)⟩

/-! ## The settings -/

/-- **Settings that are read entry by entry.** -/
structure Entrywise (read : Option String → Checks) : Prop where
  /-- Two lists with a comma between them ask for what either of them asks for. -/
  comma : ∀ a b,
    ((read (some (a ++ "," ++ b))).disabled = true ↔
      (read (some a)).disabled = true ∨ (read (some b)).disabled = true) ∧
    ∀ x, (read (some (a ++ "," ++ b))).skips x = true ↔
      (read (some a)).skips x = true ∨ (read (some b)).skips x = true
  /-- The order of the entries, their repetitions, and entries that are empty or invalid do not
  matter. -/
  same : ∀ value value',
    (∀ entry, SaysSomething entry → (entry ∈ entries value ↔ entry ∈ entries value')) →
    (read (some value)).Same (read (some value'))
  /-- Errors that programs cause never count. -/
  application : ∀ value, ∀ x ∈ applicationXids, (read value).skips x = true
  /-- The checks are switched off by an entry that says so. -/
  disabled_iff : ∀ value,
    (read (some value)).disabled = true ↔ ∃ entry ∈ entries value, SwitchesOff entry
  /-- Apart from those that programs cause, an error does not count if an entry names its number. -/
  skips_iff : ∀ value x, (read (some value)).skips x = true ↔
    x ∈ applicationXids ∨ ∃ entry ∈ entries value, Names entry x
  /-- Numbers that are printed with commas between them are read back, and nothing else is. -/
  printed : ∀ xids : List Nat, (∀ x ∈ xids, x < UInt64.size) →
    (read (some (printed xids))).disabled = false ∧
      ∀ x, (read (some (printed xids))).skips x = true ↔ x ∈ applicationXids ∨ x ∈ xids

/-- **The settings of the health check are read entry by entry**, whatever the list of entries. -/
theorem entrywise_read : Entrywise read where
  comma a b := ⟨disabled_read_comma a b, fun _ => skips_read_comma a b⟩
  same _ _ := same_of_entries
  application value _ := skips_of_mem_applicationXids value
  disabled_iff _ := disabled_read_iff
  skips_iff _ _ := skips_read_iff
  printed _ := read_printed

/-- White space of any script, signs and leading zeros are passed over; a number of 65 bits and a
sign in front of white space are invalid. -/
example : read (some "\u2003+007 ,XiDs,18446744073709551616,+ 5")
    = ⟨true, applicationXids ++ [7]⟩ := by decide +kernel

end Checks

end GpuPlugin.Nvml
