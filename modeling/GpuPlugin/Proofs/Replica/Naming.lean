import GpuPlugin.Replica

/-!
# Proofs/Replica/Naming — a replica's id names its device

A replica's index is a decimal numeral, so it has no colon in it and the separator in front of it is
the last one of the id.  Hence `deviceId_id`: cutting the id of a replica gives the device's id
back, whatever is in it — a separator, a colon at its end, or the whole id of another replica.
-/

namespace GpuPlugin.Replica

/-! ## Cutting at the last separator -/

theorem splitLast_of_colon_notMem {l : List Char} (h : ':' ∉ l) : splitLast l = none := by
  induction l with
  | nil => rfl
  | cons c cs ih =>
    have hc : c ≠ ':' := fun e => h (e ▸ List.mem_cons_self)
    have hcs : ':' ∉ cs := fun m => h (List.mem_cons_of_mem c m)
    rw [splitLast, ih hcs]
    exact fun _ e => absurd e hc

/-- A single colon is no separator: the text after it decides. -/
theorem splitLast_colon_cons {l : List Char} (hnone : splitLast l = none)
    (hhead : l.head? ≠ some ':') : splitLast (':' :: l) = none := by
  rw [splitLast, hnone]
  rintro after - rfl
  exact hhead rfl

theorem splitLast_cons_of_some {c : Char} {cs before after : List Char}
    (h : splitLast cs = some (before, after)) :
    splitLast (c :: cs) = some (c :: before, after) := by
  simp only [splitLast, h]

/-- **The last separator is the one with none after it**, and no colon right after it. -/
theorem splitLast_append {before after : List Char} (hnone : splitLast after = none)
    (hhead : after.head? ≠ some ':') :
    splitLast (before ++ ':' :: ':' :: after) = some (before, after) := by
  induction before with
  | nil => rw [List.nil_append, splitLast, splitLast_colon_cons hnone hhead]
  | cons c cs ih => exact splitLast_cons_of_some ih

/-- Without a separator there is nothing to cut. -/
theorem splitLast_of_not_infix {l : List Char} (h : ¬ separator.toList <:+: l) :
    splitLast l = none := by
  induction l with
  | nil => rfl
  | cons c cs ih =>
    rw [splitLast, ih fun hcs => h (hcs.trans (List.suffix_cons c cs).isInfix)]
    rintro after rfl rfl
    exact h ⟨[], after, rfl⟩

/-! ## Numerals -/

theorem colon_notMem_toString (n : Nat) : ':' ∉ (toString n).toList := by
  intro h
  rw [Nat.toString_eq_repr, Nat.toList_repr] at h
  exact absurd (Nat.isDigit_of_mem_toDigits (by decide) (by decide) h) (by decide)

/-! ## The device behind a replica -/

theorem toList_id (device : String) (index : Nat) :
    (id device index).toList = device.toList ++ ':' :: ':' :: (toString index).toList := by
  rw [id, String.toList_append, String.toList_append, List.append_assoc]
  rfl

/-- **A replica's id, cut at its last separator, is the id of its device.** -/
@[simp] theorem deviceId_id (device : String) (index : Nat) :
    deviceId (id device index) = device := by
  have hcolon := colon_notMem_toString index
  have hhead : (toString index).toList.head? ≠ some ':' := mt List.mem_of_head? hcolon
  rw [deviceId, toList_id, splitLast_append (splitLast_of_colon_notMem hcolon) hhead]
  exact String.ofList_toList

/-- An id has the separator in it. -/
def HasSeparator (id : String) : Prop := separator.toList <:+: id.toList

instance (id : String) : Decidable (HasSeparator id) :=
  inferInstanceAs (Decidable (separator.toList <:+: id.toList))

/-- **An id without a separator is cut to itself.** -/
theorem deviceId_of_not_hasSeparator {id : String} (h : ¬ HasSeparator id) : deviceId id = id := by
  rw [deviceId, splitLast_of_not_infix h]

theorem toString_injective : Function.Injective (toString : Nat → String) := by
  intro i j h
  have hdigits := congrArg String.toList h
  rw [Nat.toString_eq_repr, Nat.toString_eq_repr, Nat.toList_repr, Nat.toList_repr] at hdigits
  have hvalue := congrArg (Nat.ofDigitChars 10 · 0) hdigits
  have hbase : 1 < 10 ∧ 10 ≤ 10 := by decide
  simpa only [Nat.ofDigitChars_toDigits hbase.1 hbase.2] using hvalue

/-- **A replica's id names one device and one index.** -/
theorem id_inj {device device' : String} {index index' : Nat} :
    id device index = id device' index' ↔ device = device' ∧ index = index' := by
  constructor
  · intro h
    obtain rfl : device = device' := by
      rw [← deviceId_id device index, h, deviceId_id]
    have hchars := congrArg String.toList h
    rw [toList_id, toList_id] at hchars
    have htail := List.append_cancel_left hchars
    have hnumeral := (List.cons.inj (List.cons.inj htail).2).2
    exact ⟨rfl, toString_injective (String.toList_injective hnumeral)⟩
  · rintro ⟨rfl, rfl⟩
    rfl

theorem mem_deviceIds {ids : List String} {device : String} :
    device ∈ deviceIds ids ↔ ∃ id ∈ ids, deviceId id = device := by
  rw [deviceIds, List.mem_eraseDups, List.mem_map]

end GpuPlugin.Replica
