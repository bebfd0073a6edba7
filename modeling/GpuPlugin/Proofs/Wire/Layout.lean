import GpuPlugin.Proofs.Wire.Spelling
import GpuPlugin.Wire.Codec

/-!
# Proofs/Wire/Layout — reading back what was sent

The **rules** of a kind of field say what decoding is held to: how two values are merged, which
payloads a value may be sent as, and what a payload becomes when fields that nobody knows are put
into a message in it.  A layout whose kinds have rules has them too, and a kind of message has those
of its layout.  Decoding what was sent for some values then merges them into those there are
(`decodeOnto_append_of_encodes`), and fields that nobody knows leave no trace
(`decodeOnto_of_padded`).
-/

namespace GpuPlugin.Wire

/-! ## Rules -/

/-- A payload that a kind of field reads under its own shape. -/
def Kind.Accepts {V : Type} (k : Kind V) (p : Payload) : Prop :=
  p.IsPlain ∧ (k.isBlock = true → ∃ content, p = .block content)

/-- **The rules of a kind of field.** -/
class Kind.Rules {V : Type} (k : Kind V) where
  /-- What becomes of a value when another one is sent after it. -/
  join : V → V → V
  /-- The payloads that a value may be sent as. -/
  Sends : V → List Payload → Prop
  /-- The second payload is the first one with unknown fields put into it, if it is a message. -/
  Pads : Payload → Payload → Prop
  join_blank : ∀ v, join k.blank v = v
  sends_payloads : ∀ v, Sends v (k.payloads v)
  pads_self : ∀ {v ps p}, Sends v ps → p ∈ ps → Pads p p
  accepts : ∀ {p q}, Pads p q → k.Accepts p ∧ k.Accepts q
  shape_eq : ∀ {p q}, Pads p q → q.shape = p.shape
  length_le : ∀ {p q}, Pads p q → p.bytes.length ≤ q.bytes.length
  foldlM_take : ∀ depth u {v ps}, Sends v ps → (∀ p ∈ ps, p.Fits) →
    ps.foldlM (k.take depth) u = some (join u v)
  take_eq : ∀ depth u {p q}, Pads p q → q.Fits → k.take depth u q = k.take depth u p

/-- **The rules of a layout** are those of its kinds. -/
class inductive Layout.Rules : {F : Type} → Layout F → Type 1
  | nil : Layout.Rules .nil
  | field {V F : Type} (number : Nat) {k : Kind V} {l : Layout F} (own : k.Rules) (rest : l.Rules) :
      Layout.Rules (.field number k l)

namespace Layout.Rules

variable {F : Type} {l : Layout F}

/-- Values are merged field by field. -/
def join {F : Type} {l : Layout F} : l.Rules → F → F → F
  | nil, _, _ => ()
  | field _ own rest, (u, us), (v, vs) => (own.join u v, rest.join us vs)

/-- The fields that may be sent for some values: those of each field in a form that its kind
allows, in the order of the layout. -/
def Sends {F : Type} {l : Layout F} : l.Rules → F → List Field → Prop
  | nil, _, fs => fs = []
  | field number own rest, (v, vs), fs =>
    ∃ ps tail, own.Sends v ps ∧ rest.Sends vs tail ∧ fs = ps.map (⟨number, ·⟩) ++ tail

/-- The second payload is the first one with unknown fields in it, for a field of the layout. -/
def Pads {F : Type} {l : Layout F} : l.Rules → Nat → Payload → Payload → Prop
  | nil, _, _, _ => False
  | field number own rest, n, p, q => if n = number then own.Pads p q else rest.Pads n p q

/-- **Bytes with unknown fields put in**: the second bytes are the fields of the first, with fields
of other numbers before, between and after them, and inside of the messages they hold. -/
inductive Padded (r : l.Rules) : Bytes → Bytes → Prop
  | nil : Padded r [] []
  | unknown {f : Field} {spelling bs bs' : Bytes} (hnumber : f.number ∉ l.numbers)
      (hspells : f.Spells spelling) (h : Padded r bs bs') : Padded r bs (spelling ++ bs')
  | field {n : Nat} {p q : Payload} {bs bs' : Bytes} (hpads : r.Pads n p q) (h : Padded r bs bs') :
      Padded r (Field.bytes ⟨n, p⟩ ++ bs) (Field.bytes ⟨n, q⟩ ++ bs')

variable {r : l.Rules} {u v : F} {fs : List Field} {f : Field} {n depth : Nat} {p q : Payload}
  {bs bs' rest : Bytes}

/-! ## Values and fields -/

theorem join_blank (r : l.Rules) (v : F) : r.join l.blank v = v := by
  induction r with
  | nil => rfl
  | field number own rest ih =>
    obtain ⟨v, vs⟩ := v
    exact Prod.ext (own.join_blank v) (ih vs)

theorem sends_fields (r : l.Rules) (v : F) : r.Sends v (l.fields v) := by
  induction r with
  | nil => rfl
  | field number own rest ih =>
    obtain ⟨v, vs⟩ := v
    exact ⟨_, _, own.sends_payloads v, ih vs, rfl⟩

theorem number_mem_of_sends (h : r.Sends v fs) (hf : f ∈ fs) : f.number ∈ l.numbers := by
  induction r generalizing fs with
  | nil =>
    obtain rfl : fs = [] := h
    nomatch hf
  | field number own rest ih =>
    obtain ⟨ps, tail, -, htail, rfl⟩ := h
    rcases List.mem_append.mp hf with hf | hf
    · obtain ⟨p, -, rfl⟩ := List.mem_map.mp hf
      exact List.mem_cons_self
    · exact List.mem_cons_of_mem _ (ih htail hf)

theorem pads_self (hnodup : l.numbers.Nodup) (h : r.Sends v fs) (hf : f ∈ fs) :
    r.Pads f.number f.payload f.payload := by
  induction r generalizing fs with
  | nil =>
    obtain rfl : fs = [] := h
    nomatch hf
  | field number own rest ih =>
    obtain ⟨hnot, hrest⟩ := List.nodup_cons.mp hnodup
    obtain ⟨ps, tail, hown, htail, rfl⟩ := h
    rcases List.mem_append.mp hf with hf | hf
    · obtain ⟨p, hp, rfl⟩ := List.mem_map.mp hf
      rw [Pads, if_pos rfl]
      exact own.pads_self hown hp
    · have hne : f.number ≠ number := fun heq => hnot (heq ▸ number_mem_of_sends htail hf)
      rw [Pads, if_neg hne]
      exact ih hrest htail hf

/-- **A padded payload belongs to one of the fields**, and that field alone takes it. -/
theorem exists_kind_of_pads (h : r.Pads n p q) :
    ∃ (V : Type) (k : Kind V) (own : k.Rules) (get : F → V) (put : F → V → F),
      own.Pads p q ∧ n ∈ l.numbers ∧ l.isBlock n = k.isBlock ∧
        ∀ depth u s, l.take depth u ⟨n, s⟩ = (k.take depth (get u) s).map (put u) := by
  induction r with
  | nil => exact h.elim
  | @field V F number k l own rest ih =>
    rw [Pads] at h
    split_ifs at h with hn
    · refine ⟨V, k, own, Prod.fst, fun u v => (v, u.2), h, ?_, if_pos hn, fun depth u s => ?_⟩
      · exact hn ▸ List.mem_cons_self
      · exact if_pos hn
    · obtain ⟨W, k', own', get, put, hpads, hmem, hblock, htake⟩ := ih h
      refine ⟨W, k', own', fun u => get u.2, fun u w => (u.1, put u.2 w), hpads, ?_, ?_, ?_⟩
      · exact List.mem_cons_of_mem _ hmem
      · exact (if_neg hn).trans hblock
      · intro depth u s
        refine (if_neg hn).trans ?_
        rw [htake, Option.map_map]
        rfl

end Layout.Rules

namespace Layout

variable {F : Type} {l : Layout F} {u v : F} {n depth : Nat} {f : Field} {fs : List Field}
  {rest spelling : Bytes}

/-- A payload that a layout reads under its own shape. -/
def Accepts (l : Layout F) (n : Nat) (p : Payload) : Prop :=
  p.IsPlain ∧ (l.isBlock n = true → ∃ content, p = .block content)

theorem isBlock_of_notMem (h : n ∉ l.numbers) : l.isBlock n = false := by
  induction l with
  | nil => rfl
  | field number kind rest ih =>
    obtain ⟨hne, hrest⟩ := List.ne_and_not_mem_of_not_mem_cons h
    exact (if_neg hne).trans (ih hrest)

/-- **Unknown fields are passed over.** -/
theorem take_of_notMem (h : f.number ∉ l.numbers) : l.take depth u f = some u := by
  induction l with
  | nil => rfl
  | field number kind rest ih =>
    obtain ⟨hne, hrest⟩ := List.ne_and_not_mem_of_not_mem_cons h
    refine (if_neg hne).trans ?_
    rw [ih hrest]
    rfl

/-- **A spelled field is taken in before the rest.** -/
theorem decodeOnto_append (hspells : f.Spells spelling)
    (hblock : l.isBlock f.number = true → ∃ content, f.payload = .block content) :
    l.decodeOnto depth u (spelling ++ rest)
      = (l.take depth u f).bind (l.decodeOnto depth · rest) := by
  simp only [decodeOnto, readFields_append rest hspells hblock]
  rcases readFields l.isBlock depth rest with _ | fs
  · rcases l.take depth u f with _ | u' <;> rfl
  · rfl

end Layout

namespace Layout.Rules

variable {F : Type} {l : Layout F} {r : l.Rules} {u v : F} {fs : List Field} {f : Field}
  {n depth : Nat} {p q : Payload} {bs bs' rest : Bytes}

theorem accepts (h : r.Pads n p q) : l.Accepts n p ∧ l.Accepts n q := by
  obtain ⟨V, k, own, -, -, hpads, -, hblock, -⟩ := exists_kind_of_pads h
  rw [Accepts, Accepts, hblock]
  exact own.accepts hpads

theorem number_mem_of_pads (h : r.Pads n p q) : n ∈ l.numbers := by
  obtain ⟨V, k, own, -, -, -, hmem, -, -⟩ := exists_kind_of_pads h
  exact hmem

/-- Padding a payload makes its field longer, if anything. -/
theorem length_bytes_le (h : r.Pads n p q) :
    (Field.bytes ⟨n, p⟩).length ≤ (Field.bytes ⟨n, q⟩).length := by
  obtain ⟨V, k, own, -, -, hpads, -, -, -⟩ := exists_kind_of_pads h
  simp only [Field.bytes, own.shape_eq hpads, List.length_append]
  exact Nat.add_le_add_left (own.length_le hpads) _

theorem take_eq (h : r.Pads n p q) (hfits : q.Fits) :
    l.take depth u ⟨n, q⟩ = l.take depth u ⟨n, p⟩ := by
  obtain ⟨V, k, own, get, put, hpads, -, -, htake⟩ := exists_kind_of_pads h
  rw [htake, htake, own.take_eq depth (get u) hpads hfits]

/-! ## Unknown fields -/

theorem length_le_of_padded (h : r.Padded bs bs') : bs.length ≤ bs'.length := by
  induction h with
  | nil => exact Nat.le_refl 0
  | unknown _ _ _ ih =>
    rw [List.length_append]
    omega
  | field hpads _ ih =>
    rw [List.length_append, List.length_append]
    exact Nat.add_le_add (length_bytes_le hpads) ih

theorem fits_of_length_lt (h : (Field.bytes ⟨n, p⟩ ++ rest).length < UInt64.size) : p.Fits := by
  refine Nat.lt_of_le_of_lt ?_ h
  rw [Field.bytes, List.length_append, List.length_append]
  exact Nat.le_trans (Nat.le_add_left p.bytes.length _) (Nat.le_add_right _ _)

/-- **Unknown fields leave no trace**, wherever they are put in. -/
theorem decodeOnto_of_padded (hsound : l.Sound) (h : r.Padded bs bs')
    (hlength : bs'.length < UInt64.size) :
    l.decodeOnto depth u bs' = l.decodeOnto depth u bs := by
  induction h generalizing u with
  | nil => rfl
  | @unknown f spelling bs bs' hnumber hspells h ih =>
    have hblock : l.isBlock f.number = true → ∃ content, f.payload = .block content := by
      intro htrue
      rw [isBlock_of_notMem hnumber] at htrue
      nomatch htrue
    rw [List.length_append] at hlength
    rw [decodeOnto_append hspells hblock, take_of_notMem hnumber]
    exact ih (by omega)
  | @field n p q bs bs' hpads h ih =>
    have hnumber : IsNumber n := hsound.2 n (number_mem_of_pads hpads)
    obtain ⟨hp, hq⟩ := accepts hpads
    have hfits := fits_of_length_lt hlength
    have hshort : (Field.bytes ⟨n, p⟩ ++ bs).length < UInt64.size :=
      Nat.lt_of_le_of_lt (length_le_of_padded (.field hpads h)) hlength
    have hspells : (Field.mk n p).Spells _ :=
      Field.spells_bytes hnumber hp.1 (fits_of_length_lt hshort)
    have hspells' : (Field.mk n q).Spells _ := Field.spells_bytes hnumber hq.1 hfits
    rw [List.length_append] at hlength
    rw [decodeOnto_append hspells hp.2, decodeOnto_append hspells' hq.2, take_eq hpads hfits]
    exact congrArg _ (funext fun u' => ih (by omega))

/-! ## What was sent -/

/-- Bytes that some values are **encoded** as. -/
def Encodes (r : l.Rules) (v : F) (bs : Bytes) : Prop := ∃ fs, r.Sends v fs ∧ bs = writeFields fs

theorem padded_writeFields (h : ∀ f ∈ fs, r.Pads f.number f.payload f.payload) :
    r.Padded (writeFields fs) (writeFields fs) := by
  induction fs with
  | nil => exact .nil
  | cons f fs ih =>
    obtain ⟨hf, hfs⟩ := List.forall_mem_cons.mp h
    exact .field hf (ih hfs)

/-- There is room for unknown fields around all that is sent. -/
theorem Encodes.padded (hsound : l.Sound) (h : r.Encodes v bs) : r.Padded bs bs := by
  obtain ⟨fs, hsends, rfl⟩ := h
  exact padded_writeFields fun f hf => pads_self hsound.1 hsends hf

theorem foldlM_own {V : Type} {k : Kind V} (number : Nat) (w : V) (ps : List Payload) :
    (ps.map (⟨number, ·⟩)).foldlM ((Layout.field number k l).take depth) (w, u)
      = (ps.foldlM (k.take depth) w).map (·, u) := by
  induction ps generalizing w with
  | nil => rfl
  | cons p ps ih =>
    rw [List.map_cons, List.foldlM_cons, List.foldlM_cons, Layout.take, if_pos rfl]
    rcases k.take depth w p with _ | w'
    · rfl
    · exact ih w'

theorem foldlM_rest {V : Type} {k : Kind V} {number : Nat} (w : V)
    (h : ∀ f ∈ fs, f.number ≠ number) :
    fs.foldlM ((Layout.field number k l).take depth) (w, u)
      = (fs.foldlM (l.take depth) u).map (w, ·) := by
  induction fs generalizing u with
  | nil => rfl
  | cons f fs ih =>
    obtain ⟨hne, hfs⟩ := List.forall_mem_cons.mp h
    rw [List.foldlM_cons, List.foldlM_cons, Layout.take, if_neg hne]
    rcases l.take depth u f with _ | u'
    · rfl
    · exact ih hfs

/-- **Taking in what was sent merges the values into those there are.** -/
theorem foldlM_take (hnodup : l.numbers.Nodup) (h : r.Sends v fs)
    (hfits : ∀ f ∈ fs, f.payload.Fits) :
    fs.foldlM (l.take depth) u = some (r.join u v) := by
  induction r generalizing fs with
  | nil =>
    obtain rfl : fs = [] := h
    rfl
  | field number own rest ih =>
    obtain ⟨hnot, hrest⟩ := List.nodup_cons.mp hnodup
    obtain ⟨v, vs⟩ := v
    obtain ⟨u, us⟩ := u
    obtain ⟨ps, tail, hown, htail, rfl⟩ := h
    obtain ⟨hps, htailFits⟩ := List.forall_mem_append.mp hfits
    have hne : ∀ f ∈ tail, f.number ≠ number := by
      intro f hf heq
      exact hnot (heq ▸ number_mem_of_sends htail hf)
    have hown := own.foldlM_take depth u hown fun p hp => hps _ (List.mem_map_of_mem hp)
    rw [List.foldlM_append, foldlM_own, hown]
    refine (foldlM_rest (own.join u v) hne).trans ?_
    rw [ih hrest htail htailFits]
    rfl

theorem decodeOnto_writeFields (hsound : l.Sound)
    (h : ∀ f ∈ fs, r.Pads f.number f.payload f.payload ∧ f.payload.Fits) :
    l.decodeOnto depth u (writeFields fs ++ rest)
      = (fs.foldlM (l.take depth) u).bind (l.decodeOnto depth · rest) := by
  induction fs generalizing u with
  | nil => rfl
  | cons f fs ih =>
    obtain ⟨⟨hpads, hfits⟩, hfs⟩ := List.forall_mem_cons.mp h
    have hnumber : IsNumber f.number := hsound.2 f.number (number_mem_of_pads hpads)
    obtain ⟨hplain, hblock⟩ := (accepts hpads).1
    have hspells := Field.spells_bytes hnumber hplain hfits
    rw [writeFields, List.flatMap_cons, List.append_assoc, decodeOnto_append hspells hblock,
      List.foldlM_cons]
    rcases l.take depth u f with _ | u'
    · rfl
    · exact ih hfs

/-- **Decoding what was sent merges it into the values there are**, and goes on with the rest. -/
theorem Encodes.decodeOnto_append (hsound : l.Sound) (h : r.Encodes v bs)
    (hlength : bs.length < UInt64.size) (rest : Bytes) :
    l.decodeOnto depth u (bs ++ rest) = l.decodeOnto depth (r.join u v) rest := by
  obtain ⟨fs, hsends, rfl⟩ := h
  have hfits : ∀ f ∈ fs, f.payload.Fits := by
    intro f hf
    obtain ⟨before, after, rfl⟩ := List.append_of_mem hf
    rw [writeFields, List.flatMap_append, List.length_append] at hlength
    have hlast : (f.bytes ++ writeFields after).length < UInt64.size :=
      Nat.lt_of_le_of_lt (Nat.le_add_left _ _) hlength
    exact fits_of_length_lt hlast
  rw [decodeOnto_writeFields hsound fun f hf => ⟨pads_self hsound.1 hsends hf, hfits f hf⟩,
    foldlM_take hsound.1 hsends hfits]
  rfl

end Layout.Rules

end GpuPlugin.Wire
