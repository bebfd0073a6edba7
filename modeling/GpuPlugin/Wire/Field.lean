import GpuPlugin.Wire.Varint

/-!
# Wire/Field — the numbered fields of a message

A message is a run of fields, each a key and a payload.  The key holds the field's number, which is
not zero, and the shape of its payload: a number, four or eight bytes, a block with its length
before it, or a group of fields between a start key and an end key of the same number.
-/

namespace GpuPlugin.Wire

/-- The shape of a payload, as a key tells it. -/
inductive Shape where
  | varint
  | fixed64
  | block
  | groupStart
  | groupEnd
  | fixed32
  deriving DecidableEq, Repr

namespace Shape

def code : Shape → Nat
  | .varint => 0
  | .fixed64 => 1
  | .block => 2
  | .groupStart => 3
  | .groupEnd => 4
  | .fixed32 => 5

def ofCode? : Nat → Option Shape
  | 0 => some .varint
  | 1 => some .fixed64
  | 2 => some .block
  | 3 => some .groupStart
  | 4 => some .groupEnd
  | 5 => some .fixed32
  | _ => none

@[simp] theorem ofCode?_code (s : Shape) : ofCode? s.code = some s := by cases s <;> rfl

end Shape

/-- What a field holds.  The content of a group is not kept: no message has one. -/
inductive Payload where
  | varint (n : Nat)
  | fixed64 (content : Bytes)
  | block (content : Bytes)
  | group
  | fixed32 (content : Bytes)
  deriving DecidableEq, Repr

structure Field where
  number : Nat
  payload : Payload
  deriving DecidableEq, Repr

/-- The first number that is too large for a key. -/
def keyBound : Nat := UInt32.size

/-- A number that fields can have: it is not zero and leaves room in a key for a shape. -/
def IsNumber (n : Nat) : Prop := n ≠ 0 ∧ 8 * n + 8 ≤ keyBound

instance (n : Nat) : Decidable (IsNumber n) := inferInstanceAs (Decidable (_ ∧ _))

/-! ## Writing -/

def Payload.shape : Payload → Shape
  | .varint _ => .varint
  | .fixed64 _ => .fixed64
  | .block _ => .block
  | .group => .groupStart
  | .fixed32 _ => .fixed32

/-- The bytes after the key.  Groups are never written. -/
def Payload.bytes : Payload → Bytes
  | .varint n => Varint.write n
  | .fixed64 content | .fixed32 content => content
  | .block content => Varint.write content.length ++ content
  | .group => []

/-- The bytes of a key. -/
def writeKey (number : Nat) (shape : Shape) : Bytes :=
  Varint.write (8 * number + shape.code)

/-- **The bytes of a field.** -/
def Field.bytes (f : Field) : Bytes := writeKey f.number f.payload.shape ++ f.payload.bytes

/-- The bytes of a message with the given fields. -/
def writeFields (fields : List Field) : Bytes := fields.flatMap Field.bytes

/-! ## Reading -/

/-- Read a key: a field number that is not zero and a shape. -/
def readKey (bs : Bytes) : Option ((Nat × Shape) × Bytes) :=
  match Varint.read bs with
  | some (key, rest) =>
    match Shape.ofCode? (key % 8) with
    | some shape =>
      if key < keyBound ∧ key / 8 ≠ 0 then some ((key / 8, shape), rest) else none
    | none => none
  | none => none

theorem length_readKey {k : Nat × Shape} {bs rest : Bytes} (h : readKey bs = some (k, rest)) :
    rest.length < bs.length := by
  simp only [readKey] at h
  split at h
  next hr =>
    split at h
    · split at h
      · simp only [Option.some.injEq, Prod.mk.injEq] at h
        exact h.2 ▸ Varint.length_read hr
      · cases h
    · cases h
  · cases h

/-- The first `n` bytes and the rest, if there are that many. -/
def takeBytes (n : Nat) (bs : Bytes) : Option (Bytes × Bytes) :=
  if n ≤ bs.length then some (bs.take n, bs.drop n) else none

theorem length_takeBytes {n : Nat} {bs content rest : Bytes}
    (h : takeBytes n bs = some (content, rest)) : rest.length ≤ bs.length := by
  simp only [takeBytes] at h
  split at h
  · simp only [Option.some.injEq, Prod.mk.injEq] at h
    simp [← h.2]
  · cases h

/-- Read a block: its length and that many bytes. -/
def readBlock (bs : Bytes) : Option (Bytes × Bytes) :=
  match Varint.read bs with
  | some (n, rest) => takeBytes n rest
  | none => none

theorem length_readBlock {bs content rest : Bytes} (h : readBlock bs = some (content, rest)) :
    rest.length ≤ bs.length := by
  simp only [readBlock] at h
  split at h
  next hr => exact Nat.le_trans (length_takeBytes h) (Nat.le_of_lt (Varint.length_read hr))
  · cases h

/-- Read a payload that is no group. -/
def readPlain (shape : Shape) (bs : Bytes) : Option (Payload × Bytes) :=
  match shape with
  | .varint => (Varint.read bs).map fun (n, rest) => (.varint n, rest)
  | .fixed64 => (takeBytes 8 bs).map fun (content, rest) => (.fixed64 content, rest)
  | .block => (readBlock bs).map fun (content, rest) => (.block content, rest)
  | .fixed32 => (takeBytes 4 bs).map fun (content, rest) => (.fixed32 content, rest)
  | .groupStart | .groupEnd => none

theorem length_readPlain {shape : Shape} {p : Payload} {bs rest : Bytes}
    (h : readPlain shape bs = some (p, rest)) : rest.length ≤ bs.length := by
  cases shape <;> simp only [readPlain, Option.map_eq_some_iff, Prod.mk.injEq, reduceCtorEq] at h
  · obtain ⟨⟨n, r⟩, hr, -, rfl⟩ := h
    exact Nat.le_of_lt (Varint.length_read hr)
  · obtain ⟨⟨n, r⟩, hr, -, rfl⟩ := h
    exact length_takeBytes hr
  · obtain ⟨⟨n, r⟩, hr, -, rfl⟩ := h
    exact length_readBlock hr
  · obtain ⟨⟨n, r⟩, hr, -, rfl⟩ := h
    exact length_takeBytes hr

/-- Read on until the listed groups, innermost first, are closed.  Fewer than `depth` groups may be
open when a field is read in them. -/
def closeGroups (depth : Nat) : List Nat → Bytes → Option Bytes
  | [], bs => some bs
  | number :: outer, bs =>
    match hk : readKey bs with
    | none => none
    | some ((n, .groupEnd), rest) =>
      have := length_readKey hk
      if n = number then closeGroups depth outer rest else none
    | some ((n, .groupStart), rest) =>
      have := length_readKey hk
      if (number :: outer).length < depth then closeGroups depth (n :: number :: outer) rest
      else none
    | some ((_, shape), rest) =>
      match hp : readPlain shape rest with
      | none => none
      | some (_, rest') =>
        have := length_readKey hk
        have := length_readPlain hp
        if (number :: outer).length < depth then closeGroups depth (number :: outer) rest' else none
termination_by _ bs => bs.length

theorem length_closeGroups {depth : Nat} {groups : List Nat} {bs rest : Bytes}
    (h : closeGroups depth groups bs = some rest) : rest.length ≤ bs.length := by
  fun_induction closeGroups depth groups bs <;> grind

/-- Read one field.  The payload of a field for which `isBlock` holds is a block whatever its key
says. -/
def readField (isBlock : Nat → Bool) (depth : Nat) (bs : Bytes) : Option (Field × Bytes) :=
  match readKey bs with
  | none => none
  | some ((number, shape), rest) =>
    if isBlock number then
      (readBlock rest).map fun (content, rest') => (⟨number, .block content⟩, rest')
    else if shape = .groupStart then
      if depth = 0 then none
      else (closeGroups depth [number] rest).map fun rest' => (⟨number, .group⟩, rest')
    else (readPlain shape rest).map fun (payload, rest') => (⟨number, payload⟩, rest')

theorem length_readField {isBlock : Nat → Bool} {depth : Nat} {f : Field} {bs rest : Bytes}
    (h : readField isBlock depth bs = some (f, rest)) : rest.length < bs.length := by
  simp only [readField] at h
  split at h
  · cases h
  next hk =>
    have hlt := length_readKey hk
    split at h
    · obtain ⟨⟨c, r⟩, hr, he⟩ := Option.map_eq_some_iff.mp h
      cases he
      exact Nat.lt_of_le_of_lt (length_readBlock hr) hlt
    · split at h
      · split at h
        · cases h
        · obtain ⟨r, hr, he⟩ := Option.map_eq_some_iff.mp h
          cases he
          exact Nat.lt_of_le_of_lt (length_closeGroups hr) hlt
      · obtain ⟨⟨c, r⟩, hr, he⟩ := Option.map_eq_some_iff.mp h
        cases he
        exact Nat.lt_of_le_of_lt (length_readPlain hr) hlt

/-- **The fields of a message**, or nothing if it is not well formed. -/
def readFields (isBlock : Nat → Bool) (depth : Nat) (bs : Bytes) : Option (List Field) :=
  if bs = [] then some []
  else
    match h : readField isBlock depth bs with
    | none => none
    | some (f, rest) =>
      have := length_readField h
      (readFields isBlock depth rest).map (f :: ·)
termination_by bs.length

end GpuPlugin.Wire
