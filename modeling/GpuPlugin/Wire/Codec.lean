import GpuPlugin.Wire.Field

/-!
# Wire/Codec — how a kind of message is written and read

A kind of message has a layout: its numbered fields, each of a kind that says what payloads a value
is sent as and how one more payload is taken into the value there is already.  A message is encoded
field by field; it is decoded by taking in the fields that were sent, one after another, starting
from the blank message, so that a later field replaces or extends an earlier one.  Fields with other
numbers are passed over.
-/

namespace GpuPlugin.Wire

/-- How deep groups and messages may be nested. -/
def nestingLimit : Nat := 100

/-! ## Layouts -/

/-- **A kind of field**, by the values it holds. -/
structure Kind (V : Type) where
  /-- The value of a field that is not sent. -/
  blank : V
  /-- Whether a payload is a block whatever its key says. -/
  isBlock : Bool := false
  /-- What a value is sent as, one payload for each time the field is sent. -/
  payloads : V → List Payload
  /-- Take one more payload into a value; the number bounds the nesting of what is inside. -/
  take : Nat → V → Payload → Option V

/-- **The fields of a kind of message**, in the order in which they are written, by the values of
them all. -/
inductive Layout : Type → Type 1 where
  | nil : Layout Unit
  | field {V F : Type} (number : Nat) (kind : Kind V) (rest : Layout F) : Layout (V × F)

namespace Layout

variable {F : Type}

def numbers {F : Type} : Layout F → List Nat
  | nil => []
  | field number _ rest => number :: rest.numbers

/-- The fields have numbers of their own. -/
def Sound (l : Layout F) : Prop := l.numbers.Nodup ∧ ∀ n ∈ l.numbers, IsNumber n

instance (l : Layout F) : Decidable l.Sound := inferInstanceAs (Decidable (_ ∧ _))

/-- The values of fields that are not sent. -/
def blank {F : Type} : Layout F → F
  | nil => ()
  | field _ kind rest => (kind.blank, rest.blank)

/-- Whether the payload of a field is a block whatever its key says. -/
def isBlock {F : Type} : Layout F → Nat → Bool
  | nil, _ => false
  | field number kind rest, n => if n = number then kind.isBlock else rest.isBlock n

/-- The fields that are sent for some values. -/
def fields {F : Type} : Layout F → F → List Field
  | nil, _ => []
  | field number kind rest, (v, vs) => (kind.payloads v).map (⟨number, ·⟩) ++ rest.fields vs

/-- Take a field that was sent into the values there are. -/
def take {F : Type} (depth : Nat) : Layout F → F → Field → Option F
  | nil, vs, _ => some vs
  | field number kind rest, (v, vs), f =>
    if f.number = number then (kind.take depth v f.payload).map (·, vs)
    else (rest.take depth vs f).map (v, ·)

/-- Take all fields of an encoded message into the values there are. -/
def decodeOnto (l : Layout F) (depth : Nat) (vs : F) (bs : Bytes) : Option F :=
  (readFields l.isBlock depth bs).bind (·.foldlM (l.take depth) vs)

end Layout

/-! ## Messages -/

/-- **A kind of message**: a layout, and the message that some values make up. -/
class Codec (M : Type) where
  Fields : Type
  layout : Layout Fields
  split : M → Fields
  build : Fields → M
  sound : layout.Sound := by decide
  build_split : ∀ m, build (split m) = m := by intro m; rfl
  split_build : ∀ vs, split (build vs) = vs := by intro vs; rfl

/-- The layout of a kind of message. -/
abbrev Layout.of (M : Type) [Codec M] : Layout (Codec.Fields M) := Codec.layout

section Codec

variable {M : Type} [Codec M]

/-- The message before any field is taken in. -/
def blank : M := Codec.build (Layout.of M).blank

/-- **Encode a message.** -/
def encode (m : M) : Bytes := writeFields ((Layout.of M).fields (Codec.split m))

/-- Take the fields of an encoded message into a message. -/
def decodeOnto (depth : Nat) (m : M) (bs : Bytes) : Option M :=
  ((Layout.of M).decodeOnto depth (Codec.split m) bs).map Codec.build

/-- **Decode a message.** -/
def decode (bs : Bytes) : Option M := decodeOnto nestingLimit blank bs

end Codec

/-! ## Payloads -/

/-- The bytes of a text. -/
def textBytes (s : String) : Bytes := s.toByteArray.data.toList

namespace Payload

/-- A payload that is a text. -/
def text? : Payload → Option String
  | .block content => String.fromUTF8? ⟨content.toArray⟩
  | _ => none

/-- A payload that is a number. -/
def number? : Payload → Option Nat
  | .varint n => some n
  | _ => none

/-- A payload that is a truth value: any number but zero is true. -/
def bool? (p : Payload) : Option Bool := p.number?.map (· != 0)

/-- A payload that is a whole number of 32 bits; higher bits are dropped. -/
def int32? (p : Payload) : Option Int32 := p.number?.map Int32.ofNat

/-- A payload that is a whole number of 64 bits. -/
def int64? (p : Payload) : Option Int64 := p.number?.map Int64.ofNat

/-- A whole number, as its residue in 64 bits. -/
def ofInt (n : Int) : Payload := .varint (n % UInt64.size).toNat

/-- A payload that is a message, taken into the message there is already. -/
def mergeInto {M : Type} [Codec M] (depth : Nat) (m : M) : Payload → Option M
  | .block content => decodeOnto (depth - 1) m content
  | _ => none

end Payload

/-- **A kind of value** that one payload holds. -/
structure Element (V : Type) where
  payload : V → Payload
  /-- Read a value; the number bounds the nesting of what is inside. -/
  read : Nat → Payload → Option V

namespace Element

def text : Element String := ⟨fun s => .block (textBytes s), fun _ p => p.text?⟩
def truth : Element Bool := ⟨fun b => .varint b.toNat, fun _ p => p.bool?⟩
def int32 : Element Int32 := ⟨fun n => .ofInt n.toInt, fun _ p => p.int32?⟩
def int64 : Element Int64 := ⟨fun n => .ofInt n.toInt, fun _ p => p.int64?⟩

/-- A message of its own. -/
def message (M : Type) [Codec M] : Element M :=
  ⟨fun m => .block (encode m), fun depth p => p.mergeInto depth blank⟩

end Element

/-! ## Kinds of fields -/

namespace Kind

variable {V : Type}

/-- A value that is not sent when it is blank; the last one sent counts. -/
def single [DecidableEq V] (e : Element V) (blank : V) : Kind V where
  blank
  payloads v := if v = blank then [] else [e.payload v]
  take depth _ p := e.read depth p

/-- Any number of values, each sent on its own. -/
def repeated (e : Element V) : Kind (List V) where
  blank := []
  payloads l := l.map e.payload
  take depth l p := (e.read depth p).map (l ++ [·])

/-- A message that may be missing; a message without fields is not missing, and one that is sent
again adds to what was sent before. -/
def optional (M : Type) [Codec M] : Kind (Option M) where
  blank := none
  payloads o := o.toList.map (Element.message M).payload
  take depth o p := (p.mergeInto depth (o.getD Wire.blank)).map some

def text : Kind String := single .text ""
def truth : Kind Bool := single .truth false
def int32 : Kind Int32 := single .int32 0
def int64 : Kind Int64 := single .int64 0
def texts : Kind (List String) := repeated .text
def messages (M : Type) [Codec M] : Kind (List M) := repeated (.message M)

end Kind

end GpuPlugin.Wire
