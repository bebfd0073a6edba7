import GpuPlugin.Text.Quoted
import GpuPlugin.Yaml.Node
import GpuPlugin.Yaml.Value

/-!
# Yaml/Decode — reading typed values off a document

A reader looks at a node and gives a value or says what it found there instead of what it expected.
The innermost scalar, choice or record that notices an error puts its own place to it; a few errors
are only given the place of the record around them.  Nodes are looked at in the order of the text:
of a misfit and a place where the text breaks off, the first one is told.
-/

namespace GpuPlugin.Yaml

open Text (Octets octetsOf textOf?)

/-! ## Errors -/

/-- What was found. -/
inductive Found where
  | value (v : Value)
  | sequence
  | mapping
  deriving DecidableEq, Repr

def Found.describe : Found → String
  | .value .null => "unit value"
  | .value (.bool b) => s!"boolean `{b}`"
  | .value (.int n) => s!"integer `{n}`"
  | .value (.wide n) => s!"integer `{n}` as " ++ if n < 0 then "i128" else "u128"
  | .value (.real r) => s!"floating point `{r.text}`"
  | .value (.text s) => s!"string {Text.quoted s}"
  | .sequence => "sequence"
  | .mapping => "map"

/-- How a node fails to fit. -/
inductive Misfit where
  | wrongType (found : Found) (expected : String)
  | wrongValue (found : Found) (expected : String)
  | unknownChoice (name : String) (choices : List String)
  | repeatedField (name : String)
  deriving DecidableEq, Repr

/-- A list of choices, as part of a sentence. -/
def listChoices (choices : List String) : String :=
  match choices.map fun c => s!"`{c}`" with
  | [a, b] => s!"{a} or {b}"
  | [a] => a
  | all => "one of " ++ ", ".intercalate all

def Misfit.message : Misfit → String
  | .wrongType found expected => s!"invalid type: {found.describe}, expected {expected}"
  | .wrongValue found expected => s!"invalid value: {found.describe}, expected {expected}"
  | .unknownChoice name choices => s!"unknown variant `{name}`, expected {listChoices choices}"
  | .repeatedField name => s!"duplicate field `{name}`"

/-- A step from a mapping to one of its values. -/
inductive Step where
  | key (name : String)
  /-- The key is not a plain text. -/
  | unnamed
  deriving DecidableEq, Repr

def Step.text : Step → String
  | .key name => name
  | .unnamed => "?"

/-- The way from the root to a node, and where the node starts. -/
structure Place where
  path : List Step
  mark : Mark
  deriving DecidableEq, Repr

/-- A misfit, and its place once that is known. -/
structure DataError where
  misfit : Misfit
  place : Option Place := none
  deriving DecidableEq, Repr

namespace DataError

/-- Put a place to an error that has none yet. -/
def within (place : Place) (e : DataError) : DataError :=
  { e with place := some (e.place.getD place) }

/-- The misfit after the path to it. -/
def message (e : DataError) : String :=
  match (e.place.elim [] (·.path)).map Step.text with
  | [] => e.misfit.message
  | steps => ".".intercalate steps ++ ": " ++ e.misfit.message

/-- The place in the text, if it is known. -/
def location (e : DataError) : String := e.place.elim "" (·.mark.location)

end DataError

/-- Why a document has no value of the wanted type. -/
inductive DecodeError where
  /-- The text breaks off before the value ends. -/
  | broken (e : SyntaxError)
  | data (e : DataError)
  deriving DecidableEq, Repr

namespace DecodeError

/-- Put a place to a misfit that has none yet. -/
def within (place : Place) : DecodeError → DecodeError
  | .broken e => .broken e
  | .data e => .data (e.within place)

/-- A misfit whose place is not known. -/
def astray (m : Misfit) : DecodeError := .data { misfit := m }

end DecodeError

/-! ## Sites -/

/-- A node of a document and the way to it. -/
structure Site where
  document : Document
  path : List Step
  node : Node

/-- A reader of values. -/
abbrev Decoder (α : Type) := Site → Except DecodeError α

namespace Site

/-- What an alias stands for has its own place in the text. -/
def ofNode (d : Document) (path : List Step) (node : Node) : Site := ⟨d, path, d.resolve node⟩

def place (s : Site) : Place := ⟨s.path, s.node.mark⟩

/-- The node does not fit, unless there is no node. -/
def fail {α : Type} (s : Site) (m : Misfit) : Except DecodeError α :=
  match s.node with
  | .cut e => .error (.broken e)
  | _ => .error (.data ⟨m, some s.place⟩)

/-- The site of the value under a key. -/
def child (s : Site) (key value : Node) : Site :=
  let step := match key with
    | .scalar _ text _ => .key text
    | _ => .unnamed
  ofNode s.document (s.path ++ [step]) value

end Site

/-! ## Scalars -/

namespace Tag

def boolTag : Octets := octetsOf "tag:yaml.org,2002:bool"
def intTag : Octets := octetsOf "tag:yaml.org,2002:int"
def realTag : Octets := octetsOf "tag:yaml.org,2002:float"
def nullTag : Octets := octetsOf "tag:yaml.org,2002:null"

/-- The sign that tags of the document's own start with. -/
def sign : UInt8 := 0x21

/-- Whether a tag is one of the document's own. -/
def isLocal (tag : Octets) : Bool := tag.head? == some sign

/-- The name in a tag of the document's own, after its sign; a sign that stands alone is a name. The
octets of the name must make up a text. -/
def localName (tag : Option Octets) : Option String :=
  match tag with
  | none => none
  | some tag =>
    if isLocal tag then textOf? (if tag.tail = [] then tag else tag.tail) else none

end Tag

/-- What a scalar is taken for where something else is expected. -/
def scalarMisfit (tag : Option Octets) (text : String) (style : Style) (expected : String) :
    Misfit :=
  let wrong (v : Value) : Misfit := .wrongType (.value v) expected
  let invalid (wanted : String) : Misfit := .wrongValue (.value (.text text)) wanted
  let plain : Misfit := wrong (if style = .plain then .ofPlain text else .text text)
  match tag with
  | none => plain
  | some t =>
    if t = Tag.boolTag then (Value.bool? text).elim (invalid "a boolean") (wrong ∘ .bool)
    else if t = Tag.intTag then (Value.int? text.toList).elim (invalid "an integer") wrong
    else if t = Tag.realTag then
      (Value.real? text.toList).elim (invalid "a float") (wrong ∘ .real)
    else if t = Tag.nullTag then
      if Value.isNull text then wrong .null else invalid "null"
    else if Tag.isLocal t then plain
    else wrong (.text text)

/-- The misfit of a node that is not what is expected. -/
def Node.misfit (n : Node) (expected : String) : Misfit :=
  match n with
  | .scalar p text style => scalarMisfit p.tag text style expected
  | .mapping _ _ => .wrongType .mapping expected
  | _ => .wrongType .sequence expected

namespace Decoder

/-- Whether a scalar may stand for a value of the given tag: it is plain, or a literal block that
says so. -/
def mayStandFor (wanted : Octets) (tag : Option Octets) (style : Style) : Bool :=
  match style with
  | .plain => true
  | .literal => tag == some wanted
  | _ => false

/-- A text, which any scalar is. -/
def text : Decoder String := fun s =>
  match s.node with
  | .scalar _ text _ => .ok text
  | n => s.fail (n.misfit "a string")

def bool : Decoder Bool := fun s =>
  let misfit := s.fail (s.node.misfit "a boolean")
  match s.node with
  | .scalar p text style =>
    if mayStandFor Tag.boolTag p.tag style then (Value.bool? text).elim misfit .ok else misfit
  | _ => misfit

/-- A number of 32 bits without a sign. -/
def word32 : Decoder Nat := fun s =>
  let misfit := s.fail (s.node.misfit "u32")
  match s.node with
  | .scalar p text style =>
    if mayStandFor Tag.intTag p.tag style then
      match Value.word64? text with
      | some n =>
        if n < Text.wordSize 32 then .ok n else s.fail (.wrongValue (.value (.int n)) "u32")
      | none => misfit
    else misfit
  | _ => misfit

/-! ## Choices and optional values -/

/-- Nothing, as it must follow a choice that is told by a tag. -/
def unit : Decoder Unit := fun s =>
  match s.node with
  | .scalar _ text style =>
    if style = .plain ∧ (text.isEmpty ∨ Value.isNull text) then .ok ()
    else s.fail (.wrongValue (.value (.text text)) "null")
  | n => s.fail (n.misfit "unit")

/-- One of several names.  A name may also be told by a tag on nothing. -/
def choice {α : Type} (choices : List (String × α)) : Decoder α := fun s =>
  let told (tag : Option Octets) (untold : Except DecodeError α) : Except DecodeError α :=
    match Tag.localName tag with
    | none => untold
    | some name =>
      match choices.lookup name with
      | some v => (unit s).map fun _ => v
      | none => .error (.astray (.unknownChoice name (choices.map (·.1))))
  let untold (found : Found) : Except DecodeError α :=
    s.fail (.wrongType found "a YAML tag starting with '!'")
  match s.node with
  | .scalar p text _ =>
    told p.tag <|
      match choices.lookup text with
      | some v => .ok v
      | none => s.fail (.unknownChoice text (choices.map (·.1)))
  | .mapping p _ => told p.tag (untold .mapping)
  | .sequence p _ => told p.tag (untold .sequence)
  | .alias _ _ | .cut _ => untold .sequence

/-- A value, or none where a plain scalar stands for nothing. -/
def optional {α : Type} (d : Decoder α) : Decoder (Option α) := fun s =>
  match s.node with
  | .scalar p text .plain =>
    match p.tag with
    | some tag =>
      if tag = Tag.nullTag then
        if Value.isNull text then .ok none
        else .error (.astray (.wrongValue (.value (.text text)) "null"))
      else (d s).map some
    | none => if text.isEmpty || Value.isNull text then .ok none else (d s).map some
  | _ => (d s).map some

end Decoder

/-! ## Records -/

/-- A field of a record: its name, other names it goes by, and how its value is taken in. -/
structure RecordField (ρ : Type) where
  name : String
  aliases : List String := []
  read : Site → ρ → Except DecodeError ρ

/-- The field that takes a value in with a reader. -/
def RecordField.of {ρ α : Type} (name : String) (d : Decoder α) (set : ρ → α → ρ)
    (aliases : List String := []) : RecordField ρ :=
  ⟨name, aliases, fun s r => (d s).map (set r)⟩

namespace Decoder

variable {ρ : Type}

/-- The name of a field, which any scalar is. -/
def fieldName : Decoder String := fun s =>
  match s.node with
  | .scalar _ text _ => .ok text
  | n => s.fail (n.misfit "field identifier")

/-- Take in the entries of a mapping in order.  Names that are no field's are passed over with their
values, as long as these are whole, and no field may come twice. -/
def entries (fields : List (RecordField ρ)) (s : Site) :
    List (Node × Node) → List String → ρ → Except DecodeError ρ
  | [], _, r => .ok r
  | (key, value) :: rest, seen, r => do
    let name ← fieldName (Site.ofNode s.document s.path key)
    match fields.find? fun f => f.name == name || f.aliases.contains name with
    | none =>
      if let some e := value.fault? then throw (.broken e)
      entries fields s rest seen r
    | some f =>
      if seen.contains f.name then throw (.astray (.repeatedField f.name))
      let r ← f.read (s.child key value) r
      entries fields s rest (f.name :: seen) r

/-- **A record**: a mapping of its fields, each of which may be missing, or nothing at all. -/
def record (title : String) (fields : List (RecordField ρ)) (blank : ρ) : Decoder ρ := fun s =>
  match s.node with
  | .mapping _ es => (entries fields s es [] blank).mapError (.within s.place)
  | .scalar p text style =>
    if text.isEmpty ∧ style = .plain then .ok blank
    else s.fail (scalarMisfit p.tag text style s!"struct {title}")
  | n => s.fail (n.misfit s!"struct {title}")

/-- The record that a whole document holds; a document without a root holds a blank one.  What is
wrong with the text after the root is told last. -/
def document (d : Decoder ρ) (blank : ρ) (doc : Document) : Except DecodeError ρ := do
  let value ← match doc.root with
    | none => pure blank
    | some root => d (Site.ofNode doc [] root)
  if let some e := doc.fault then throw (.broken e)
  return value

end Decoder

end GpuPlugin.Yaml
