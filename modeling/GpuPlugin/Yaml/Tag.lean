import GpuPlugin.Text.Numeral
import GpuPlugin.Text.Utf8
import GpuPlugin.Yaml.Cursor

/-!
# Yaml/Tag — tags, names and directives

A tag is a handle and a suffix; a document may say at its start what its handles stand for.  Octets
of a tag may be spelled in hexadecimal digits, and need not make up a text.  Anchors and aliases are
plain names.
-/

namespace GpuPlugin.Yaml

open Text (Octets octetsOf)

/-- A tag as it is written.  The empty handle stands for nothing: the suffix is the whole tag. -/
structure WrittenTag where
  handle : String
  suffix : Octets
  deriving DecidableEq, Repr

/-- What a document says about itself before it starts. -/
inductive Directive where
  | version (major minor : Nat)
  | tagPrefix (handle : String) (octets : Octets)
  deriving DecidableEq, Repr

namespace Tag

/-! ## Parts of a tag -/

/-- The characters of a tag's suffix; a tag that is enclosed in angle brackets or declared may have
three more. -/
def isSuffixChar (enclosed : Bool) (c : Char) : Bool :=
  isNameChar c || ";/?:@&=+$.!~*'()%".toList.contains c || (enclosed && ",[]".toList.contains c)

/-- The octet that two hexadecimal digits after a percent sign stand for. -/
def octet? : List Char → Option (UInt8 × List Char)
  | '%' :: a :: b :: rest =>
    match Text.digitOf 16 a, Text.digitOf 16 b with
    | some x, some y => some (UInt8.ofNat (16 * x + y), rest)
    | _, _ => none
  | _ => none

/-- How many octets the character with this leading octet takes up. -/
def width? (lead : UInt8) : Option Nat :=
  if lead < 0x80 then some 1
  else if 0xc0 ≤ lead ∧ lead < 0xe0 then some 2
  else if 0xe0 ≤ lead ∧ lead < 0xf0 then some 3
  else if 0xf0 ≤ lead ∧ lead < 0xf8 then some 4
  else none

/-- Whether an octet may come after the leading one. -/
def isTrailing (octet : UInt8) : Bool := 0x80 ≤ octet && octet < 0xc0

/-- So many trailing octets in a row. -/
def trailing? : Nat → List Char → Option (Octets × List Char)
  | 0, cs => some ([], cs)
  | n + 1, cs => do
    let (o, rest) ← octet? cs
    if !isTrailing o then none
    let (os, rest) ← trailing? n rest
    return (o :: os, rest)

/-- The octets spelled at the front of a text, a leading one and as many trailing ones as it asks
for, and how many characters spell them.  They need not encode a character. -/
def escaped? (cs : List Char) : Option (Octets × Nat) := do
  let (lead, rest) ← octet? cs
  let width ← width? lead
  let (octets, _) ← trailing? (width - 1) rest
  return (lead :: octets, 3 * width)

/-- The suffix at the front of a text, and how many characters it takes up. -/
def suffix? (enclosed : Bool) : Nat → List Char → Option (Octets × Nat)
  | 0, _ => some ([], 0)
  | _, [] => some ([], 0)
  | rounds + 1, c :: cs =>
    if isSuffixChar enclosed c then
      match if c == '%' then escaped? (c :: cs) else some (octetsOf c.toString, 1) with
      | some (octets, n) =>
        (suffix? enclosed rounds ((c :: cs).drop n)).map fun (more, m) => (octets ++ more, n + m)
      | none => none
    else some ([], 0)

/-- Read a suffix, which must not be empty unless a tag has begun already.  A zero octet ends it,
whatever follows. -/
def readSuffix (enclosed begun : Bool) (c : Cursor) : Except SyntaxError (Octets × Cursor) :=
  match suffix? enclosed c.chars.length c.chars with
  | some (octets, n) =>
    if n = 0 && !begun then c.error .tag else .ok (octets.takeWhile (· != 0), c.skip n)
  | none => c.error .tag

/-- The word between an exclamation mark and the next: the handle, if there is such a mark, and
otherwise the beginning of a suffix. -/
def readHandle (c : Cursor) : List Char × Bool × Cursor :=
  let word := (c.skip 1).chars.takeWhile isNameChar
  let c := c.skip (1 + word.length)
  if c.at? '!' then ('!' :: word ++ ['!'], true, c.skip 1) else ('!' :: word, false, c)

/-- Read a tag from its exclamation mark on. -/
def read (inFlow : Bool) (c : Cursor) : Except SyntaxError (WrittenTag × Cursor) := do
  let (tag, c) ←
    if c.peekAt 1 == some '<' then do
      let (suffix, c) ← readSuffix true false (c.skip 2)
      if c.at? '>' then pure (⟨"", suffix⟩, c.skip 1) else c.error .tag
    else
      let (word, isHandle, c) := readHandle c
      if isHandle then do
        let (suffix, c) ← readSuffix false false c
        pure (⟨String.ofList word, suffix⟩, c)
      else do
        let (more, c) ← readSuffix false true c
        let suffix := octetsOf (String.ofList (word.drop 1)) ++ more
        pure (if suffix = [] then (⟨"", octetsOf "!"⟩, c) else (⟨"!", suffix⟩, c))
  if endsWord c.peek || (inFlow && c.at? ',') then return (tag, c) else c.error .tag

end Tag

/-! ## Names -/

/-- Read the name of an anchor or alias after its sign. -/
def readName (c : Cursor) : Except SyntaxError (String × Cursor) :=
  let name := (c.skip 1).chars.takeWhile isNameChar
  let c := c.skip (1 + name.length)
  if name ≠ [] && (endsWord c.peek || c.peek.any (fun x => "?:,]\x7d%@\x60".toList.contains x)) then
    .ok (String.ofList name, c)
  else c.error .anchor

/-! ## Directives -/

namespace Directive

/-- Read a number of at most nine digits. -/
def readNumber (c : Cursor) : Except SyntaxError (Nat × Cursor) :=
  let digits := c.chars.takeWhile Char.isDigit
  match Text.natural? 10 digits with
  | some n => if digits.length ≤ 9 then .ok (n, c.skip digits.length) else c.error .directive
  | none => c.error .directive

def readVersion (c : Cursor) : Except SyntaxError (Directive × Cursor) := do
  let (major, c) ← readNumber (c.skipWhile isBlank)
  if !c.at? '.' then c.error .directive
  let (minor, c) ← readNumber (c.skip 1)
  return (.version major minor, c)

def readTagPrefix (c : Cursor) : Except SyntaxError (Directive × Cursor) := do
  let c := c.skipWhile isBlank
  if !c.at? '!' then c.error .directive
  let (handle, isHandle, c) := Tag.readHandle c
  if !isHandle && handle ≠ ['!'] then c.error .directive
  if !c.peek.any isBlank then c.error .directive
  let (octets, c) ← Tag.readSuffix true false (c.skipWhile isBlank)
  if !endsWord c.peek then c.error .directive
  return (.tagPrefix (String.ofList handle) octets, c)

/-- Read a directive from its percent sign to the end of its line. -/
def read (c : Cursor) : Except SyntaxError (Directive × Cursor) := do
  let name := (c.skip 1).chars.takeWhile isNameChar
  let c := c.skip (1 + name.length)
  if name = [] || !endsWord c.peek then c.error .directive
  let (directive, c) ←
    if name = ['Y', 'A', 'M', 'L'] then readVersion c
    else if name = ['T', 'A', 'G'] then readTagPrefix c
    else c.error .directive
  let c := c.skipToLineEnd
  if !endsLine c.peek then c.error .directive
  return (directive, c.skipBreak)

end Directive

end GpuPlugin.Yaml
