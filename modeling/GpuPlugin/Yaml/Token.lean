import GpuPlugin.Yaml.Scalar
import GpuPlugin.Yaml.Tag

/-!
# Yaml/Token — the tokens of a text

Outside brackets the structure of a text is told by its indentation, which becomes tokens of its
own. A key is only known to be one when its colon is met: the place where its token belongs is kept
until then, for as long as the colon may still come.  Tokens after such a place are not settled yet.
When a text cannot be read to its end, its settled tokens are what is known of it.
-/

namespace GpuPlugin.Yaml

inductive Token.Kind where
  | directive (d : Directive)
  | documentStart
  | documentEnd
  | blockSequenceStart
  | blockMappingStart
  | blockEnd
  | flowSequenceStart
  | flowSequenceEnd
  | flowMappingStart
  | flowMappingEnd
  | blockEntry
  | flowEntry
  | key
  | value
  | alias (name : String)
  | anchor (name : String)
  | tag (t : WrittenTag)
  | scalar (text : String) (style : Style)
  | streamEnd
  deriving DecidableEq, Repr

/-- A token and the places where it starts and stops. -/
structure Token where
  kind : Token.Kind
  start : Mark
  stop : Mark
  deriving DecidableEq, Repr

/-- A place where a key may have begun. -/
structure PossibleKey where
  /-- Whether nothing else can stand there. -/
  required : Bool
  /-- How many tokens stand before it. -/
  before : Nat
  mark : Mark
  deriving DecidableEq, Repr

/-- A key and its colon stand on one line, at most so many octets apart. -/
def PossibleKey.reach : Nat := 1024

/-- Whether the colon can no longer come. -/
def PossibleKey.isStale (k : PossibleKey) (now : Mark) : Bool :=
  k.mark.line < now.line || k.mark.index + reach < now.index

/-- The tokens read so far and what the next one depends on. -/
structure Layout where
  cursor : Cursor
  tokens : List Token := []
  /-- The column of the innermost block, and of those around it; there is none at first. -/
  indent : Int := -1
  indents : List Int := []
  /-- Whether a key may begin here. -/
  keyAllowed : Bool := true
  /-- The possible key of the innermost bracket, and of those around it. -/
  key : Option PossibleKey := none
  outerKeys : List (Option PossibleKey) := []
  /-- How many tokens are settled: nothing can be put between them any more. -/
  settled : Nat := 0

/-- **The tokens of a text**, and why there are no more when it cannot be read to its end. -/
structure Tokens where
  list : List Token
  fault : Option SyntaxError := none
  deriving DecidableEq, Repr

namespace Layout

/-- Whether this place is inside brackets. -/
def inFlow (s : Layout) : Bool := !s.outerKeys.isEmpty

def mark (s : Layout) : Mark := s.cursor.mark

/-- The layout with a token that ends where `c` starts. -/
def push (s : Layout) (kind : Token.Kind) (c : Cursor) : Layout :=
  { s with cursor := c, tokens := s.tokens ++ [⟨kind, s.mark, c.mark⟩] }

/-- Put a token without extent before the tokens after the first `n`. -/
def insertAt (s : Layout) (n : Nat) (kind : Token.Kind) (m : Mark) : Layout :=
  { s with tokens := s.tokens.take n ++ ⟨kind, m, m⟩ :: s.tokens.drop n }

/-! ## Possible keys -/

/-- Give up the possible key of the innermost bracket. -/
def dropKey (s : Layout) : Except SyntaxError Layout :=
  if s.key.any (·.required) then s.cursor.error .missingColon else .ok { s with key := none }

/-- Remember that a key may begin here. -/
def saveKey (s : Layout) : Except SyntaxError Layout := do
  if !s.keyAllowed then return s
  let s ← s.dropKey
  let required := !s.inFlow && s.indent == s.mark.column
  return { s with key := some ⟨required, s.tokens.length, s.mark⟩ }

/-- Forget the possible keys whose colon can no longer come. -/
def dropStaleKeys (s : Layout) : Except SyntaxError Layout :=
  let stale (k : Option PossibleKey) : Bool := k.any (·.isStale s.mark)
  if (s.key :: s.outerKeys).any (fun k => stale k && k.any (·.required)) then
    s.cursor.error .missingColon
  else
    let fresh (k : Option PossibleKey) : Option PossibleKey := if stale k then none else k
    .ok { s with key := fresh s.key, outerKeys := s.outerKeys.map fresh }

/-! ## Indentation -/

/-- Open a block at a column that is further right than the innermost one. -/
def openBlock (s : Layout) (column before : Nat) (kind : Token.Kind) (m : Mark) : Layout :=
  if !s.inFlow && s.indent < column then
    { s.insertAt before kind m with indent := column, indents := s.indent :: s.indents }
  else s

/-- Open a block here. -/
def openBlockHere (s : Layout) (kind : Token.Kind) : Layout :=
  s.openBlock s.mark.column s.tokens.length kind s.mark

def closeFrom (m : Mark) (column : Int) : Int → List Int → List Token → Int × List Int × List Token
  | indent, [], tokens => (indent, [], tokens)
  | indent, outer :: rest, tokens =>
    if column < indent then closeFrom m column outer rest (tokens ++ [⟨.blockEnd, m, m⟩])
    else (indent, outer :: rest, tokens)

/-- Close the blocks that are further right than a column. -/
def closeBlocks (s : Layout) (column : Int) : Layout :=
  if s.inFlow then s
  else
    let (indent, indents, tokens) := closeFrom s.mark column s.indent s.indents s.tokens
    { s with indent, indents, tokens }

/-! ## What stands between tokens -/

/-- Pass over blanks, comments and line breaks.  A line may start with a byte order mark.  Outside
brackets a key may begin on a fresh line, and a tab may not stand where a key may begin. -/
def skipBetween : Nat → Layout → Layout
  | 0, s => s
  | rounds + 1, s =>
    let c := if s.mark.column = 0 && s.cursor.at? '\ufeff' then s.cursor.skip 1 else s.cursor
    let tabs := s.inFlow || !s.keyAllowed
    let c := c.skipWhile fun x => x == ' ' || (tabs && x == '\t')
    let c := if c.at? '#' then c.skipWhile (!isBreak ·) else c
    if c.peek.any isBreak then
      skipBetween rounds { s with cursor := c.skipBreak, keyAllowed := s.keyAllowed || !s.inFlow }
    else { s with cursor := c }

/-! ## Tokens -/

/-- What the characters ahead start. -/
inductive Start where
  | directive
  | marker (kind : Token.Kind)
  | opening (kind : Token.Kind)
  | closing (kind : Token.Kind)
  | flowEntry
  | blockEntry
  | key
  | value
  | alias
  | anchor
  | tag
  | block (folded : Bool)
  | quoted (single : Bool)
  | plain

/-- The characters that no plain scalar starts with. -/
def isIndicator (x : Char) : Bool := "-?:,[]\x7b\x7d#&*!|>'\"%@\x60".toList.contains x

/-- What a character starts, with the one after it. -/
def startOf (inFlow : Bool) (x : Char) (next : Option Char) : Option Start :=
  match x with
  | '[' => some (.opening .flowSequenceStart)
  | '{' => some (.opening .flowMappingStart)
  | ']' => some (.closing .flowSequenceEnd)
  | '}' => some (.closing .flowMappingEnd)
  | ',' => some .flowEntry
  | '-' => some (if endsWord next then .blockEntry else .plain)
  | '?' => some (if inFlow || endsWord next then .key else .plain)
  | ':' => some (if inFlow || endsWord next then .value else .plain)
  | '*' => some .alias
  | '&' => some .anchor
  | '!' => some .tag
  | '|' => if inFlow then none else some (.block false)
  | '>' => if inFlow then none else some (.block true)
  | '\'' => some (.quoted true)
  | '"' => some (.quoted false)
  | x => if isIndicator x || endsWord (some x) then none else some .plain

/-- What starts here, before the end of the text. -/
def start (s : Layout) (x : Char) : Option Start :=
  if s.mark.column = 0 && x == '%' then some .directive
  else if s.cursor.atMarker '-' then some (.marker .documentStart)
  else if s.cursor.atMarker '.' then some (.marker .documentEnd)
  else startOf s.inFlow x (s.cursor.peekAt 1)

/-- A document's margin: all blocks are closed, and no key may begin. -/
def toMargin (s : Layout) : Except SyntaxError Layout := do
  let s ← (s.closeBlocks (-1)).dropKey
  return { s with keyAllowed := false }

/-- A token that ends possible keys; outside brackets it stands only where a key may begin, and
opens a block. -/
def entry (s : Layout) (kind opened : Token.Kind) (p : Problem) : Except SyntaxError Layout := do
  if !s.inFlow && !s.keyAllowed then s.cursor.error p
  let s ← (s.openBlockHere opened).dropKey
  return s.push kind (s.cursor.skip 1)

/-- The colon after a key. -/
def readValue (s : Layout) : Except SyntaxError Layout :=
  match s.key with
  | some k =>
    let s := s.insertAt k.before .key k.mark
    let s := s.openBlock k.mark.column k.before .blockMappingStart k.mark
    .ok ({ s with key := none, keyAllowed := false }.push .value (s.cursor.skip 1))
  | none => do
    if !s.inFlow && !s.keyAllowed then s.cursor.error .misplacedValue
    let s := s.openBlockHere .blockMappingStart
    return { s with keyAllowed := !s.inFlow }.push .value (s.cursor.skip 1)

/-- A scalar that has been read; a key may begin after it if it ended on a fresh line. -/
def pushScalar (s : Layout) (style : Style) (r : Scalar.Read) : Layout :=
  { s.push (.scalar (String.ofList r.text) style) r.cursor with keyAllowed := r.freshLine }

/-- Read what starts here. -/
def readStart (s : Layout) : Start → Except SyntaxError Layout
  | .directive => do
    let s ← s.toMargin
    let (d, c) ← Directive.read s.cursor
    return s.push (.directive d) c
  | .marker kind => do
    let s ← s.toMargin
    return s.push kind (s.cursor.skip 3)
  | .opening kind => do
    let s ← s.saveKey
    let s := { s with outerKeys := s.key :: s.outerKeys, key := none, keyAllowed := true }
    return s.push kind (s.cursor.skip 1)
  | .closing kind => do
    let s ← s.dropKey
    let s := { s with key := s.outerKeys.head?.join, outerKeys := s.outerKeys.tail }
    return { s with keyAllowed := false }.push kind (s.cursor.skip 1)
  | .flowEntry => do
    let s ← s.dropKey
    return { s with keyAllowed := true }.push .flowEntry (s.cursor.skip 1)
  | .blockEntry => do
    let s ← s.entry .blockEntry .blockSequenceStart .misplacedEntry
    return { s with keyAllowed := true }
  | .key => do
    let s ← s.entry .key .blockMappingStart .misplacedKey
    return { s with keyAllowed := !s.inFlow }
  | .value => s.readValue
  | .alias => do
    let s ← s.saveKey
    let (name, c) ← readName s.cursor
    return { s with keyAllowed := false }.push (.alias name) c
  | .anchor => do
    let s ← s.saveKey
    let (name, c) ← readName s.cursor
    return { s with keyAllowed := false }.push (.anchor name) c
  | .tag => do
    let s ← s.saveKey
    let (t, c) ← Tag.read s.inFlow s.cursor
    return { s with keyAllowed := false }.push (.tag t) c
  | .block folded => do
    let s ← s.dropKey
    let r ← Scalar.readBlock folded s.indent s.cursor
    return s.pushScalar (if folded then .folded else .literal) r
  | .quoted single => do
    let s ← s.saveKey
    let r ← Scalar.readQuoted single s.cursor
    return s.pushScalar .quoted r
  | .plain => do
    let s ← s.saveKey
    let r ← Scalar.readPlain s.inFlow (s.indent + 1) s.cursor
    return s.pushScalar .plain r

/-- The end of the text, which is a line of its own. -/
def finish (s : Layout) : Except SyntaxError Layout := do
  let m := s.mark
  let m := if m.column = 0 then m else { m with line := m.line + 1, column := 0 }
  let s ← { s with cursor := { s.cursor with mark := m } }.toMargin
  return s.push .streamEnd s.cursor

/-- Read the next token. -/
def next (s : Layout) : Except SyntaxError Layout := do
  let s ← (skipBetween (s.cursor.chars.length + 1) s).dropStaleKeys
  let s := s.closeBlocks s.mark.column
  match s.cursor.peek with
  | none => s.finish
  | some x =>
    match s.start x with
    | some st => s.readStart st
    | none => s.cursor.error .strayCharacter

/-! ## The whole text -/

/-- How many tokens stand before every place where a key may have begun. -/
def certain (s : Layout) : Nat :=
  (s.key :: s.outerKeys).foldl (fun n k => k.elim n fun k => min n k.before) s.tokens.length

/-- Settle the tokens that nothing can be put before any more. -/
def settle (s : Layout) : Except SyntaxError Layout := do
  let s ← s.dropStaleKeys
  return { s with settled := s.certain }

/-- Whether the text has been read to its end. -/
def hasEnded (s : Layout) : Bool := s.tokens.getLast?.any (·.kind matches .streamEnd)

/-- The settled tokens of a text that cannot be read any further. -/
def broken (s : Layout) (fault : SyntaxError) : Tokens := ⟨s.tokens.take s.settled, some fault⟩

/-- Read tokens up to the end of the text. -/
def run : Nat → Layout → Tokens
  | 0, s => ⟨s.tokens, none⟩
  | rounds + 1, s =>
    match s.settle with
    | .error e => s.broken e
    | .ok s =>
      if s.hasEnded then ⟨s.tokens, none⟩
      else
        match s.next with
        | .error e => s.broken e
        | .ok s => run rounds s

end Layout

/-- **Read the tokens of a text.**  Every token takes up a character but the last, which is the end
of the text. -/
def Tokens.read (text : List Char) : Tokens :=
  if text.all isAllowed then Layout.run (text.length + 2) { cursor := { chars := text } }
  else ⟨[], some ⟨.controlCharacter, {}⟩⟩

end GpuPlugin.Yaml
