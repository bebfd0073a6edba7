import GpuPlugin.Text.Numeral
import GpuPlugin.Yaml.Cursor

/-!
# Yaml/Scalar — the spellings of a scalar

A scalar is written plainly, between quotes, or as an indented block.  Between the words of a plain
or quoted scalar a line break is folded into a space, and the empty lines after it stay as breaks; a
block keeps its breaks, or folds those between lines that are not set in further.
-/

namespace GpuPlugin.Yaml

/-- How a scalar is written. -/
inductive Style where
  | plain
  | quoted
  | literal
  | folded
  deriving DecidableEq, Repr, Inhabited

namespace Scalar

/-- What stands between two words: blanks, or a first break and further ones. -/
structure Gap where
  blanks : List Char := []
  first : Option (List Char) := none
  more : List Char := []

/-- The text that a gap becomes. -/
def Gap.text (g : Gap) : List Char :=
  match g.first with
  | none => g.blanks
  | some first =>
    if first = ['\n'] then (if g.more = [] then [' '] else g.more) else first ++ g.more

/-- Take blanks and breaks into a gap.  On a line of its own a tab may not stand left of the column
`limit`, if one is given. -/
def readGap (limit : Option Int) : Nat → Gap → Cursor → Except SyntaxError (Gap × Cursor)
  | 0, g, c => .ok (g, c)
  | rounds + 1, g, c =>
    match c.peek with
    | none => .ok (g, c)
    | some x =>
      if isBlank x then
        if g.first.isSome && x == '\t' && limit.any (fun n => (c.mark.column : Int) < n) then
          c.error .tabAsIndentation
        else
          readGap limit rounds
            (if g.first.isSome then g else { g with blanks := g.blanks ++ [x] }) (c.skip 1)
      else if isBreak x then
        readGap limit rounds
          (if g.first.isSome then { g with more := g.more ++ c.breakText }
            else { blanks := [], first := some c.breakText, more := g.more })
          c.skipBreak
      else .ok (g, c)

/-! ## Plain scalars -/

/-- The characters that separate and enclose the entries of a flow collection. -/
def isFlowIndicator (x : Char) : Bool :=
  x == ',' || x == '[' || x == ']' || x == '{' || x == '}'

/-- The word at the front of a plain scalar; there is none if a colon stands where it may not. -/
def plainWord (inFlow : Bool) : List Char → Option (List Char)
  | [] => some []
  | x :: xs =>
    if endsWord (some x) then some []
    else if inFlow && x == ':' && xs.head?.any (fun y => isFlowIndicator y || y == '?') then none
    else if x == ':' && endsWord xs.head? then some []
    else if inFlow && isFlowIndicator x then some []
    else (plainWord inFlow xs).map (x :: ·)

/-- A scalar that has been read: its text, whether it ended on a fresh line, and what follows. -/
structure Read where
  text : List Char
  freshLine : Bool := false
  cursor : Cursor

def readPlainFrom (inFlow : Bool) (indent : Int) :
    Nat → List Char → Gap → Cursor → Except SyntaxError Read
  | 0, text, g, c => .ok ⟨text, g.first.isSome, c⟩
  | rounds + 1, text, g, c =>
    if c.atDocumentMarker || c.at? '#' then .ok ⟨text, g.first.isSome, c⟩
    else
      match plainWord inFlow c.chars with
      | none => c.error .colonInFlow
      | some word => do
        let text := if word = [] then text else text ++ g.text ++ word
        let g := if word = [] then g else {}
        let c := c.skip word.length
        if !(endsWord c.peek) || c.peek.isNone then
          return ⟨text, g.first.isSome, c⟩
        let (g, c) ← readGap (some indent) (c.chars.length + 1) g c
        if !inFlow && c.mark.column < indent then return ⟨text, g.first.isSome, c⟩
        else readPlainFrom inFlow indent rounds text g c

/-- Read a plain scalar whose lines are set in by at least `indent`. -/
def readPlain (inFlow : Bool) (indent : Int) (c : Cursor) : Except SyntaxError Read :=
  readPlainFrom inFlow indent (c.chars.length + 1) [] {} c

/-! ## Quoted scalars -/

/-- The number that `n` hexadecimal digits stand for, with the characters after them. -/
def hexNumber : Nat → Nat → List Char → Option (Nat × List Char)
  | 0, acc, cs => some (acc, cs)
  | _ + 1, _, [] => none
  | n + 1, acc, x :: xs =>
    match Text.digitOf 16 x with
    | some d => hexNumber n (16 * acc + d) xs
    | none => none

/-- The characters that have an escape of one letter. -/
def letterEscape : Char → Option Char
  | '0' => some '\x00'
  | 'a' => some '\x07'
  | 'b' => some '\x08'
  | 't' => some '\t'
  | '\t' => some '\t'
  | 'n' => some '\n'
  | 'v' => some '\x0b'
  | 'f' => some '\x0c'
  | 'r' => some '\r'
  | 'e' => some '\x1b'
  | ' ' => some ' '
  | '"' => some '"'
  | '/' => some '/'
  | '\\' => some '\\'
  | 'N' => some '\u0085'
  | '_' => some '\u00a0'
  | 'L' => some '\u2028'
  | 'P' => some '\u2029'
  | _ => none

/-- The escapes with a code point have so many digits. -/
def escapeDigits : Char → Option Nat
  | 'x' => some 2
  | 'u' => some 4
  | 'U' => some 8
  | _ => none

/-- The character of an escape sequence after its backslash, and how long the sequence is. -/
def readEscape (e : Char) (rest : List Char) : Option (Char × Nat) :=
  match letterEscape e with
  | some x => some (x, 1)
  | none =>
    match escapeDigits e with
    | none => none
    | some n =>
      match hexNumber n 0 rest with
      | some (code, _) => if code.isValidChar then some (Char.ofNat code, n + 1) else none
      | none => none

/-- A word of a quoted scalar: its text, how many characters it takes up, and whether it ends with
an escaped line break. -/
structure QuotedWord where
  text : List Char := []
  length : Nat := 0
  escapedBreak : Bool := false

def QuotedWord.cons (x : Char) (n : Nat) (w : QuotedWord) : QuotedWord :=
  { w with text := x :: w.text, length := n + w.length }

/-- The word at the front of a scalar between single quotes, in which a quote is doubled. -/
def singleWord : List Char → QuotedWord
  | '\'' :: '\'' :: rest => (singleWord rest).cons '\'' 2
  | x :: rest => if endsWord (some x) || x == '\'' then {} else (singleWord rest).cons x 1
  | [] => {}

/-- The word at the front of a scalar between double quotes, in which a backslash escapes. -/
def doubleWord : Nat → List Char → Option QuotedWord
  | 0, _ => some {}
  | _, [] => some {}
  | rounds + 1, x :: rest =>
    if endsWord (some x) || x == '"' then some {}
    else if x == '\\' then
      match rest with
      | [] => none
      | e :: tail =>
        if isBreak e then some { escapedBreak := true }
        else
          match readEscape e tail with
          | some (y, n) => (doubleWord rounds (rest.drop n)).map (·.cons y (n + 1))
          | none => none
    else (doubleWord rounds rest).map (·.cons x 1)

def readQuotedFrom (single : Bool) : Nat → List Char → Cursor → Except SyntaxError Read
  | 0, _, c => c.error .unclosedQuote
  | rounds + 1, text, c =>
    if c.atDocumentMarker then c.error .documentMarker
    else if c.chars.isEmpty then c.error .unclosedQuote
    else
      let word := if single then some (singleWord c.chars) else doubleWord c.chars.length c.chars
      match word with
      | none => c.error .escape
      | some word => do
        let text := text ++ word.text
        let c := c.skip word.length
        let (g, c) : Gap × Cursor :=
          if word.escapedBreak then ({ first := some [] }, (c.skip 1).skipBreak) else ({}, c)
        if c.at? (if single then '\'' else '"') then return ⟨text, false, c.skip 1⟩
        let (g, c) ← readGap none (c.chars.length + 1) g c
        readQuotedFrom single rounds (text ++ g.text) c

/-- Read a quoted scalar from its opening quote on. -/
def readQuoted (single : Bool) (c : Cursor) : Except SyntaxError Read :=
  readQuotedFrom single (c.chars.length + 1) [] (c.skip 1)

/-! ## Block scalars -/

/-- What becomes of the line breaks at the end of a block. -/
inductive Chomp where
  | strip
  | clip
  | keep
  deriving DecidableEq, Repr

def chompOf : Char → Option Chomp
  | '+' => some .keep
  | '-' => some .strip
  | _ => none

/-- The header of a block: how it ends and how far it is set in, if that is told. -/
def readHeader (c : Cursor) : Except SyntaxError (Chomp × Nat × Cursor) :=
  let chomp (c : Cursor) : Option Chomp := c.peek.bind chompOf
  let digit (c : Cursor) : Option Nat :=
    c.peek.bind fun x => if x.isDigit then some (x.toNat - '0'.toNat) else none
  let finish (ch : Chomp) (n : Nat) (c : Cursor) : Except SyntaxError (Chomp × Nat × Cursor) :=
    let c := c.skipToLineEnd
    if endsLine c.peek then .ok (ch, n, c.skipBreak) else c.error .blockHeader
  match chomp c with
  | some ch =>
    let c := c.skip 1
    match digit c with
    | some 0 => c.error .blockHeader
    | some n => finish ch n (c.skip 1)
    | none => finish ch 0 c
  | none =>
    match digit c with
    | some 0 => c.error .blockHeader
    | some n =>
      let c := c.skip 1
      match chomp c with
      | some ch => finish ch n (c.skip 1)
      | none => finish .clip n c
    | none => finish .clip 0 c

/-- Pass over empty lines and the indentation after them, with the breaks passed over and the widest
indentation seen.  An `indent` of zero is not known yet. -/
def readBreaks (indent : Nat) : Nat → Nat → List Char → Cursor →
    Except SyntaxError (Nat × List Char × Cursor)
  | 0, widest, breaks, c => .ok (widest, breaks, c)
  | rounds + 1, widest, breaks, c =>
    let spaces := (c.chars.takeWhile (· == ' ')).length
    let c := c.skip (if indent = 0 then spaces else min spaces (indent - c.mark.column))
    let widest := max widest c.mark.column
    if (indent = 0 || c.mark.column < indent) && c.at? '\t' then c.error .tabAsIndentation
    else if c.peek.any isBreak then
      readBreaks indent rounds widest (breaks ++ c.breakText) c.skipBreak
    else .ok (widest, breaks, c)

/-- The text of a block read so far, with the breaks after it that are not settled yet. -/
structure BlockText where
  text : List Char := []
  /-- The break that ended the last line. -/
  last : List Char := []
  /-- The breaks of the empty lines after it. -/
  empties : List Char := []
  /-- Whether the last line was set in further than the block. -/
  inset : Bool := false

/-- Take a line into a block; a folded block joins it to the line before unless one of the two is
set in further. -/
def BlockText.addLine (folded : Bool) (b : BlockText) (line last empties : List Char) : BlockText :=
  let inset := line.head?.any isBlank
  let joint :=
    if folded && b.last == ['\n'] && !b.inset && !inset then
      (if b.empties = [] then [' '] else [])
    else b.last
  ⟨b.text ++ joint ++ b.empties ++ line, last, empties, inset⟩

def readLines (folded : Bool) (indent : Nat) :
    Nat → BlockText → Cursor → Except SyntaxError (BlockText × Cursor)
  | 0, b, c => .ok (b, c)
  | rounds + 1, b, c =>
    if c.mark.column = indent && !c.chars.isEmpty then do
      let line := c.lineRest
      let c := c.skip line.length
      let last := c.breakText
      let c := c.skipBreak
      let (_, empties, c) ← readBreaks indent (c.chars.length + 1) 0 [] c
      readLines folded indent rounds (b.addLine folded line last empties) c
    else .ok (b, c)

/-- Read a block scalar from its indicator on.  It is set in further than `parent`. -/
def readBlock (folded : Bool) (parent : Int) (c : Cursor) : Except SyntaxError Read := do
  let (chomp, told, c) ← readHeader (c.skip 1)
  let known := if told = 0 then 0 else (max parent 0).toNat + told
  let (widest, empties, c) ← readBreaks known (c.chars.length + 1) 0 [] c
  let indent := if known = 0 then max (max widest (parent + 1).toNat) 1 else known
  let (b, c) ← readLines folded indent (c.chars.length + 1) { empties } c
  let tail := match chomp with
    | .strip => []
    | .clip => b.last
    | .keep => b.last ++ b.empties
  return ⟨b.text ++ tail, true, c⟩

end Scalar

end GpuPlugin.Yaml
