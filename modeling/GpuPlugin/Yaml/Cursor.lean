/-!
# Yaml/Cursor — a place in a YAML text

A cursor is what is left of a text together with the line and column it starts at.  Lines end with a
line feed, a carriage return or both, and with the three further breaks that Unicode has.
-/

namespace GpuPlugin.Yaml

/-- A place in a text: the octets, lines, and characters of its line before it. -/
structure Mark where
  index : Nat := 0
  line : Nat := 0
  column : Nat := 0
  deriving DecidableEq, Repr, Inhabited

/-- The place counted from one, as the end of a sentence; nothing is said of the very beginning. -/
def Mark.location (m : Mark) : String :=
  if m.line = 0 ∧ m.column = 0 then "" else s!" at line {m.line + 1} column {m.column + 1}"

/-- What is wrong with a text that is no YAML document. -/
inductive Problem where
  | controlCharacter
  | tabAsIndentation
  | missingColon
  | misplacedEntry
  | misplacedKey
  | misplacedValue
  | directive
  | anchor
  | tag
  | tagHandle
  | blockHeader
  | documentMarker
  | unclosedQuote
  | escape
  | colonInFlow
  | strayCharacter
  | missingSeparator
  | missingContent
  | unknownAlias
  | severalDocuments
  deriving DecidableEq, Repr

def Problem.message : Problem → String
  | .controlCharacter => "control characters are not allowed"
  | .tabAsIndentation => "a tab stands where spaces of indentation are expected"
  | .missingColon => "a key is not followed by a colon"
  | .misplacedEntry => "a sequence entry is not allowed here"
  | .misplacedKey => "a mapping key is not allowed here"
  | .misplacedValue => "a mapping value is not allowed here"
  | .directive => "a directive is not well formed"
  | .anchor => "an anchor or alias has no proper name"
  | .tag => "a tag is not well formed"
  | .tagHandle => "a tag has an undefined handle"
  | .blockHeader => "the header of a block scalar is not well formed"
  | .documentMarker => "a document marker stands inside a quoted scalar"
  | .unclosedQuote => "a quoted scalar is not closed"
  | .escape => "an escape sequence is not well formed"
  | .colonInFlow => "a colon is not allowed here"
  | .strayCharacter => "no token starts with this character"
  | .missingSeparator => "a collection is not well formed"
  | .missingContent => "a node is missing"
  | .unknownAlias => "unknown anchor"
  | .severalDocuments =>
    "deserializing from YAML containing more than one document is not supported"

/-- A problem and where it was noticed. -/
structure SyntaxError where
  problem : Problem
  mark : Mark
  deriving DecidableEq, Repr

/-- A second document is a problem of the whole text, and of no place in it. -/
def SyntaxError.message (e : SyntaxError) : String :=
  match e.problem with
  | .severalDocuments => e.problem.message
  | p => p.message ++ e.mark.location

def isBreak (c : Char) : Bool :=
  c == '\n' || c == '\r' || c == '\u0085' || c == '\u2028' || c == '\u2029'

def isBlank (c : Char) : Bool := c == ' ' || c == '\t'

/-- Whether a line ends before a character, or at the end of the text. -/
def endsLine (c : Option Char) : Bool := c.all isBreak

/-- Whether a word ends before a character, or at the end of the text. -/
def endsWord (c : Option Char) : Bool := c.all fun x => isBlank x || isBreak x

/-- Letters, digits, dashes and underscores, of which names are made. -/
def isNameChar (c : Char) : Bool := c.isAlphanum || c == '_' || c == '-'

/-- Whether a document may contain a character. -/
def isAllowed (c : Char) : Bool :=
  let n := c.toNat
  n == 9 || n == 10 || n == 13 || (0x20 ≤ n && n ≤ 0x7e) || n == 0x85 ||
    (0xa0 ≤ n && n ≤ 0xd7ff) || (0xe000 ≤ n && n ≤ 0xfffd) || 0x10000 ≤ n

/-- How many octets characters take up. -/
def octetCount : List Char → Nat
  | [] => 0
  | c :: cs => c.utf8Size + octetCount cs

/-- **A place in a text** and all that follows it. -/
structure Cursor where
  chars : List Char
  mark : Mark := {}
  deriving Repr

namespace Cursor

def peek (c : Cursor) : Option Char := c.chars.head?

def peekAt (c : Cursor) (i : Nat) : Option Char := c.chars[i]?

/-- Whether the text goes on with a character. -/
def at? (c : Cursor) (x : Char) : Bool := c.peek == some x

/-- Pass over `n` characters of a line. -/
def skip (c : Cursor) (n : Nat) : Cursor :=
  ⟨c.chars.drop n,
    { c.mark with
      index := c.mark.index + octetCount (c.chars.take n)
      column := c.mark.column + n }⟩

/-- Pass over the characters of a line for which `p` holds. -/
def skipWhile (c : Cursor) (p : Char → Bool) : Cursor := c.skip (c.chars.takeWhile p).length

/-- The characters before the end of the line. -/
def lineRest (c : Cursor) : List Char := c.chars.takeWhile (!isBreak ·)

/-- Pass over a line break. -/
def skipBreak (c : Cursor) : Cursor :=
  match c.chars with
  | '\r' :: '\n' :: rest => ⟨rest, ⟨c.mark.index + 2, c.mark.line + 1, 0⟩⟩
  | x :: rest =>
    if isBreak x then ⟨rest, ⟨c.mark.index + x.utf8Size, c.mark.line + 1, 0⟩⟩ else c
  | [] => c

/-- The text that a line break stands for: the Unicode breaks for lines and paragraphs keep their
form, all others become a line feed. -/
def breakText (c : Cursor) : List Char :=
  match c.peek with
  | some x => if x == '\u2028' || x == '\u2029' then [x] else if isBreak x then ['\n'] else []
  | none => []

/-- Whether a line starts here with three of the given characters that form a word. -/
def atMarker (c : Cursor) (x : Char) : Bool :=
  c.mark.column == 0 && c.chars.take 3 == [x, x, x] && endsWord (c.peekAt 3)

/-- Whether a document starts or ends here. -/
def atDocumentMarker (c : Cursor) : Bool := c.atMarker '-' || c.atMarker '.'

/-- Pass over blanks and a comment up to the end of the line. -/
def skipToLineEnd (c : Cursor) : Cursor :=
  let c := c.skipWhile isBlank
  if c.at? '#' then c.skipWhile (!isBreak ·) else c

def error {α : Type} (c : Cursor) (p : Problem) : Except SyntaxError α := .error ⟨p, c.mark⟩

end Cursor

end GpuPlugin.Yaml
