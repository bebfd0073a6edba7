import GpuPlugin.Decimal.Shortest
import GpuPlugin.Text.Numeral

/-!
# Yaml/Value — what a plain scalar stands for

A scalar without quotes may stand for nothing, a truth value, a whole number or a real number; all
else is text.  Digits after a leading zero make a text and not a number.
-/

namespace GpuPlugin.Yaml

/-- A real number of 64 bits, or what stands in for one. -/
inductive Real where
  | finite (negative : Bool) (magnitude : Binary)
  | infinite (negative : Bool)
  | undefined
  deriving DecidableEq, Repr

def Real.text : Real → String
  | .finite negative m => (if negative then "-" else "") ++ m.shortest.positional
  | .infinite negative => if negative then "-inf" else "inf"
  | .undefined => "NaN"

/-- The value of a scalar. -/
inductive Value where
  | null
  | bool (b : Bool)
  /-- A whole number of 64 bits, with or without a sign. -/
  | int (n : Int)
  /-- A whole number that takes 128 bits. -/
  | wide (n : Int)
  | real (r : Real)
  | text (s : String)
  deriving DecidableEq, Repr

namespace Value

def isNull (s : String) : Bool := s == "null" || s == "Null" || s == "NULL" || s == "~"

def bool? (s : String) : Option Bool :=
  if s = "true" ∨ s = "True" ∨ s = "TRUE" then some true
  else if s = "false" ∨ s = "False" ∨ s = "FALSE" then some false
  else none

/-! ## Whole numbers -/

/-- A text without one leading sign. -/
def unsigned : List Char → List Char
  | '+' :: cs | '-' :: cs => cs
  | cs => cs

/-- Whether a text is made of digits but is no number, because it starts with a needless zero. -/
def hasIdleZero (cs : List Char) : Bool :=
  match unsigned cs with
  | '0' :: d :: ds => (d :: ds).all Char.isDigit
  | _ => false

/-- A numeral whose base is told by the two characters before it; ten is told by none. -/
def based? : List Char → Option Nat
  | '0' :: 'x' :: ds => Text.natural? 16 ds
  | '0' :: 'o' :: ds => Text.natural? 8 ds
  | '0' :: 'b' :: ds => Text.natural? 2 ds
  | ds => Text.natural? 10 ds

/-- A whole number, read without regard to its size. -/
def whole? (cs : List Char) : Option Int :=
  if hasIdleZero cs then none
  else
    match cs with
    | '-' :: ds => (based? ds).map fun n => -(n : Int)
    | '+' :: ds => (based? ds).map Int.ofNat
    | ds => (based? ds).map Int.ofNat

/-- A number of 64 bits without a sign. -/
def word64? (s : String) : Option Nat :=
  match s.toList with
  | '-' :: _ => none
  | cs =>
    match whole? cs with
    | some n => if n < Text.wordSize 64 then some n.toNat else none
    | none => none

/-- A whole number of at most 128 bits. -/
def int? (cs : List Char) : Option Value :=
  match whole? cs with
  | none => none
  | some n =>
    if -Text.wordSize 63 ≤ n ∧ n < Text.wordSize 64 then some (.int n)
    else if -Text.wordSize 127 ≤ n ∧ n < Text.wordSize 128 then some (.wide n)
    else none

/-! ## Real numbers -/

/-- The power of ten at the end of a number, if there is one. -/
def power? : List Char → Option Int
  | [] => some 0
  | e :: cs =>
    if e = 'e' ∨ e = 'E' then Text.integer? cs else none

/-- A decimal number without a sign: digits with at most one point among them, and a power of ten.
-/
def decimal? (cs : List Char) : Option Decimal :=
  let whole := cs.takeWhile Char.isDigit
  let rest := cs.dropWhile Char.isDigit
  let (places, rest) := match rest with
    | '.' :: rest => (rest.takeWhile Char.isDigit, rest.dropWhile Char.isDigit)
    | rest => ([], rest)
  match Text.natural? 10 (whole ++ places), power? rest with
  | some digits, some p => some ⟨digits, p - places.length⟩
  | _, _ => none

def isInfinity (cs : List Char) : Bool :=
  [".inf", ".Inf", ".INF"].contains (String.ofList cs)

def isUndefined (cs : List Char) : Bool :=
  [".nan", ".NaN", ".NAN"].contains (String.ofList cs)

/-- A real number; one that is too large to be held is none. -/
def real? (cs : List Char) : Option Real :=
  let negative := cs.head? == some '-'
  let body := unsigned cs
  if isUndefined cs then some .undefined
  else if isInfinity body then some (.infinite negative)
  else ((decimal? body).bind Binary.ofDecimal).map (.finite negative)

/-! ## Scalars -/

/-- **The value of a plain scalar without a tag.** -/
def ofPlain (s : String) : Value :=
  let cs := s.toList
  if s.isEmpty || isNull s then .null
  else
    match bool? s with
    | some b => .bool b
    | none =>
      match int? cs with
      | some v => v
      | none =>
        match if hasIdleZero cs then none else real? cs with
        | some r => .real r
        | none => .text s

end Value

end GpuPlugin.Yaml
