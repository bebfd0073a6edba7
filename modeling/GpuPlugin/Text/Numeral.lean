/-!
# Text/Numeral — reading numbers

A numeral is a non-empty run of ASCII digits of a base; a sign may stand before it.  A value that
does not fit below a bound is refused, as it would be by a register of that size.
-/

namespace GpuPlugin.Text

/-- The value of a digit, in bases up to 16. -/
def digitValue (c : Char) : Option Nat :=
  if '0' ≤ c ∧ c ≤ '9' then some (c.toNat - '0'.toNat)
  else if 'a' ≤ c ∧ c ≤ 'f' then some (c.toNat - 'a'.toNat + 10)
  else if 'A' ≤ c ∧ c ≤ 'F' then some (c.toNat - 'A'.toNat + 10)
  else none

/-- The value of a digit of the given base. -/
def digitOf (base : Nat) (c : Char) : Option Nat :=
  (digitValue c).bind fun d => if d < base then some d else none

/-- The number that starts with `acc` and goes on with the given digits. -/
def digits? (base : Nat) : List Char → Nat → Option Nat
  | [], acc => some acc
  | c :: cs, acc =>
    match digitOf base c with
    | some d => digits? base cs (base * acc + d)
    | none => none

/-- A numeral without a sign. -/
def natural? (base : Nat) : List Char → Option Nat
  | [] => none
  | cs => digits? base cs 0

/-- A numeral below a bound, after an optional plus sign. -/
def bounded? (base bound : Nat) (cs : List Char) : Option Nat :=
  let body := match cs with
    | '+' :: rest => rest
    | _ => cs
  (natural? base body).bind fun n => if n < bound then some n else none

/-- How many values a word of so many bits has. -/
def wordSize (bits : Nat) : Nat := 1 <<< bits

/-- **A decimal numeral of at most 64 bits**, after an optional plus sign. -/
def word64? (cs : List Char) : Option Nat := bounded? 10 (wordSize 64) cs

/-- A decimal numeral after an optional sign of either kind. -/
def integer? : List Char → Option Int
  | '-' :: ds => (natural? 10 ds).map fun n => -(n : Int)
  | '+' :: ds => (natural? 10 ds).map Int.ofNat
  | ds => (natural? 10 ds).map Int.ofNat

end GpuPlugin.Text
