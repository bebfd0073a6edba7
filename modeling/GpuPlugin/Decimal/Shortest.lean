import GpuPlugin.Decimal.Binary

/-!
# Decimal/Shortest — the fewest digits that name a binary number

A decimal number names a binary one if that is the nearest to it.  Grids of one, two, three digits
and so on are tried in turn; on each only the two neighbours of the number can name it.
-/

namespace GpuPlugin

namespace Binary

/-- The number as a fraction. -/
def fraction (b : Binary) : Nat × Nat := shift 2 b.exponent b.significand 1

/-- The power of ten of the leading digit of a positive fraction. -/
def leadingPower (num den : Nat) : Int :=
  if den ≤ num then (digitCount (num / den) : Int) - 1 else -(digitCount ((den - 1) / num) : Int)

/-- Whether the decimal number names the binary one.  All is measured in quarters of the last bit;
below a power of two the numbers lie twice as dense. -/
def isNamedBy (b : Binary) (d : Decimal) : Bool :=
  let (dn, dd) := shift 10 d.exponent d.digits 1
  let (n, m) := shift 2 (2 - b.exponent) dn dd
  let here := 4 * b.significand
  let below := if b.significand = 1 <<< (width - 1) ∧ leastExponent < b.exponent then 1 else 2
  let low := (here - below) * m
  let high := (here + 2) * m
  if b.significand % 2 = 0 then low ≤ n && n ≤ high else low < n && n < high

/-- The nearest name with the given number of digits; of two equally near ones the upper. -/
def nameWith (b : Binary) (count : Nat) : Option Decimal :=
  let (num, den) := b.fraction
  let e := leadingPower num den - count + 1
  let (n, m) := shift 10 (-e) num den
  let lower : Decimal := ⟨n / m, e⟩
  let upper : Decimal :=
    if n / m + 1 = Nat.pow 10 count then ⟨Nat.pow 10 (count - 1), e + 1⟩ else ⟨n / m + 1, e⟩
  match b.isNamedBy lower, b.isNamedBy upper with
  | true, true => some (if 2 * (n % m) < m then lower else upper)
  | true, false => some lower
  | false, true => some upper
  | false, false => none

/-- Seventeen digits always suffice. -/
def mostDigits : Nat := 17

/-- **The shortest name of a binary number.** -/
def shortest (b : Binary) : Decimal :=
  if b.significand = 0 then ⟨0, 0⟩
  else ((List.range mostDigits).findSome? fun i => b.nameWith (i + 1)).getD ⟨0, 0⟩

end Binary

/-- A decimal number written out in full, with at least one place after the point. -/
def Decimal.positional (d : Decimal) : String :=
  let digits := toString d.digits
  match d.exponent with
  | .ofNat n => digits.pushn '0' n ++ ".0"
  | .negSucc n =>
    let padded := ("".pushn '0' (n + 2 - digits.length) ++ digits).toList
    let whole := padded.length - (n + 1)
    String.ofList (padded.take whole ++ '.' :: padded.drop whole)

end GpuPlugin
