/-!
# Decimal/Binary — the binary number nearest to a decimal one

Numbers are kept as a whole number times a power of ten or of two.  A binary number has 53 bits and
an exponent within bounds; of two equally near ones the one with the even significand is taken.
-/

namespace GpuPlugin

/-- The number `digits · 10 ^ exponent`. -/
structure Decimal where
  digits : Nat
  exponent : Int
  deriving DecidableEq, Repr

/-- The number `significand · 2 ^ exponent`. -/
structure Binary where
  significand : Nat
  exponent : Int
  deriving DecidableEq, Repr

/-- How many decimal digits a number has; zero has none. -/
def digitCount (n : Nat) : Nat := if n = 0 then 0 else (Nat.toDigits 10 n).length

namespace Binary

/-- Bits of a significand. -/
def width : Nat := 53

/-- The least exponent. -/
def leastExponent : Int := -1074

/-- Exponents from this on are too large. -/
def exponentBound : Int := 972

/-- Decimal exponents beyond this are far outside what a binary number can hold. -/
def decimalReach : Int := 400

/-- The quotient rounded to the nearest whole number, a half going to the even neighbour. -/
def roundQuotient (num den : Nat) : Nat :=
  let q := num / den
  let twice := 2 * (num % den)
  if twice < den then q else if den < twice then q + 1 else q + q % 2

/-- The fraction `num / den` times `base ^ e`. -/
def shift (base : Nat) (e : Int) (num den : Nat) : Nat × Nat :=
  match e with
  | .ofNat n => (num * Nat.pow base n, den)
  | .negSucc n => (num, den * Nat.pow base (n + 1))

/-- The binary number nearest to a positive fraction; there is none if it is too large. -/
def nearest (num den : Nat) : Option Binary :=
  let near (e : Int) : Nat × Nat := shift 2 (-e) num den
  let estimate : Int := (num.log2 : Int) - den.log2 - width
  let fits (e : Int) : Bool := let (n, d) := near e; n / d < 1 <<< width
  let e := max leastExponent (if fits estimate then estimate else estimate + 1)
  let (n, d) := near e
  let m := roundQuotient n d
  let b : Binary := if m = 1 <<< width then ⟨1 <<< (width - 1), e + 1⟩ else ⟨m, e⟩
  if b.exponent < exponentBound then some b else none

/-- **The binary number nearest to a decimal one**, unless that is too large. -/
def ofDecimal (d : Decimal) : Option Binary :=
  let magnitude : Int := digitCount d.digits + d.exponent
  if d.digits = 0 || magnitude < -decimalReach then some ⟨0, leastExponent⟩
  else if decimalReach < magnitude then none
  else
    let (num, den) := shift 10 d.exponent d.digits 1
    nearest num den

end Binary

end GpuPlugin
