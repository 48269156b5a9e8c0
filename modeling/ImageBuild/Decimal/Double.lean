/-!
# Finite doubles

A finite number of the IEEE 754 format binary64 as sign, significand and binary
exponent, with rounding to nearest from a quotient of natural numbers.  All
arithmetic is exact arithmetic on natural numbers, so that equality and order
of doubles are those of the numbers they stand for.
-/

namespace ImageBuild.Decimal

/-- The number `significand * 2 ^ exponent` with a sign of its own, so that
there are two zeros.  Values built by this module keep the significand below
`2 ^ 53` and the exponent at least `-1074`, with one of the two at its least
or the significand at least `2 ^ 52`. -/
structure Double where
  negative : Bool
  significand : Nat
  exponent : Int
deriving DecidableEq, Repr

namespace Double

/-- The zero of a sign. -/
def zero (negative : Bool) : Double :=
  { negative, significand := 0, exponent := -1074 }

def isZero (d : Double) : Bool :=
  d.significand == 0

/-- The quotient of two numbers rounded to the nearest natural number, a half
to the even neighbour. -/
def roundQuotient (num den : Nat) : Nat :=
  let q := num / den
  let twice := 2 * (num % den)
  if twice < den then q
  else if den < twice then q + 1
  else if q % 2 = 0 then q else q + 1

/-- `num / den` scaled by `2 ^ (-exponent)`, as a quotient. -/
def scaleDown (num den : Nat) (exponent : Int) : Nat × Nat :=
  if 0 ≤ exponent then (num, den <<< exponent.toNat)
  else (num <<< (-exponent).toNat, den)

/-- The binary exponent at which `num / den` has a significand of 53 bits, or
the least exponent if that would lie below it. -/
def exponentFor (num den : Nat) : Int :=
  let guess : Int := (Nat.log2 num : Int) - (Nat.log2 den : Int) - 52
  let (n, d) := scaleDown num den guess
  let exact := if n < d <<< 52 then guess - 1 else guess
  if exact < -1074 then -1074 else exact

/-- The double nearest to `num / den`, a tie going to the even significand;
`none` when it lies beyond the largest finite double. -/
def ofQuotient? (negative : Bool) (num den : Nat) : Option Double :=
  if num = 0 then some (zero negative)
  else
    let exponent := exponentFor num den
    let (n, d) := scaleDown num den exponent
    let rounded := roundQuotient n d
    let (significand, exponent) :=
      if rounded = 1 <<< 53 then (1 <<< 52, exponent + 1) else (rounded, exponent)
    if 971 < exponent then none
    else some { negative, significand, exponent }

/-- The double nearest to `digits * 10 ^ exponent`. -/
def ofDecimal? (negative : Bool) (digits : Nat) (exponent : Int) : Option Double :=
  if digits = 0 then some (zero negative)
  else if 400 < exponent then none
  else
    -- So many digits behind the point leave nothing of the number.
    if (Nat.log2 digits : Int) + 1 < -(3 * exponent) - 1200 then some (zero negative)
    else if 0 ≤ exponent then ofQuotient? negative (digits * Nat.pow 10 exponent.toNat) 1
    else ofQuotient? negative digits (Nat.pow 10 (-exponent).toNat)

/-- The double nearest to an integer; integers of up to 64 bits are in range. -/
def ofInt? (n : Int) : Option Double :=
  ofQuotient? (decide (n < 0)) n.natAbs 1

/-- The magnitude of a double as a quotient of natural numbers. -/
def quotient (d : Double) : Nat × Nat :=
  if 0 ≤ d.exponent then (d.significand <<< d.exponent.toNat, 1)
  else (d.significand, 1 <<< (-d.exponent).toNat)

/-- The number as a signed numerator over a positive denominator. -/
def signedQuotient (d : Double) : Int × Nat :=
  let (n, k) := d.quotient
  (if d.negative then -(n : Int) else n, k)

/-- A double with no part behind the point. -/
def isInteger (d : Double) : Bool :=
  let (n, k) := d.quotient
  n % k == 0

end Double

end ImageBuild.Decimal
