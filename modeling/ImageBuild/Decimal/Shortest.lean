import ImageBuild.Decimal.Double

/-!
# Shortest decimal digits

The fewest decimal digits that read back as a given double, and of those the
ones nearest to it.  For one, two, three … digits the two neighbours of the
number on the grid of decimals with that many digits are tested against the
interval of numbers that round to the double; the ends of the interval belong
to it when the significand is even.
-/

namespace ImageBuild.Decimal

/-- The decimal `digits * 10 ^ exponent`. -/
structure Digits where
  digits : Nat
  exponent : Int
deriving DecidableEq, Repr

/-- The written digits of a natural number, most significant first. -/
def natDigits (n : Nat) : List Char :=
  Nat.toDigits 10 n

/-- Move trailing zeros of the digits into the exponent. -/
def Digits.stripZeros : Nat → Digits → Digits
  | 0, d => d
  | fuel + 1, d =>
      if d.digits ≠ 0 ∧ d.digits % 10 = 0 then
        stripZeros fuel { digits := d.digits / 10, exponent := d.exponent + 1 }
      else d

namespace Double

/-- The decimal exponent of the leading digit of a positive quotient. -/
def leadingExponent (num den : Nat) : Int :=
  let guess : Int := (((Nat.log2 num : Int) - (Nat.log2 den : Int)) * 30103).fdiv 100000
  let reaches (e : Int) : Bool :=
    if 0 ≤ e then den * Nat.pow 10 e.toNat ≤ num else den ≤ num * Nat.pow 10 (-e).toNat
  if reaches (guess + 1) then guess + 1
  else if reaches guess then guess
  else guess - 1

/-- The decimal with `count` digits nearest to the double among those that read
back as it. -/
def withDigits? (d : Double) (leading : Int) (count : Nat) : Option Digits :=
  let grid : Int := leading - (count : Int) + 1
  let quarter : Int := d.exponent - 2
  -- Grid points and quarters of the last binary place, on one common scale.
  let onGrid (c : Nat) : Nat := (c * Nat.pow 10 grid.toNat) <<< (-quarter).toNat
  let onQuarters (x : Nat) : Nat := x <<< quarter.toNat * Nat.pow 10 (-grid).toNat
  let value := onQuarters (4 * d.significand)
  let atPower := d.significand == 1 <<< 52 && decide (-1074 < d.exponent)
  let low := onQuarters (4 * d.significand - (if atPower then 1 else 2))
  let high := onQuarters (4 * d.significand + 2)
  let inside (c : Nat) : Bool :=
    let x := onGrid c
    if d.significand % 2 = 0 then low ≤ x && x ≤ high else low < x && x < high
  let below := value / onGrid 1
  let above := below + 1
  match inside below, inside above with
  | true, true =>
      let down := value - onGrid below
      let up := onGrid above - value
      if down < up || (down == up && below % 2 == 0) then some ⟨below, grid⟩
      else some ⟨above, grid⟩
  | true, false => some ⟨below, grid⟩
  | false, true => some ⟨above, grid⟩
  | false, false => none

/-- The shortest digits of a double; seventeen always suffice. -/
def shortest (d : Double) : Digits :=
  if d.isZero then ⟨0, 0⟩
  else
    let (num, den) := d.quotient
    let leading := leadingExponent num den
    let found := (List.range 17).findSome? fun k => d.withDigits? leading (k + 1)
    ((found.getD ⟨0, 0⟩)).stripZeros 20

/-- Write a double without an exponent: all its digits in their places, and no
point when there is nothing behind it. -/
def positional (d : Double) : List Char :=
  let { digits, exponent } := d.shortest
  let written := natDigits digits
  let sign := if d.negative then ['-'] else []
  if 0 ≤ exponent then sign ++ written ++ List.replicate exponent.toNat '0'
  else
    let point : Int := (written.length : Int) + exponent
    if 0 < point then
      sign ++ written.take point.toNat ++ ['.'] ++ written.drop point.toNat
    else sign ++ ['0', '.'] ++ List.replicate (-point).toNat '0' ++ written

end Double

end ImageBuild.Decimal
