/-!
# Binary floating-point numbers

The non-negative finite numbers of the double format, each a natural multiple of a power of two.
Operations are exact on rationals and round once, to the nearest number and to the even one of two
equally near ones.
-/

namespace SupervisoryLadder.Decimal

/-- The number `mantissa * 2 ^ exponent`. -/
structure Binary where
  mantissa : Nat
  exponent : Int
  deriving DecidableEq

namespace Binary

/-- The least exponent of the format, reached by the subnormal numbers and by zero. -/
def leastExponent : Int := -1074

/-- The number of bits of a mantissa. -/
def precision : Nat := 53

/-- The exponent of the least power of two that is out of range. -/
def rangeExponent : Nat := 1024

/-- The number zero. -/
def zero : Binary := ⟨0, leastExponent⟩

/-- A rational as numerator and denominator. -/
def fraction (number : Binary) : Nat × Nat :=
  if 0 ≤ number.exponent then (number.mantissa * Nat.pow 2 number.exponent.toNat, 1)
  else (number.mantissa, Nat.pow 2 (-number.exponent).toNat)

/-- The quotient rounded to the nearest natural number, a half to the even one. -/
def divideNearest (numerator denominator : Nat) : Nat :=
  let quotient := numerator / denominator
  let twice := 2 * (numerator % denominator)
  if twice < denominator then quotient
  else if twice = denominator then quotient + quotient % 2
  else quotient + 1

/-- The numerator and denominator of a rational divided by a power of two. -/
def scale (numerator denominator : Nat) (exponent : Int) : Nat × Nat :=
  if 0 ≤ exponent then (numerator, denominator * Nat.pow 2 exponent.toNat)
  else (numerator * Nat.pow 2 (-exponent).toNat, denominator)

/-- The exponent of the greatest power of two that is at most the positive rational. -/
def magnitude (numerator denominator : Nat) : Int :=
  let estimate : Int := (numerator.log2 : Int) - (denominator.log2 : Int)
  let scaled := scale numerator denominator estimate
  if scaled.2 ≤ scaled.1 then estimate else estimate - 1

/-- The number nearest to a rational; none when it is out of range. -/
def round? (numerator denominator : Nat) : Option Binary :=
  if numerator = 0 then some zero
  else
    let exponent := max (magnitude numerator denominator - (precision - 1)) leastExponent
    let scaled := scale numerator denominator exponent
    let mantissa := divideNearest scaled.1 scaled.2
    let number : Binary :=
      if mantissa = Nat.pow 2 precision then ⟨Nat.pow 2 (precision - 1), exponent + 1⟩
      else ⟨mantissa, exponent⟩
    if number.fraction.1 < Nat.pow 2 rangeExponent * number.fraction.2 then some number else none

/-- The product, rounded; none when it is out of range. -/
def mul? (left right : Binary) : Option Binary :=
  round? (left.fraction.1 * right.fraction.1) (left.fraction.2 * right.fraction.2)

/-- The quotient, rounded; none when it is out of range. -/
def div? (left right : Binary) : Option Binary :=
  round? (left.fraction.1 * right.fraction.2) (left.fraction.2 * right.fraction.1)

/-- The greatest power of ten that the format holds. -/
def greatestTenth : Nat := 308

/-- The number nearest to a power of ten; none when it is out of range. -/
def tenPower? (exponent : Nat) : Option Binary := round? (Nat.pow 10 exponent) 1

/-- A number divided by ten to an exponent, with one rounding for each time the greatest power of
ten is taken out and one for the rest. -/
def divideTenPower (number : Binary) (exponent : Nat) : Binary :=
  if number.mantissa = 0 then number
  else if exponent ≤ greatestTenth then
    ((tenPower? exponent).bind number.div?).getD zero
  else
    divideTenPower (((tenPower? greatestTenth).bind number.div?).getD zero)
      (exponent - greatestTenth)
termination_by exponent
decreasing_by
  simp only [greatestTenth] at *
  omega

/-- The number written as a natural significand and a power of ten: the significand is rounded
first, then multiplied or divided. None when the result is out of range. -/
def ofScientific? (significand : Nat) (exponent : Int) : Option Binary :=
  match round? significand 1 with
  | none => none
  | some number =>
    if exponent < 0 then some (number.divideTenPower (-exponent).toNat)
    else if exponent ≤ greatestTenth then (tenPower? exponent.toNat).bind number.mul?
    else if number.mantissa = 0 then some number
    else none

end Binary

end SupervisoryLadder.Decimal
