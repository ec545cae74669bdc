import SupervisoryLadder.Decimal.Binary

/-!
# The shortest decimal text of a binary number

A decimal stands for a binary number when no other binary number is nearer to it. Of the decimals
that stand for a number the text uses one with the fewest digits, and of those the nearest, or the
even one of two equally near ones. Numbers from a hundred-thousandth up to sixteen digits are
written out, others with a power of ten.
-/

namespace SupervisoryLadder.Decimal

/-- A decimal `digits * 10 ^ exponent`. -/
structure Scaled where
  digits : Nat
  exponent : Int
  deriving DecidableEq

/-- The decimal as numerator and denominator. -/
def Scaled.fraction (decimal : Scaled) : Nat × Nat :=
  if 0 ≤ decimal.exponent then (decimal.digits * Nat.pow 10 decimal.exponent.toNat, 1)
  else (decimal.digits, Nat.pow 10 (-decimal.exponent).toNat)

/-- The decimal with no zero at the end of its digits. -/
def Scaled.strip (decimal : Scaled) : Scaled :=
  if decimal.digits = 0 then decimal
  else if decimal.digits % 10 = 0 then
    Scaled.strip ⟨decimal.digits / 10, decimal.exponent + 1⟩
  else decimal
termination_by decimal.digits
decreasing_by omega

namespace Binary

/-- Twice the midpoints to the neighbours below and above, over a common denominator, all times two.
The neighbour below a power of two is nearer than the one above, unless it is subnormal. -/
def bounds (number : Binary) : Nat × Nat × Nat :=
  let unit := Binary.fraction ⟨1, number.exponent⟩
  let below :=
    if number.mantissa = Nat.pow 2 (precision - 1) ∧ leastExponent < number.exponent then 1 else 2
  ((4 * number.mantissa - below) * unit.1, (4 * number.mantissa + 2) * unit.1, 4 * unit.2)

/-- True when the decimal stands for the number. The ends of the interval stand for it when the
mantissa is even. -/
def isNearest (number : Binary) (decimal : Scaled) : Bool :=
  let (low, high, denominator) := number.bounds
  let value := decimal.fraction
  let scaled := value.1 * denominator
  if number.mantissa % 2 = 0 then low * value.2 ≤ scaled && scaled ≤ high * value.2
  else low * value.2 < scaled && scaled < high * value.2

/-- The distance of a decimal from the number, over the product of the denominators. -/
def distance (number : Binary) (decimal : Scaled) : Nat :=
  let value := number.fraction
  let other := decimal.fraction
  let left := value.1 * other.2
  let right := other.1 * value.2
  (left - right) + (right - left)

/-- The decimal exponent of the first digit of a positive rational, found by counting up or down. -/
def leadingExponent (numerator denominator : Nat) : Int :=
  if denominator ≤ numerator then ((Nat.repr (numerator / denominator)).length : Int) - 1
  else -((Nat.repr ((denominator - 1) / numerator)).length : Int)

/-- The decimals with `count` digits next to the number, at or below it and above it. -/
def neighbours (number : Binary) (count : Nat) : Scaled × Scaled :=
  let value := number.fraction
  let exponent := leadingExponent value.1 value.2 + 1 - count
  let digits :=
    if 0 ≤ exponent then value.1 / (value.2 * Nat.pow 10 exponent.toNat)
    else value.1 * Nat.pow 10 (-exponent).toNat / value.2
  (⟨digits, exponent⟩, ⟨digits + 1, exponent⟩)

/-- The nearer one of two decimals on one grid, or the one with an even last digit. -/
def nearer (number : Binary) (low high : Scaled) : Scaled :=
  if number.distance low < number.distance high then low
  else if number.distance high < number.distance low then high
  else if low.digits % 2 = 0 then low
  else high

/-- The decimal with `count` digits that stands for the number, the nearer one of two. -/
def withDigits? (number : Binary) (count : Nat) : Option Scaled :=
  let (low, high) := number.neighbours count
  match number.isNearest low, number.isNearest high with
  | true, true => some (number.nearer low high)
  | true, false => some low
  | false, true => some high
  | false, false => none

/-- The decimal that stands for a positive number with the fewest digits. Seventeen digits always
suffice. -/
def shortest (number : Binary) : Scaled :=
  (((List.range' 1 17).findSome? number.withDigits?).getD (number.neighbours 17).1).strip

end Binary

/-- Zeros in a row. -/
def zeros (count : Nat) : String := String.ofList (List.replicate count '0')

/-- The text of a decimal with `scale` as the exponent of its first digit. -/
def Scaled.text (decimal : Scaled) : String :=
  let digits := Nat.repr decimal.digits
  let scale : Int := decimal.exponent + (digits.length : Int) - 1
  if -5 ≤ scale ∧ scale ≤ 15 then
    if 0 ≤ decimal.exponent then digits ++ zeros decimal.exponent.toNat ++ ".0"
    else if 0 ≤ scale then
      let whole := digits.toList.take (scale.toNat + 1)
      let rest := digits.toList.drop (scale.toNat + 1)
      String.ofList (whole ++ '.' :: rest)
    else "0." ++ zeros ((-scale).toNat - 1) ++ digits
  else
    let rest := digits.toList.drop 1
    String.ofList (digits.toList.take 1 ++ if rest.isEmpty then [] else '.' :: rest) ++
      (if scale < 0 then "e-" else "e+") ++ Nat.repr scale.natAbs

/-- The text of a binary number with its sign. -/
def text (negative : Bool) (number : Binary) : String :=
  (if negative then "-" else "") ++
    if number.mantissa = 0 then "0.0" else number.shortest.text

end SupervisoryLadder.Decimal
