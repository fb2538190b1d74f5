/-
**Decimal texts.**

The two ways to lay out the digits of a decimal number, and the two roundings of a double to a given
number of places.

* `positional`: all digits in place, without an exponent.
* `exponential`: one digit, a point, the other digits and the exponent.
* `fixed`: a number of places after the point, the exact value rounded half to even.
* `scientific`: one digit, a number of places after the point, and the exponent with its sign.
-/

import ScientificCalculator.Decimal.Shortest

namespace ScientificCalculator.Decimal

/-- The decimal text of an integer, a minus sign in front of a negative one. -/
def integerText (number : Int) : List Char :=
  if number < 0 then '-' :: Nat.toDigits 10 number.natAbs else Nat.toDigits 10 number.natAbs

/-- The last `places` digits of a number, with zeros in front where it has fewer. -/
def paddedDigits (places number : Nat) : List Char :=
  let digits := Nat.toDigits 10 number
  List.replicate (places - digits.length) '0' ++ digits

/-- The text of `number / 10 ^ places`, with exactly `places` digits after the point. -/
def pointedText (places number : Nat) : List Char :=
  let scale := Nat.pow 10 places
  Nat.toDigits 10 (number / scale) ++ '.' :: paddedDigits places (number % scale)

/-- All digits in place: zeros after the significand, or the point inside or in front of it. -/
def positional (decimal : Decimal) : List Char :=
  if 0 ≤ decimal.exponent then
    Nat.toDigits 10 decimal.significand ++ List.replicate decimal.exponent.toNat '0'
  else pointedText (-decimal.exponent).toNat decimal.significand

/-- One digit, the others after a point, and the exponent of the first one. -/
def exponential (decimal : Decimal) : List Char :=
  match Nat.toDigits 10 decimal.significand with
  | [] => []
  | first :: others =>
    let fraction := if others = [] then [] else '.' :: others
    first :: fraction ++ 'e' :: integerText (decimal.exponent + others.length)

/-- The exact value rounded to `places` digits after the point, half to even. -/
def fixed (places units : Nat) : List Char :=
  pointedText places (Rounding.halfEven (units * Nat.pow 10 places) Binary64.unitsPerOne)

/-- The exact value rounded to `places` digits after the leading one, half to even; when this carries
beyond the leading digit the exponent grows by one. -/
def roundedTo (places units : Nat) : Decimal :=
  let exponent := leadingExponent units - places
  let rounded := Rounding.halfEven (gridNumerator units exponent) (gridDenominator exponent)
  if rounded = Nat.pow 10 (places + 1) then ⟨Nat.pow 10 places, exponent + 1⟩
  else ⟨rounded, exponent⟩

/-- One digit, `places` digits after the point, and the exponent, always with its sign. -/
def scientific (places units : Nat) : List Char :=
  let rounded := roundedTo places units
  let leading := rounded.exponent + places
  let sign := if leading < 0 then [] else ['+']
  pointedText places rounded.significand ++ 'e' :: sign ++ integerText leading

end ScientificCalculator.Decimal
