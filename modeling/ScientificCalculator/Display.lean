/-
**The displayed result.**

What the calculator shows for a number. Results beyond `10 ^ 10` or below `10 ^ (-10)` are shown in
scientific form with six decimals; the others with their shortest digits, in exponential form below
`10 ^ (-6)`, and rounded to ten decimals when more than ten characters would follow the point.

* `text`: the displayed text of a number.
* `failure`: the text shown instead of a result that is not finite, or of none.
-/

import ScientificCalculator.Numeral.Printer

namespace ScientificCalculator.Display

/-- The text shown when there is no finite result. -/
def failure : List Char := "Error".toList

/-- At most this many characters follow the point. -/
def maximumPlaces : Nat := 10

/-- Decimals of the scientific form. -/
def scientificPlaces : Nat := 6

/-- Magnitudes above `10 ^ 10` are shown in scientific form. -/
def largestOrdinary : Nat := Nat.pow 10 10 * Binary64.unitsPerOne

/-- Magnitudes below the double nearest to `10 ^ (-10)` are shown in scientific form. -/
def smallestOrdinary : Nat := Binary64.units (Binary64.nearest 1 (Nat.pow 10 10))

/-- Ordinary magnitudes below the double nearest to `10 ^ (-6)` are shown with an exponent. -/
def smallestPositional : Nat := Binary64.units (Binary64.nearest 1 (Nat.pow 10 6))

/-- The shortest digits, with an exponent where the magnitude is small. -/
def ordinary (units : Nat) : List Char :=
  let shortest := Decimal.shortest units
  if units < smallestPositional then shortest.exponential else shortest.positional

/-- The characters after the first point. -/
def afterPoint (text : List Char) : List Char :=
  (text.dropWhile (· ≠ '.')).drop 1

/-- The text without zeros at its end. -/
def withoutFinalZeros (text : List Char) : List Char :=
  (text.reverse.dropWhile (· = '0')).reverse

/-- The text without points at its end. -/
def withoutFinalPoint (text : List Char) : List Char :=
  (text.reverse.dropWhile (· = '.')).reverse

/-- The ten rounded decimals, less the zeros at the end and a point left over. -/
def rounded (units : Nat) : List Char :=
  withoutFinalPoint (withoutFinalZeros (Decimal.fixed maximumPlaces units))

/-- The displayed text of a positive finite magnitude in units. -/
def magnitude (units : Nat) : List Char :=
  if largestOrdinary < units ∨ units < smallestOrdinary then
    Decimal.scientific scientificPlaces units
  else if maximumPlaces < (afterPoint (ordinary units)).length then rounded units
  else ordinary units

/-- The displayed text of a number: both zeros are `0`. -/
def text (number : Float) : List Char :=
  if !Binary64.isFinite number then failure
  else if Binary64.units number = 0 then ['0']
  else if Binary64.isNegative number then '-' :: magnitude (Binary64.units number)
  else magnitude (Binary64.units number)

end ScientificCalculator.Display
