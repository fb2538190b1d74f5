/-
**The text of a number.**

A number is written with the fewest digits that read back as the same double, without an exponent
and without a point when it is an integer.

* `text`: the text of a double.
-/

import ScientificCalculator.Decimal.Layout

namespace ScientificCalculator.Numeral

/-- The text of a finite magnitude in units. -/
def magnitudeText (units : Nat) : List Char :=
  if units = 0 then ['0'] else (Decimal.shortest units).positional

/-- The text of a number: `NaN` without a sign, then a minus sign where the sign bit is set, and
`inf` or the shortest digits. -/
def text (number : Float) : List Char :=
  if Binary64.isNaN number then "NaN".toList
  else
    let magnitude :=
      if Binary64.isFinite number then magnitudeText (Binary64.units number) else "inf".toList
    if Binary64.isNegative number then '-' :: magnitude else magnitude

end ScientificCalculator.Numeral
