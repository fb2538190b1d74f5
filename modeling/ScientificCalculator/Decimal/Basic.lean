/-
**Decimal numbers.**

A decimal number is a natural significand scaled by a power of ten. It is compared with doubles
through the exact quotient it stands for.

* `Decimal.toFloat`: the nearest double.
* `Decimal.trimmed`: the same number without zeros at the end of its significand.
* `digitCount`: the length of a natural number's decimal text.
-/

import ScientificCalculator.Binary64.Nearest

namespace ScientificCalculator

/-- The number `significand * 10 ^ exponent`. -/
structure Decimal where
  significand : Nat
  exponent : Int

namespace Decimal

/-- How many digits the decimal text of a natural number has. -/
def digitCount (number : Nat) : Nat :=
  (Nat.toDigits 10 number).length

/-- The numerator of the exact value. -/
def numerator (decimal : Decimal) : Nat :=
  decimal.significand * Nat.pow 10 decimal.exponent.toNat

/-- The denominator of the exact value. -/
def denominator (decimal : Decimal) : Nat :=
  Nat.pow 10 (-decimal.exponent).toNat

/-- The nearest double, ties to even. -/
def toFloat (decimal : Decimal) : Float :=
  Binary64.nearest decimal.numerator decimal.denominator

/-- The same number, the zeros at the end of the significand moved into the exponent. -/
def trimmed (significand : Nat) (exponent : Int) : Decimal :=
  if significand ≠ 0 ∧ significand % 10 = 0 then trimmed (significand / 10) (exponent + 1)
  else ⟨significand, exponent⟩
termination_by significand
decreasing_by omega

end Decimal

end ScientificCalculator
