/-
**The shortest decimal of a double.**

Of all decimals that read back as a given double, the one of the fewest digits, and of those the
nearest to the double. On the grid of the decimals of a given number of digits only the two
neighbours of the double need a test: the reading of decimals is monotone.

* `leadingExponent`: the decimal exponent of the leading digit.
* `onGrid?`: the neighbour on one grid that reads back.
* `shortest`: the shortest decimal.
-/

import ScientificCalculator.Decimal.Basic

namespace ScientificCalculator.Decimal

open Binary64 (unitsPerOne)

/-- The exponent `e` with `10 ^ e ≤ value < 10 ^ (e + 1)`, for a positive value in units. The least
positive double exceeds `10 ^ (-324)`, so the scaled quotient has at least one digit. -/
def leadingExponent (units : Nat) : Int :=
  digitCount (units * Nat.pow 10 324 / unitsPerOne) - 325

/-- The numerator of `value / 10 ^ exponent`, for a value in units. -/
def gridNumerator (units : Nat) (exponent : Int) : Nat :=
  units * Nat.pow 10 (-exponent).toNat

/-- The denominator of `value / 10 ^ exponent`, for a value in units. -/
def gridDenominator (exponent : Int) : Nat :=
  unitsPerOne * Nat.pow 10 exponent.toNat

/-- The decimal reads back as the double of the given magnitude. -/
def readsBack (units : Nat) (decimal : Decimal) : Bool :=
  Binary64.units decimal.toFloat = units

/-- The multiple of `10 ^ exponent` next to the value that reads back: the nearer one when both do,
and the upper one when they are equally near. -/
def onGrid? (units : Nat) (exponent : Int) : Option Decimal :=
  let numerator := gridNumerator units exponent
  let denominator := gridDenominator exponent
  let lower : Decimal := ⟨numerator / denominator, exponent⟩
  let upper : Decimal := ⟨numerator / denominator + 1, exponent⟩
  match readsBack units lower, readsBack units upper with
  | true, true => if 2 * (numerator % denominator) < denominator then lower else upper
  | true, false => lower
  | false, true => upper
  | false, false => none

/-- All digits of a value in units. -/
def allDigits (units : Nat) : Decimal :=
  ⟨units * Nat.pow 5 1074, -1074⟩

/-- The shortest decimal that reads back as the double of the given positive magnitude: the grids of
one to seventeen digits are tried in this order. -/
def shortest (units : Nat) : Decimal :=
  let leading := leadingExponent units
  let found := ((List.range 17).findSome? fun places : Nat => onGrid? units (leading - places)).getD
    (allDigits units)
  trimmed found.significand found.exponent

end ScientificCalculator.Decimal
