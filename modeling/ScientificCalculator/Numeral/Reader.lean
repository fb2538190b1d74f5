/-
**Reading a number.**

A numeral is an optional sign and then `inf`, `infinity` or `nan` in letters of either case, or
digits with an optional point among, before or after them and an optional exponent. It is read as
the nearest double.

* `read?`: the double a text stands for, if it is a numeral.
-/

import ScientificCalculator.Decimal.Basic
import ScientificCalculator.Literal

namespace ScientificCalculator.Numeral

/-- The sign in front of a text, negative or not, and the rest. -/
def splitSign : List Char → Bool × List Char
  | '-' :: rest => (true, rest)
  | '+' :: rest => (false, rest)
  | rest => (false, rest)

/-- The value of a nonempty list of digits alone. -/
def digitsValue? (digits : List Char) : Option Nat :=
  if digits ≠ [] ∧ digits.all Char.isDigit then some (Nat.ofDigitChars 10 digits 0) else none

/-- The exponent after the digits: nothing, or a letter `e` followed by an integer. -/
def exponent? : List Char → Option Int
  | [] => some 0
  | mark :: rest =>
    if mark = 'e' ∨ mark = 'E' then
      let (negative, digits) := splitSign rest
      (digitsValue? digits).map fun magnitude =>
        if negative then -(magnitude : Int) else (magnitude : Int)
    else none

/-- The exponent, held within bounds beyond which a significand of the given number of digits is
infinite or zero anyway. -/
def heldExponent (digits : Nat) (exponent : Int) : Int :=
  max (-(digits + 400 : Int)) (min 400 exponent)

/-- Digits with an optional point and an optional exponent, as an exact decimal. -/
def decimal? (text : List Char) : Option Decimal := do
  let (literal, tail) := Literal.split text
  let digits := literal.whole ++ literal.fraction
  let significand ← digitsValue? digits
  let exponent ← exponent? tail
  some ⟨significand, heldExponent digits.length (exponent - literal.fraction.length)⟩

/-- The double that an unsigned numeral stands for. -/
def magnitude? (text : List Char) : Option Float :=
  let word := text.map Char.toLower
  if word = "inf".toList ∨ word = "infinity".toList then
    some (Float.ofBits (UInt64.ofNat Binary64.infinityBits))
  else if word = "nan".toList then some (0 / 0)
  else (decimal? text).map Decimal.toFloat

/-- The double that a text stands for, if it is a numeral. -/
def read? (text : List Char) : Option Float :=
  let (negative, magnitude) := splitSign text
  (magnitude? magnitude).map fun number => if negative then -number else number

end ScientificCalculator.Numeral
