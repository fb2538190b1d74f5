/-
**The text of a hundredth.**

The text of a hundredth is that of a literal with two places more. It is read as a double, and this
double is written.

* `literalText_of_units_eq_zero`: the text of zero.
* `hundredthLiteral`, `text_hundredthLiteral`: the literal of the hundredth.
* `percentText_eq`: what is written for the hundredth.
-/

import ScientificCalculator.Canonical.Percent
import ScientificCalculator.Proofs.Numeral.Denoted
import ScientificCalculator.Proofs.Numeral.ReadBack

namespace ScientificCalculator.Canonical

open Binary64 (exponentField impliedBit isFinite isNaN isNegative units)

/-- Zero is finite. -/
theorem isFinite_of_units_eq_zero {number : Float} (zero : units number = 0) :
    isFinite number = true := by
  have field : exponentField number = 0 := by
    by_contra normal
    rw [units, if_neg normal, Nat.mul_eq_zero] at zero
    rcases zero with leading | scale
    · exact absurd (Nat.eq_zero_of_add_eq_zero_right leading) (by decide)
    · exact (Nat.two_pow_pos _).ne' scale
  rw [isFinite, field]
  rfl

/-- Zero is written as one digit. -/
theorem literalText_of_units_eq_zero {number : Float} (real : isNaN number = false)
    (positive : isNegative number = false) (zero : units number = 0) :
    literalText number = ['0'] := by
  have finite := isFinite_of_units_eq_zero zero
  rw [literalText, if_pos finite, Numeral.text_eq real finite positive, zero]
  rfl

variable (literal : Literal)

/-- The literal of the hundredth, with two places more. -/
def hundredthLiteral : Literal :=
  let places := literal.fraction.length + 2
  let scale := powerOfTen places
  let scaled := literal.numerator * scale / (operandDenominator literal * 100)
  ⟨Nat.toDigits 10 (scaled / scale), Decimal.paddedDigits places (scaled % scale)⟩

theorem plain_hundredthLiteral : (hundredthLiteral literal).Plain :=
  ⟨Nat.toDigits_ne_nil, fun _ => Decimal.isDigit_of_mem_toDigits,
    fun _ => Decimal.isDigit_of_mem_paddedDigits⟩

theorem text_hundredthLiteral : (hundredthLiteral literal).text = hundredthText literal := by
  rw [hundredthText, cutText, if_neg (Nat.succ_ne_zero _)]
  exact Literal.text_of_fraction_ne_nil (Decimal.paddedDigits_ne_nil _ _)

/-- **The text written for a percentage** is that of the double which the hundredth is read as. -/
theorem percentText_eq :
    percentText literal = literalText (hundredthLiteral literal).toFloat := by
  have read := Numeral.read?_literal (plain_hundredthLiteral literal) false
  rw [Numeral.signed_false, text_hundredthLiteral] at read
  rw [percentText, read]
  dsimp only [Numeral.oppositeIf]
  rw [if_neg Bool.false_ne_true]
  split
  · rename_i zero
    exact (literalText_of_units_eq_zero (Binary64.isNaN_nearest _ _)
      (Binary64.isNegative_nearest _ _) zero).symm
  · rfl

end ScientificCalculator.Canonical
