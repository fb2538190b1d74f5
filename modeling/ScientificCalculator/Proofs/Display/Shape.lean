/-
**The shapes of a displayed number.**

A finite number is shown as a plain literal of a finite value, or as a plain literal with an
exponent, with a minus sign in front of it where the number is negative.

* `Shape`: the two shapes of a magnitude.
* `shape_scientific`, `shape_exponential`: the literals with an exponent.
* `shape_rounded`, `shape_positional`: the literals without one.
* `exists_shape`: the shape of a finite number.
-/

import ScientificCalculator.Proofs.Decimal.Layout
import ScientificCalculator.Proofs.Display.Trimmed

namespace ScientificCalculator

open Numeral (IsExponent signed)

section Literals

variable {literal : Literal}

/-- **A literal with fewer than `2 ^ 64` whole units** has a finite value. -/
theorem Literal.isFinite_toFloat (fraction : ∀ digit ∈ literal.fraction, digit.isDigit = true)
    (small : Nat.ofDigitChars 10 literal.whole 0 < 2 ^ 64) :
    Binary64.isFinite literal.toFloat = true := by
  have few : 64 ≤ 1000 := by decide
  refine Binary64.isFinite_nearest _ few ?_
  have part : Nat.ofDigitChars 10 literal.fraction 0 < literal.denominator :=
    ofDigitChars_lt fraction
  have next := Nat.mul_le_mul_left literal.denominator (Nat.succ_le_of_lt small)
  rw [Nat.mul_succ] at next
  rw [literal.numerator_eq]
  omega

end Literals

namespace Display

/-- **The shapes of a magnitude that is shown.** -/
inductive Shape : List Char → Prop
  | plain {literal : Literal} (plain : literal.Plain)
      (finite : Binary64.isFinite literal.toFloat = true) : Shape literal.text
  | scaled {literal : Literal} {exponent : List Char} (plain : literal.Plain)
      (integer : IsExponent exponent) : Shape (literal.text ++ 'e' :: exponent)

section Exponents

theorem isExponent_integerText (number : Int) : IsExponent (Decimal.integerText number) := by
  unfold Decimal.integerText
  split
  · exact .minus Nat.toDigits_ne_nil fun _ => Decimal.isDigit_of_mem_toDigits
  · exact .digits Nat.toDigits_ne_nil fun _ => Decimal.isDigit_of_mem_toDigits

theorem isExponent_signedIntegerText (number : Int) :
    IsExponent (Decimal.signedIntegerText number) := by
  unfold Decimal.signedIntegerText
  split
  · exact .minus Nat.toDigits_ne_nil fun _ => Decimal.isDigit_of_mem_toDigits
  · exact .plus Nat.toDigits_ne_nil fun _ => Decimal.isDigit_of_mem_toDigits

/-- The scientific form is a literal with an exponent that has a sign. -/
theorem shape_scientific (places units : Nat) : Shape (Decimal.scientific places units) := by
  rw [Decimal.scientific_eq, ← Decimal.text_pointedLiteral]
  exact .scaled (Decimal.plain_pointedLiteral _ _) (isExponent_signedIntegerText _)

/-- The exponential form is a literal of one whole digit, with an exponent. -/
theorem shape_exponential (decimal : Decimal) : Shape decimal.exponential := by
  obtain ⟨literal, plain, -, text⟩ := decimal.exists_exponential
  rw [text]
  exact .scaled plain (isExponent_integerText _)

end Exponents

section Magnitudes

variable {units : Nat}

/-- A magnitude that is shown in ten rounded decimals is that of a finite literal. -/
theorem shape_rounded (ordinary : units ≤ largestOrdinary) : Shape (rounded units) := by
  have plain := plain_trimmedLiteral maximumPlaces
    (Rounding.halfEven (units * Nat.pow 10 maximumPlaces) Binary64.unitsPerOne)
  -- There are at most `10 ^ 20` of the last decimals, so the whole digits stay far below `2 ^ 64`.
  have quotient : units * Nat.pow 10 maximumPlaces / Binary64.unitsPerOne ≤
      Nat.pow 10 10 * Nat.pow 10 maximumPlaces := by
    refine Nat.div_le_of_le_mul ?_
    rw [← Nat.mul_assoc, Nat.mul_comm Binary64.unitsPerOne]
    exact Nat.mul_le_mul_right _ ordinary
  have small : Nat.ofDigitChars 10 (trimmedLiteral maximumPlaces (Rounding.halfEven
      (units * Nat.pow 10 maximumPlaces) Binary64.unitsPerOne)).whole 0 < 2 ^ 64 := by
    rw [trimmedLiteral, Nat.ofDigitChars_ten_toDigits]
    refine Nat.div_lt_of_lt_mul ?_
    have limit : Nat.pow 10 10 * Nat.pow 10 maximumPlaces + 1 <
        Nat.pow 10 maximumPlaces * 2 ^ 64 := by decide
    rcases Rounding.halfEven_eq_or (units * Nat.pow 10 maximumPlaces) Binary64.unitsPerOne with
      same | next <;> omega
  have shape := Shape.plain plain (Literal.isFinite_toFloat plain.fraction small)
  rwa [← text_trimmedLiteral] at shape

/-- The shortest digits of a finite magnitude, all in place, are those of a finite literal. -/
theorem shape_positional {number : Float} (finite : Binary64.isFinite number = true) :
    Shape (Decimal.shortest (Binary64.units number)).positional := by
  obtain ⟨magnitude, real, positive, same, units⟩ := Binary64.exists_magnitude finite
  have value := Decimal.toFloat_shortest real positive
  rw [← Decimal.toFloat_literal] at value
  have shape := Shape.plain (Decimal.plain_literal (Decimal.shortest (Binary64.units magnitude)))
    (by rwa [value])
  rwa [Decimal.text_literal, units] at shape

/-- **The shape of the magnitude of a finite number.** -/
theorem shape_magnitude {number : Float} (finite : Binary64.isFinite number = true) :
    Shape (magnitude (Binary64.units number)) := by
  have shape : Shape (ordinary (Binary64.units number)) := by
    unfold ordinary
    dsimp only
    split
    · exact shape_exponential _
    · exact shape_positional finite
  unfold magnitude
  split
  · exact shape_scientific _ _
  · rename_i inside
    split
    · exact shape_rounded (Nat.le_of_not_lt fun above => inside (Or.inl above))
    · exact shape

/-- **A finite number is shown with the sign and the shape of a magnitude.** -/
theorem exists_shape {number : Float} (finite : Binary64.isFinite number = true) :
    ∃ negative digits, Shape digits ∧ text number = signed negative digits := by
  unfold text
  rw [finite]
  split
  · contradiction
  · split
    · have zero : Literal.Plain ⟨['0'], []⟩ :=
        ⟨List.cons_ne_nil _ _, List.forall_mem_singleton.mpr (by decide), nofun⟩
      have shape := Shape.plain zero (Literal.isFinite_toFloat zero.fraction (by decide))
      exact ⟨false, _, shape, (Numeral.signed_false _).symm⟩
    · split
      · exact ⟨true, _, shape_magnitude finite, (Numeral.signed_true _).symm⟩
      · exact ⟨false, _, shape_magnitude finite, (Numeral.signed_false _).symm⟩

end Magnitudes

end Display

end ScientificCalculator
