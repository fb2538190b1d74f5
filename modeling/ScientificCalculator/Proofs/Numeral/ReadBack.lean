/-
**Numerals read back.**

A magnitude is written with digits that stand for a quotient nearest to it and to no other double.
The search for the shortest digits tests this on every decimal it returns; all digits of the
magnitude, which it falls back on, stand for the magnitude itself.

* `Decimal.toFloat_literal`: the literal of a decimal has its value.
* `Decimal.toFloat_trimmed`: zeros at the end of the significand do not matter.
* `Decimal.toFloat_shortest`: the shortest decimal of a magnitude reads back.
* `Numeral.toFloat_literal`: so does the literal that is written for it.
-/

import ScientificCalculator.Proofs.Binary64.Units
import ScientificCalculator.Proofs.Numeral.Shape
import ScientificCalculator.Proofs.Numeral.Value

namespace ScientificCalculator

open Binary64 (isNaN isNegative nearest unitsPerOne)

namespace Decimal

section Layout

theorem length_paddedDigits {places number : Nat} (some : 0 < places)
    (below : number < 10 ^ places) : (paddedDigits places number).length = places := by
  have short : (Nat.toDigits 10 number).length ≤ places :=
    (Nat.length_toDigits_le_iff (by decide) some).mpr below
  rw [paddedDigits, List.length_append, List.length_replicate]
  exact Nat.sub_add_cancel short

theorem ofDigitChars_paddedDigits (places number : Nat) :
    Nat.ofDigitChars 10 (paddedDigits places number) 0 = number := by
  rw [paddedDigits, Nat.ofDigitChars_append, Nat.ofDigitChars_replicate_zero, Nat.mul_zero,
    Nat.ofDigitChars_ten_toDigits]

theorem denominator_pointedLiteral {places : Nat} (some : 0 < places) (number : Nat) :
    (pointedLiteral places number).denominator = 10 ^ places := by
  have below : number % 10 ^ places < 10 ^ places := Nat.mod_lt _ (Nat.pow_pos (by decide))
  rw [Literal.denominator, pointedLiteral, Nat.pow_eq, Nat.pow_eq, length_paddedDigits some below]

theorem numerator_pointedLiteral {places : Nat} (some : 0 < places) (number : Nat) :
    (pointedLiteral places number).numerator = number := by
  rw [Literal.numerator_eq, denominator_pointedLiteral some, pointedLiteral,
    ofDigitChars_paddedDigits, Nat.ofDigitChars_ten_toDigits, Nat.pow_eq]
  exact Nat.div_add_mod number (10 ^ places)

/-- **The literal of a decimal has its value.** -/
theorem toFloat_literal (decimal : Decimal) : decimal.literal.toFloat = decimal.toFloat := by
  rw [Literal.toFloat, toFloat, numerator, denominator, literal]
  split
  · rename_i whole
    have none : (-decimal.exponent).toNat = 0 := by omega
    rw [Literal.numerator, Literal.denominator, List.append_nil, Nat.ofDigitChars_append,
      Nat.ofDigitChars_ten_toDigits, Nat.ofDigitChars_replicate_zero, none, Nat.mul_comm]
    rfl
  · rename_i broken
    have none : decimal.exponent.toNat = 0 := by omega
    have some : 0 < (-decimal.exponent).toNat := by omega
    rw [numerator_pointedLiteral some, denominator_pointedLiteral some, none, Nat.pow_eq,
      Nat.pow_zero, Nat.mul_one, Nat.pow_eq]

end Layout

section Trimmed

theorem denominator_pos (decimal : Decimal) : 0 < decimal.denominator :=
  Nat.pow_pos (by decide)

/-- A zero at the end of the significand counts as one in the exponent. -/
theorem toFloat_mul_ten (significand : Nat) (exponent : Int) :
    toFloat ⟨significand * 10, exponent⟩ = toFloat ⟨significand, exponent + 1⟩ := by
  refine Binary64.nearest_of_cross (denominator_pos _) (denominator_pos _) ?_
  have exponents : exponent.toNat + 1 + (-(exponent + 1)).toNat =
      (exponent + 1).toNat + (-exponent).toNat := by omega
  simp only [numerator, denominator, Nat.pow_eq]
  calc significand * 10 * 10 ^ exponent.toNat * 10 ^ (-(exponent + 1)).toNat
      = significand * 10 ^ (exponent.toNat + 1 + (-(exponent + 1)).toNat) := by ring
    _ = significand * 10 ^ (exponent + 1).toNat * 10 ^ (-exponent).toNat := by
      rw [exponents]
      ring

/-- **Zeros at the end of the significand do not matter.** -/
theorem toFloat_trimmed (significand : Nat) (exponent : Int) :
    (trimmed significand exponent).toFloat = toFloat ⟨significand, exponent⟩ := by
  induction significand, exponent using trimmed.induct with
  | case1 significand exponent zero ih =>
    have tenfold : significand / 10 * 10 = significand :=
      Nat.div_mul_cancel (Nat.dvd_of_mod_eq_zero zero.2)
    rw [trimmed, if_pos zero, ih, ← toFloat_mul_ten, tenfold]
  | case2 significand exponent last => rw [trimmed, if_neg last]

/-- A half is five tenths. -/
theorem toFloat_mul_pow_five (units places : Nat) {exponent : Int} (below : exponent = -places) :
    toFloat ⟨units * Nat.pow 5 places, exponent⟩ = nearest units (Nat.pow 2 places) := by
  refine Binary64.nearest_of_cross (denominator_pos _) (Nat.two_pow_pos places) ?_
  have whole : exponent.toNat = 0 := by omega
  have broken : (-exponent).toNat = places := by omega
  simp only [numerator, denominator, whole, broken, Nat.pow_eq]
  rw [Nat.pow_zero, Nat.mul_one, Nat.mul_assoc, ← Nat.mul_pow]

end Trimmed

section Shortest

/-- The search on one grid, not applied to a value: on a value the two sides would be compared by
testing both candidates. -/
theorem onGrid?_eq : onGrid? = fun units exponent =>
    have numerator := gridNumerator units exponent
    have denominator := gridDenominator exponent
    have lower : Decimal := ⟨numerator / denominator, exponent⟩
    have upper : Decimal := ⟨numerator / denominator + 1, exponent⟩
    match readsBack units lower, readsBack units upper with
    | true, true => if 2 * (numerator % denominator) < denominator then lower else upper
    | true, false => lower
    | false, true => upper
    | false, false => none :=
  rfl

/-- What is found on a grid reads back, whatever the test is. -/
theorem readsBack_of_onGrid? {units : Nat} {exponent : Int} {decimal : Decimal}
    (found : onGrid? units exponent = some decimal) : readsBack units decimal = true := by
  rw [onGrid?_eq] at found
  generalize readsBack = test at found ⊢
  dsimp only at found
  split at found
  · rename_i below above
    split at found
    · obtain rfl := Option.some.inj found
      exact below
    · obtain rfl := Option.some.inj found
      exact above
  · rename_i below _
    obtain rfl := Option.some.inj found
    exact below
  · rename_i _ above
    obtain rfl := Option.some.inj found
    exact above
  · cases found

variable {number : Float} (real : isNaN number = false) (positive : isNegative number = false)

include real positive

theorem toFloat_of_readsBack {decimal : Decimal}
    (reads : readsBack (Binary64.units number) decimal = true) : decimal.toFloat = number := by
  rw [readsBack, decide_eq_true_eq] at reads
  have again : nearest (Binary64.units decimal.toFloat) unitsPerOne = decimal.toFloat :=
    Binary64.nearest_units (Binary64.isNaN_nearest _ _) (Binary64.isNegative_nearest _ _)
  rw [← again, reads, Binary64.nearest_units real positive]

/-- All digits of a magnitude stand for the magnitude itself. -/
theorem toFloat_allDigits : (allDigits (Binary64.units number)).toFloat = number := by
  have value := Binary64.nearest_units real positive
  have below : (-1074 : Int) = -(1074 : Nat) := rfl
  unfold unitsPerOne at value
  unfold allDigits
  -- the number of places is left open, so that no power of it is computed
  generalize 1074 = places at below value ⊢
  exact (toFloat_mul_pow_five _ places below).trans value

/-- **The shortest decimal reads back.** -/
theorem toFloat_shortest : (shortest (Binary64.units number)).toFloat = number := by
  rw [shortest, toFloat_trimmed]
  cases search : (List.range 17).findSome? fun places : Nat =>
      onGrid? (Binary64.units number) (leadingExponent (Binary64.units number) - places) with
  | none => exact toFloat_allDigits real positive
  | some decimal =>
    obtain ⟨places, -, found⟩ := List.exists_of_findSome?_eq_some search
    exact toFloat_of_readsBack real positive (readsBack_of_onGrid? found)

end Shortest

end Decimal

namespace Numeral

/-- **The literal written for a magnitude reads back.** -/
theorem toFloat_literal {number : Float} (real : isNaN number = false)
    (positive : isNegative number = false) :
    (literal (Binary64.units number)).toFloat = number := by
  unfold literal
  split
  · rename_i zero
    have nothing : nearest 0 1 = nearest 0 unitsPerOne :=
      Binary64.nearest_of_cross Nat.one_pos Binary64.unitsPerOne_pos
        (by rw [Nat.zero_mul, Nat.zero_mul])
    have again := Binary64.nearest_units real positive
    rw [zero] at again
    exact nothing.trans again
  · rw [Decimal.toFloat_literal, Decimal.toFloat_shortest real positive]

end Numeral

end ScientificCalculator
