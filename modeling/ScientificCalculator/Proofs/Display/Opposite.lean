/-
**The display of opposites.**

A number and its opposite have one magnitude, so they are shown with the same digits. No form of a
magnitude loses a number other than zero: the text of such a number never stands for zero, and no
zero is shown with a sign or with decimals.

* `text_of_zero`: both zeros are shown as one digit.
* `rational?_text_ne_zero`: the text of another number does not stand for zero.
* `text_opposite`: the sign of a number that is shown.
-/

import ScientificCalculator.Proofs.Display.Accuracy

namespace ScientificCalculator.Display

open Binary64 (isFinite isNegative nearest toRat units)
open Decimal (shortest)
open Numeral (rational? signedValue)

section Zeros

variable {number : Float}

theorem text_of_zero (finite : isFinite number = true) (zero : units number = 0) :
    text number = ['0'] := by
  simp only [text, finite, zero, Bool.not_true, Bool.false_eq_true, if_false, if_true]

theorem rational?_zero : rational? ['0'] = some 0 := by
  decide +kernel

theorem signedValue_eq_zero_iff (negative : Bool) (value : ℚ) :
    signedValue negative value = 0 ↔ value = 0 := by
  cases negative with
  | true => exact neg_eq_zero
  | false => exact Iff.rfl

/-- The shortest digits of a magnitude other than zero are not those of zero. -/
theorem toRat_shortest_ne_zero (finite : isFinite number = true) (nonzero : units number ≠ 0) :
    (shortest (units number)).toRat ≠ 0 := by
  intro none
  obtain ⟨magnitude, finite', positive, same, -⟩ := Binary64.exists_magnitude_eq finite
  have read := Decimal.toFloat_shortest (Binary64.isNaN_of_finite finite') positive
  have small : ((shortest (units number)).numerator / (shortest (units number)).denominator : ℚ) ≤
      1 / 2 ^ 1075 := by
    rw [← Decimal.toRat_eq_div, none]
    exact div_nonneg zero_le_one (pow_nonneg zero_le_two 1075)
  have zero := (Binary64.nearest_eq_zero_iff _ (Decimal.denominator_pos _)).mpr small
  have nothing : units (0 : Float) = 0 := by decide +kernel
  rw [same] at read
  rw [← same, ← read, Decimal.toFloat, zero, nothing] at nonzero
  exact nonzero rfl

/-- **The text of a number other than zero does not stand for zero.** -/
theorem rational?_text_ne_zero (finite : isFinite number = true) (nonzero : units number ≠ 0) :
    rational? (text number) ≠ some 0 := by
  have positive := Nat.pos_of_ne_zero nonzero
  have other {shown : ℚ} (some : shown ≠ 0) :
      Option.some (signedValue (isNegative number) shown) ≠ Option.some 0 :=
    fun equal => some ((signedValue_eq_zero_iff _ _).mp (Option.some.inj equal))
  rw [text_of_finite finite nonzero, magnitude]
  split
  · obtain ⟨least, -, -⟩ := Decimal.roundedTo_spec positive scientificPlaces
    rw [Decimal.rational?_scientific _ (by decide)]
    refine other (mul_ne_zero (Nat.cast_ne_zero.mpr ?_) (Decimal.zpow_pos_ten _).ne')
    exact (Nat.lt_of_lt_of_le (Nat.pow_pos (by decide)) least).ne'
  · rename_i inside
    split
    · have least : 1 / 10 ^ 10 ≤ Decimal.value (units number) :=
        not_lt.mp (mt (lt_smallestOrdinary_iff finite).mpr fun below => inside (Or.inr below))
      rw [rational?_rounded _ least]
      have some : (0 : ℚ) < decimals (units number) := Nat.cast_pos.mpr (decimals_pos least)
      exact other (div_ne_zero some.ne' (by norm_num))
    · rw [rational?_ordinary]
      exact other (toRat_shortest_ne_zero finite nonzero)

end Zeros

section Signs

/-- **The sign of a number that is shown.** The opposite of a positive number is shown with a minus
sign in front of the same digits. A text that stands for zero is the one digit, without a sign and
without decimals, and is shown for the two zeros alone. -/
theorem text_opposite :
    (∀ number, isFinite number = true → 0 < toRat number →
      text (-number) = '-' :: text number) ∧
    (∀ number, isFinite number = true →
      (rational? (text number) = some 0 ↔ text number = ['0']) ∧
      (text number = ['0'] ↔ toRat number = 0)) ∧
    text 0 = ['0'] ∧ text (-0) = ['0'] := by
  refine ⟨fun number finite above => ?_, fun number finite => ?_, by decide +kernel,
    by decide +kernel⟩
  · have nonzero : units number ≠ 0 := mt Binary64.toRat_eq_zero_iff.mpr above.ne'
    have positive := (Binary64.toRat_pos_iff nonzero).mp above
    have own := text_oppositeIf finite positive nonzero false
    have opposite := text_oppositeIf finite positive nonzero true
    rw [Numeral.oppositeIf_false, Numeral.signed_false] at own
    rw [Numeral.oppositeIf_true, Numeral.signed_true] at opposite
    rw [own, opposite]
  · rw [Binary64.toRat_eq_zero_iff]
    have shown : text number = ['0'] → rational? (text number) = some 0 := by
      intro zero
      rw [zero, rational?_zero]
    by_cases zero : units number = 0
    · have digit := text_of_zero finite zero
      exact ⟨iff_of_true (shown digit) digit, iff_of_true digit zero⟩
    · have other := rational?_text_ne_zero finite zero
      exact ⟨iff_of_false other (mt shown other), iff_of_false (mt shown other) zero⟩

/-- The opposite of a tenth of a millionth. -/
theorem text_opposite_small :
    let number := nearest 1 (10 ^ 7)
    isFinite number = true ∧ 0 < toRat number ∧ text (-number) = "-1e-7".toList := by
  intro number
  have finite : isFinite number = true := by decide +kernel
  have positive : isNegative number = false := by decide +kernel
  have nonzero : units number ≠ 0 := by decide +kernel
  have above := (Binary64.toRat_pos_iff nonzero).mpr positive
  have written : text number = "1e-7".toList := by decide +kernel
  have opposite := text_opposite.1 number finite above
  exact ⟨finite, above, opposite.trans (congrArg (List.cons '-') written)⟩

end Signs

end ScientificCalculator.Display
