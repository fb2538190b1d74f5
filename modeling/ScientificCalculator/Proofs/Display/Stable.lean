/-
**A displayed number, read and displayed again.**

From `10 ^ (-6)` up to `10 ^ 10` a number is shown as a literal. Its shortest digits read back as the
number. Ten rounded decimals are read as another one, which they are the shortest digits of: where the
doubles lie as far apart as the decimals of ten places, no digits are rounded. So the same literal is
shown for what is read.

* `Positional`: the magnitudes shown without an exponent.
* `Positional.magnitude_of_few`: a magnitude whose shortest digits are few.
* `Rereads`: a number is read from the digits of a magnitude and shown with them.
* `rereads_of_few`, `rereads_rounded`: the two ways to show a magnitude.
* `Rereads.text_eq`, `Rereads.written_eq`: the number with a sign, shown and written.
* `exists_literal`: the literal of a number, read and shown again.
-/

import ScientificCalculator.Proofs.Decimal.TenPlaces
import ScientificCalculator.Proofs.Display.Accuracy

namespace ScientificCalculator.Display

open Binary64 (isFinite isNegative nearest units unitsPerOne)
open Decimal (shortest value)
open Numeral (oppositeIf signed)

/-- The magnitudes that are shown without an exponent. -/
def Positional (magnitude : Nat) : Prop :=
  smallestPositional ≤ magnitude ∧ magnitude ≤ largestOrdinary

/-- A number that is not negative is what the digits of a magnitude are read as, and these are its
shortest digits and the ones that it is shown with. -/
structure Rereads (magnitude : Nat) (again : Float) : Prop where
  finite : isFinite again = true
  positive : isNegative again = false
  nonzero : units again ≠ 0
  shortest : (Decimal.shortest (units again)).literal.text = Display.magnitude magnitude
  shown : Display.magnitude (units again) = Display.magnitude magnitude

section Positional

variable {number : Float} {magnitude : Nat}

theorem smallestOrdinary_le : smallestOrdinary ≤ smallestPositional := by
  decide +kernel

theorem smallestPositional_pos : 0 < smallestPositional := by
  decide +kernel

/-- They are neither too large nor too small for ordinary digits. -/
theorem Positional.ordinary (inside : Positional magnitude) :
    ¬(largestOrdinary < magnitude ∨ magnitude < smallestOrdinary) :=
  not_or.mpr ⟨not_lt.mpr inside.2, not_lt.mpr (smallestOrdinary_le.trans inside.1)⟩

/-- Their shortest digits are the literal of the shortest decimal. -/
theorem Positional.ordinary_eq (inside : Positional magnitude) :
    Display.ordinary magnitude = (shortest magnitude).literal.text := by
  rw [Display.ordinary, Decimal.text_literal]
  exact if_neg (not_lt.mpr inside.1)

/-- **A magnitude whose shortest digits are few** is shown with all of them. -/
theorem Positional.magnitude_of_few (inside : Positional magnitude)
    (few : (shortest magnitude).literal.fraction.length ≤ maximumPlaces) :
    Display.magnitude magnitude = (shortest magnitude).literal.text := by
  have digits := inside.ordinary_eq
  have places : ¬maximumPlaces < (afterPoint (Display.ordinary magnitude)).length := by
    rw [digits, afterPoint_literal (Decimal.plain_literal _)]
    exact not_lt.mpr few
  rw [Display.magnitude, if_neg inside.ordinary, if_neg places, digits]

/-- Other magnitudes are rounded. -/
theorem Positional.magnitude_of_many (inside : Positional magnitude)
    (many : maximumPlaces < (shortest magnitude).literal.fraction.length) :
    Display.magnitude magnitude = (trimmedLiteral maximumPlaces (decimals magnitude)).text := by
  have places : maximumPlaces < (afterPoint (Display.ordinary magnitude)).length := by
    rwa [inside.ordinary_eq, afterPoint_literal (Decimal.plain_literal _)]
  rw [Display.magnitude, if_neg inside.ordinary, if_pos places, rounded_eq]

/-- Digits that are few are those of the number itself. -/
theorem rereads_of_few (finite : isFinite number = true) (positive : isNegative number = false)
    (inside : Positional (units number))
    (few : (shortest (units number)).literal.fraction.length ≤ maximumPlaces) :
    Rereads (units number) number where
  finite := finite
  positive := positive
  nonzero := (smallestPositional_pos.trans_le inside.1).ne'
  shortest := (inside.magnitude_of_few few).symm
  shown := rfl

end Positional

section Rounded

variable {number : Float} {magnitude : Nat}

/-- The least of these magnitudes is `10 ^ (-6)`, but for less than half a unit of the tenth place. -/
theorem lt_value (least : smallestPositional ≤ magnitude) : 99995 / 10 ^ 11 < value magnitude := by
  have unit : (0 : ℚ) < unitsPerOne := Nat.cast_pos.mpr Binary64.unitsPerOne_pos
  have bound : 99995 * unitsPerOne < smallestPositional * 10 ^ 11 := by decide +kernel
  have cross := bound.trans_le (Nat.mul_le_mul_right _ least)
  rw [value, div_lt_div_iff₀ (by norm_num) unit]
  exact_mod_cast cross

/-- These magnitudes have a unit in the sixth place at least. -/
theorem le_decimals (least : smallestPositional ≤ magnitude) : 10 ^ 4 ≤ decimals magnitude := by
  have lower := lt_value least
  have near := (abs_le.mp (abs_decimals_sub_le magnitude)).1
  have less : (9999 : ℚ) < decimals magnitude := by linarith only [lower, near]
  exact Nat.succ_le_of_lt (by exact_mod_cast less)

/-- **Digits are rounded below `2 ^ 19` only.** -/
theorem decimals_lt (finite : isFinite number = true) (positive : isNegative number = false)
    (inside : Positional (units number))
    (many : maximumPlaces < (shortest (units number)).literal.fraction.length) :
    decimals (units number) < 2 ^ 19 * 10 ^ 10 := by
  have high := (le_largestOrdinary_iff _).mp inside.2
  have below : value (units number) < 2 ^ 19 := by
    by_contra large
    have few := Decimal.le_exponent_shortest_of_large finite positive (not_lt.mp large) high
    rw [Decimal.length_fraction_literal, maximumPlaces] at many
    omega
  have near := (abs_le.mp (abs_decimals_sub_le (units number))).2
  have apart := Decimal.half_tenth_lt_step
  rw [← Decimal.two_pow_mul_step, ← Decimal.toRat_eq_value positive] at below
  have last := Binary64.toRat_le_sub_step 1040 below
  rw [Decimal.two_pow_mul_step, Decimal.toRat_eq_value positive] at last
  have less : (decimals (units number) : ℚ) < 2 ^ 19 * 10 ^ 10 := by linarith
  exact_mod_cast less

/-- What rounded digits are read as has a unit in the sixth place as well. -/
theorem le_units_toFloat {significand : Nat} (least : 10 ^ 4 ≤ significand)
    (finite : isFinite (Decimal.toFloat ⟨significand, -10⟩) = true) :
    smallestPositional ≤ units (Decimal.toFloat ⟨significand, -10⟩) := by
  have near := Binary64.isNearest_nearest 1 (by decide : 0 < Nat.pow 10 6)
  have inside : isFinite (nearest 1 (Nat.pow 10 6)) = true := by decide +kernel
  have exact : ((1 : ℕ) / (Nat.pow 10 6 : ℕ) : ℚ) ≤ significand / 10 ^ 10 := by
    have lower : ((10 ^ 4 : ℕ) : ℚ) ≤ significand := Nat.cast_le.mpr least
    rw [le_div_iff₀ (by norm_num)]
    refine le_trans ?_ lower
    norm_num
  have read := Decimal.isNearest_ten_places significand
  have order := near.mono read inside finite exact
  rw [Decimal.toRat_eq_value near.positive, Decimal.toRat_eq_value read.positive] at order
  exact Decimal.value_le_value_iff.mp order

/-- **Rounded digits are those of the number that they are read as.** -/
theorem rereads_rounded (finite : isFinite number = true) (positive : isNegative number = false)
    (inside : Positional (units number))
    (many : maximumPlaces < (shortest (units number)).literal.fraction.length) :
    Rereads (units number) (Decimal.toFloat ⟨decimals (units number), -10⟩) := by
  have least := le_decimals inside.1
  have small := decimals_lt finite positive inside many
  have rounded := inside.magnitude_of_many many
  generalize decimals (units number) = significand at least small rounded
  have finite' := Decimal.isFinite_toFloat small
  have positive' : isNegative (Decimal.toFloat ⟨significand, -10⟩) = false :=
    Binary64.isNegative_nearest _ _
  have size := Decimal.toRat_eq_value positive'
  have above := le_units_toFloat least finite'
  have below := Decimal.toRat_toFloat_lt small
  have lower := lt_value above
  rw [size] at below
  have inside' : Positional (units (Decimal.toFloat ⟨significand, -10⟩)) :=
    ⟨above, (le_largestOrdinary_iff _).mpr (below.le.trans (by norm_num))⟩
  have literal : (shortest (units (Decimal.toFloat ⟨significand, -10⟩))).literal =
      trimmedLiteral maximumPlaces significand := by
    rw [Decimal.shortest_toFloat small (le_trans (by norm_num) (lower.le.trans size.ge))]
    exact literal_trimmed 10 (lt_of_lt_of_le (by decide) least)
  have few := inside'.magnitude_of_few
  rw [literal] at few
  exact
    { finite := finite'
      positive := positive'
      nonzero := (smallestPositional_pos.trans_le above).ne'
      shortest := by rw [literal, rounded]
      shown := (few (length_trimmedLiteral_le _ (by decide))).trans rounded.symm }

/-- Every magnitude that is shown without an exponent is read and shown again. -/
theorem exists_rereads (finite : isFinite number = true) (inside : Positional (units number)) :
    ∃ again, Rereads (units number) again := by
  obtain ⟨magnitude, finite', positive, same, -⟩ := Binary64.exists_magnitude_eq finite
  rw [← same] at inside ⊢
  rcases le_or_gt (shortest (units magnitude)).literal.fraction.length maximumPlaces with few | many
  · exact ⟨_, rereads_of_few finite' positive inside few⟩
  · exact ⟨_, rereads_rounded finite' positive inside many⟩

end Rounded

section Signs

variable {number again : Float} {magnitude : Nat}

/-- The number is shown with the digits that it was read from, and their sign. -/
theorem Rereads.text_eq (rereads : Rereads magnitude again) (negative : Bool) :
    text (oppositeIf negative again) = signed negative (Display.magnitude magnitude) := by
  rw [text_oppositeIf rereads.finite rereads.positive rereads.nonzero, rereads.shown]

/-- It is written with them, too. -/
theorem Rereads.written_eq (rereads : Rereads magnitude again) (negative : Bool) :
    Numeral.text (oppositeIf negative again) = signed negative (Display.magnitude magnitude) := by
  have size := units_oppositeIf negative again
  have sign := isNegative_oppositeIf rereads.finite rereads.positive negative
  have finite := (isFinite_oppositeIf negative again).trans rereads.finite
  have real := Binary64.isNaN_of_finite finite
  have digits : Numeral.magnitudeText (units again) = Display.magnitude magnitude := by
    rw [Numeral.magnitudeText, if_neg rereads.nonzero, ← Decimal.text_literal, rereads.shortest]
  rw [Numeral.text, real, if_neg Bool.false_ne_true, finite, if_pos rfl, sign, size, digits]
  cases negative <;> rfl

/-- **A number that is shown without an exponent** is shown as a literal with its sign. What the
literal stands for is shown and written with the same digits and the same sign. -/
theorem exists_literal (finite : isFinite number = true) (inside : Positional (units number)) :
    ∃ literal : Literal, literal.Plain ∧ isFinite literal.toFloat = true ∧
      units literal.toFloat ≠ 0 ∧
      text number = signed (isNegative number) literal.text ∧
      text (oppositeIf (isNegative number) literal.toFloat) = text number ∧
      Numeral.text (oppositeIf (isNegative number) literal.toFloat) = text number := by
  have nonzero := (smallestPositional_pos.trans_le inside.1).ne'
  have shown := text_of_finite finite nonzero
  obtain ⟨again, rereads⟩ := exists_rereads finite inside
  have read : (shortest (units again)).literal.toFloat = again := by
    rw [Decimal.toFloat_literal,
      Decimal.toFloat_shortest (Binary64.isNaN_of_finite rereads.finite) rereads.positive]
  refine ⟨(shortest (units again)).literal, Decimal.plain_literal _, ?_, ?_, ?_, ?_, ?_⟩
  · rw [read, rereads.finite]
  · rw [read]
    exact rereads.nonzero
  · rw [shown, rereads.shortest]
  · rw [read, shown, rereads.text_eq]
  · rw [read, shown, rereads.written_eq]

end Signs

end ScientificCalculator.Display
