/-
**Percentages are rounded once.**

The hundredth of a literal is laid out, read as the double nearest to it, and written again with
digits that read as this double. The tokens of the resolved text are this number alone.

* `resolvePercents_text`: a literal with a percent mark, resolved.
* `tokenize_percentage`: the number read for it is the double nearest to the hundredth.
* `tokenize_percentage_long`: a literal so long that its point is lost.
-/

import ScientificCalculator.Proofs.Canonical.OperandValue

namespace ScientificCalculator

namespace Canonical

open Binary64 (IsNearest infinity isFinite isNegative nearest overflowBound units unitsPerOne)
open Token (tokenize)

variable {literal : Literal}

theorem resolvePercents_text (plain : literal.Plain) :
    resolvePercents (literal.text ++ ['%']) = percentText literal := by
  have digit : '%'.isDigit = false := by decide
  have found := markedLiteral?_text plain digit (by decide) []
  rw [resolvePercents, pieces_of_marked found]
  simp [pieces, resolvePercent]

/-- The double written for a hundredth is the one nearest to it. -/
theorem isNearest_hundredth (literal : Literal) :
    IsNearest (hundredthValue literal) (hundredthLiteral literal).toFloat := by
  rw [← toRat_hundredthLiteral]
  exact Binary64.isNearest_nearest _ (hundredthLiteral literal).denominator_pos

/-- **A percentage is rounded once.** The literal with a percent mark is resolved to the text of one
number, the double nearest to the hundredth, ties to even. It is zero up to a half of the least
positive double, and infinite from the middle between the largest double and the next power of two
on. Below `2 ^ 32` places this is the exact hundredth of the literal. -/
theorem tokenize_percentage (plain : literal.Plain) :
    (literal.fraction.length + 2 < 2 ^ 32 → hundredthValue literal = literal.toRat / 100) ∧
    ∃ value, tokenize (resolvePercents (literal.text ++ ['%'])) = .ok [.num value] ∧
      (∀ number, IsNearest (hundredthValue literal) number ↔ number = value) ∧
      (value = 0 ↔ hundredthValue literal ≤ 1 / 2 ^ 1075) ∧
      (value = infinity ↔ overflowBound ≤ hundredthValue literal) := by
  have some := (hundredthLiteral literal).denominator_pos
  have rounded := isNearest_hundredth literal
  refine ⟨hundredthValue_of_lt, (hundredthLiteral literal).toFloat, ?_, fun _ => rounded.iff_eq, ?_,
    rounded.eq_infinity_iff⟩
  · rw [resolvePercents_text plain, percentText_eq]
    exact tokenize_literalText _ _
  · rw [← toRat_hundredthLiteral]
    exact Binary64.nearest_eq_zero_iff _ some

/-- An eighth of a hundred is read as an eighth. -/
theorem tokenize_percentage_eighth :
    Literal.Plain ⟨['1', '2'], ['5']⟩ ∧
      ∃ value, tokenize (resolvePercents "12.5%".toList) = .ok [.num value] ∧
        ∀ number, IsNearest (1 / 8) number ↔ number = value := by
  have plain : Literal.Plain ⟨['1', '2'], ['5']⟩ :=
    ⟨List.cons_ne_nil _ _, by simp, by simp⟩
  obtain ⟨same, value, read, unique, -⟩ := tokenize_percentage plain
  have exact : Literal.toRat ⟨['1', '2'], ['5']⟩ / 100 = 1 / 8 := by
    have numerator : Literal.numerator ⟨['1', '2'], ['5']⟩ = 125 := by decide
    have denominator : Literal.denominator ⟨['1', '2'], ['5']⟩ = 10 := by decide
    rw [Literal.toRat, numerator, denominator]
    norm_num
  rw [same (by decide), exact] at unique
  exact ⟨plain, value, read, unique⟩

/-- One is not the double nearest to a number below a half. -/
theorem not_isNearest_one {exact : ℚ} (small : exact < 1 / 2) : ¬IsNearest exact (nearest 1 1) := by
  intro near
  have one : isNegative (nearest 1 1) = false ∧ units (nearest 1 1) = unitsPerOne := by
    decide +kernel
  have zero : isNegative 0 = false ∧ units 0 = 0 ∧ isFinite 0 = true := by decide +kernel
  have value : Binary64.toRat (nearest 1 1) = 1 := by
    rw [Binary64.toRat, one.1, one.2, if_neg Bool.false_ne_true, one_mul,
      div_self (Nat.cast_ne_zero.mpr Binary64.unitsPerOne_pos.ne')]
  have nothing : Binary64.toRat 0 = 0 := by
    rw [Binary64.toRat, zero.2.1, Nat.cast_zero, zero_div, mul_zero]
  have closer := near.least (by decide +kernel) 0 zero.2.2
  rw [value, nothing, sub_zero, abs_le] at closer
  obtain negative | positive := abs_cases exact
  all_goals linarith

/-- With `2 ^ 32` places, the hundredth is that of the number of the digits. -/
theorem hundredthValue_behindZeros {zeros hundreds : ℕ} {digits : List Char}
    (long : zeros + digits.length = 2 ^ 32)
    (number : Nat.ofDigitChars 10 digits 0 = hundreds * 100) :
    hundredthValue (behindZeros zeros digits) = hundreds := by
  have places : ((behindZeros zeros digits).fraction.length + 2) % 2 ^ 32 = 2 := by
    rw [length_fraction_behindZeros, long]
    decide
  have operand : operandValue (behindZeros zeros digits) = hundreds * 100 := by
    rw [operandValue_eq_div, operandDenominator_behindZeros long, numerator_behindZeros, number,
      Nat.cast_one, div_one, Nat.cast_mul, Nat.cast_ofNat]
  have cut :
      ⌊operandValue (behindZeros zeros digits) / 100 * (10 ^ 2 : ℕ)⌋₊ = hundreds * 10 ^ 2 := by
    rw [operand, mul_div_cancel_right₀ _ (by norm_num : (100 : ℚ) ≠ 0), ← Nat.cast_mul,
      Nat.floor_natCast]
  rw [hundredthValue, places, cut, Nat.mul_mod_left, Nat.mul_div_cancel _ (by decide),
    Nat.cast_zero, zero_div, add_zero]

/-- A number below one with `2 ^ 32` places has a percentage of one. -/
theorem tokenize_percentage_long :
    let literal := behindZeros (2 ^ 32 - 3) ['1', '0', '0']
    literal.Plain ∧ literal.toRat / 100 < 1 / 100 ∧
      tokenize (resolvePercents (literal.text ++ ['%'])) = .ok [.num (nearest 1 1)] ∧
      ¬IsNearest (literal.toRat / 100) (nearest 1 1) := by
  intro literal
  have all : ∀ digit ∈ ['1', '0', '0'], digit.isDigit = true := List.all_eq_true.mp rfl
  have some : ∃ digit ∈ ['1', '0', '0'], digit ≠ '0' := ⟨'1', List.mem_cons_self, by decide⟩
  have plain : literal.Plain := plain_behindZeros all
  have below : literal.toRat / 100 < 1 / 100 :=
    (div_lt_div_iff_of_pos_right (by norm_num)).mpr (toRat_behindZeros all some).2
  have hundredth : hundredthValue literal = (1 : ℕ) :=
    hundredthValue_behindZeros (by decide) (by decide)
  have rounded := Binary64.isNearest_nearest 1 Nat.one_pos
  rw [Nat.cast_one, div_one, ← Nat.cast_one, ← hundredth] at rounded
  have value := rounded.unique (isNearest_hundredth literal)
  refine ⟨plain, below, ?_, not_isNearest_one (below.trans (by norm_num))⟩
  rw [resolvePercents_text plain, percentText_eq, ← value]
  exact tokenize_literalText 1 1

end Canonical

end ScientificCalculator
