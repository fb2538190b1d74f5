/-
**The leading digit of a magnitude.**

The decimal exponent of a magnitude is found by counting the digits of a whole number. Rounding to a
number of digits behind the leading one keeps a significand of this many digits: where it carries
beyond the leading digit, the exponent grows by one and the value stays.

* `value`: the rational number of a magnitude in units.
* `leadingExponent_spec`, `le_leadingExponent_iff`: the exponent of the leading digit.
* `grid_eq`: a magnitude, measured in a power of ten.
* `roundedTo_spec`: the significand and the error of the rounded magnitude.
-/

import ScientificCalculator.Proofs.Numeral.Exact

namespace ScientificCalculator.Decimal

open Binary64 (unitsPerOne unitsPerOne_pos)

/-- The rational number that a magnitude in units is. -/
def value (units : Nat) : ℚ :=
  units / unitsPerOne

/-- It is the one that a double stands for, unless the double is negative. -/
theorem toRat_eq_value {number : Float} (positive : Binary64.isNegative number = false) :
    Binary64.toRat number = value (Binary64.units number) := by
  rw [Binary64.toRat, positive, if_neg Bool.false_ne_true, one_mul]
  rfl

section Leading

variable {units : Nat}

theorem value_pos_iff : 0 < value units ↔ 0 < units := by
  rw [value, div_pos_iff_of_pos_right (Nat.cast_pos.mpr unitsPerOne_pos), Nat.cast_pos]

theorem value_lt_value_iff {first second : Nat} : value first < value second ↔ first < second := by
  rw [value, value, div_lt_div_iff_of_pos_right (Nat.cast_pos.mpr unitsPerOne_pos), Nat.cast_lt]

theorem value_le_value_iff {first second : Nat} : value first ≤ value second ↔ first ≤ second := by
  rw [← not_lt, value_lt_value_iff, not_lt]

theorem zpow_pos_ten (exponent : Int) : (0 : ℚ) < 10 ^ exponent :=
  zpow_pos (by norm_num) exponent

/-- A positive number has as many digits as its powers of ten tell. -/
theorem digitCount_spec {number : Nat} (some : 0 < number) :
    ∃ places, digitCount number = places + 1 ∧ 10 ^ places ≤ number ∧ number < 10 ^ (places + 1) := by
  have ten : 1 < 10 := by decide
  have present : 0 < digitCount number := List.length_pos_of_ne_nil Nat.toDigits_ne_nil
  obtain ⟨places, count⟩ := Nat.exists_eq_succ_of_ne_zero present.ne'
  refine ⟨places, count, ?_, (Nat.length_toDigits_le_iff ten places.succ_pos).mp count.le⟩
  rcases Nat.eq_zero_or_pos places with rfl | more
  · exact some
  · by_contra below
    have few := (Nat.length_toDigits_le_iff ten more).mpr (not_le.mp below)
    exact absurd (count.symm.le.trans few) (Nat.not_succ_le_self places)

theorem unitsPerOne_le : unitsPerOne ≤ Nat.pow 10 324 := by
  decide +kernel

/-- **The exponent of the leading digit.** -/
theorem leadingExponent_spec (some : 0 < units) :
    10 ^ leadingExponent units ≤ value units ∧
      value units < 10 ^ (leadingExponent units + 1) := by
  have unit : (0 : ℚ) < unitsPerOne := Nat.cast_pos.mpr unitsPerOne_pos
  have ten : (10 : ℚ) ≠ 0 := by norm_num
  have large : unitsPerOne ≤ units * Nat.pow 10 324 :=
    unitsPerOne_le.trans (Nat.le_mul_of_pos_left _ some)
  obtain ⟨places, count, lower, upper⟩ :=
    digitCount_spec (Nat.div_pos large unitsPerOne_pos)
  have exponent : leadingExponent units = (places : ℤ) - (324 : ℕ) := by
    clear lower upper large
    rw [leadingExponent, count]
    omega
  have next : leadingExponent units + 1 = ((places + 1 : ℕ) : ℤ) - (324 : ℕ) := by
    rw [exponent]
    push_cast
    ring
  rw [Nat.le_div_iff_mul_le unitsPerOne_pos] at lower
  rw [Nat.div_lt_iff_lt_mul unitsPerOne_pos] at upper
  rw [next, exponent, zpow_sub₀ ten, zpow_sub₀ ten, zpow_natCast, zpow_natCast, zpow_natCast, value]
  -- the power is left open, so that it is not computed
  generalize 324 = bound at lower upper
  rw [Nat.pow_eq] at lower upper
  have scale : (0 : ℚ) < 10 ^ bound := by positivity
  constructor
  · rw [div_le_div_iff₀ scale unit]
    exact_mod_cast lower
  · rw [div_lt_div_iff₀ unit scale]
    exact_mod_cast upper

/-- **Magnitudes from a power of ten on** have at least its exponent. -/
theorem le_leadingExponent_iff (some : 0 < units) (exponent : Int) :
    exponent ≤ leadingExponent units ↔ 10 ^ exponent ≤ value units := by
  have ten : (1 : ℚ) < 10 := by norm_num
  obtain ⟨lower, upper⟩ := leadingExponent_spec some
  constructor
  · exact fun le => (zpow_le_zpow_right₀ ten.le le).trans lower
  · intro le
    have less := (zpow_lt_zpow_iff_right₀ ten).mp (le.trans_lt upper)
    omega

end Leading

section Grid

variable (units : Nat) (exponent : Int)

theorem gridDenominator_pos : 0 < gridDenominator exponent :=
  Nat.mul_pos unitsPerOne_pos (Nat.pow_pos (by decide))

/-- **A magnitude, measured in a power of ten.** -/
theorem grid_eq :
    (gridNumerator units exponent / gridDenominator exponent : ℚ) =
      value units / 10 ^ exponent := by
  have ten : (10 : ℚ) ≠ 0 := by norm_num
  have parts : exponent = exponent.toNat - ((-exponent).toNat : ℤ) := by omega
  have power : (10 : ℚ) ^ exponent = 10 ^ exponent.toNat / 10 ^ (-exponent).toNat := by
    rw [← zpow_natCast, ← zpow_natCast, ← zpow_sub₀ ten, ← parts]
  rw [gridNumerator, gridDenominator, Nat.pow_eq, Nat.pow_eq, Nat.cast_mul, Nat.cast_mul,
    Nat.cast_pow, Nat.cast_pow, Nat.cast_ofNat, power, value, div_div_div_eq]

end Grid

section Rounded

variable {units : Nat} (some : 0 < units) (places : Nat)

include some

/-- **The rounded magnitude** has a significand of so many digits behind the leading one and lies at
most a half of the last one away. -/
theorem roundedTo_spec :
    10 ^ places ≤ (roundedTo places units).significand ∧
      (roundedTo places units).significand < 10 ^ (places + 1) ∧
      |(roundedTo places units).toRat - value units| ≤
        10 ^ (leadingExponent units - places) / 2 := by
  have ten : (10 : ℚ) ≠ 0 := by norm_num
  obtain ⟨lower, upper⟩ := leadingExponent_spec some
  have scale := zpow_pos_ten (leadingExponent units - places)
  obtain ⟨within, -⟩ := Rounding.halfEven_within
    (gridNumerator units (leadingExponent units - places))
    (gridDenominator_pos (leadingExponent units - places))
  rw [grid_eq] at within
  -- The quotient that is rounded has a leading digit and so many digits behind it.
  have least : (10 ^ places : ℚ) ≤ value units / 10 ^ (leadingExponent units - places) := by
    rwa [le_div_iff₀ scale, ← zpow_natCast, ← zpow_add₀ ten, add_sub_cancel]
  have most : value units / 10 ^ (leadingExponent units - places) < 10 ^ (places + 1) := by
    have exponents : ((places + 1 : ℕ) : ℤ) + (leadingExponent units - places) =
        leadingExponent units + 1 := by omega
    rwa [div_lt_iff₀ scale, ← zpow_natCast, ← zpow_add₀ ten, exponents]
  simp only [roundedTo]
  generalize Rounding.halfEven (gridNumerator units (leadingExponent units - places))
    (gridDenominator (leadingExponent units - places)) = rounded at within ⊢
  have error : |(rounded : ℚ) * 10 ^ (leadingExponent units - places) - value units| ≤
      10 ^ (leadingExponent units - places) / 2 := by
    have scaled := mul_le_mul_of_nonneg_right within scale.le
    rw [← abs_of_pos scale, ← abs_mul, abs_of_pos scale, sub_mul, div_mul_cancel₀ _ scale.ne',
      abs_sub_comm] at scaled
    linarith
  rw [abs_le] at within
  have low : 10 ^ places ≤ rounded := by
    have next : ((10 ^ places : ℕ) : ℚ) < (rounded + 1 : ℕ) := by
      push_cast
      linarith
    exact Nat.lt_succ_iff.mp (by exact_mod_cast next)
  have high : rounded ≤ 10 ^ (places + 1) := by
    have next : (rounded : ℚ) < (10 ^ (places + 1) + 1 : ℕ) := by
      push_cast
      linarith
    exact Nat.lt_succ_iff.mp (by exact_mod_cast next)
  split
  · rename_i carry
    have same := toRat_mul_pow (10 ^ places) 1 (leadingExponent units - places)
    rw [← Nat.pow_add, Nat.cast_one] at same
    rw [carry] at error
    refine ⟨le_rfl, Nat.pow_lt_pow_right (by decide) (Nat.lt_succ_self places), ?_⟩
    rwa [Nat.pow_eq, ← same]
  · rename_i inside
    exact ⟨low, lt_of_le_of_ne high inside, error⟩

end Rounded

end ScientificCalculator.Decimal
