/-
**Decimals of ten places.**

Around `2 ^ 19` the doubles come to lie further apart than the decimals of ten places. From there on
the shortest decimal of a double has no more places than ten, because such decimals read back. Below,
no two of these decimals are read as one double, so that each is the shortest one of the double that
it is read as.

* `le_exponent_shortest_of_large`: the places of a shortest decimal from `2 ^ 19` on.
* `abs_sub_toFloat_le`, `toRat_toFloat_lt`: reading a decimal of ten places below.
* `eq_of_toFloat_eq`: no two of them are read as one double.
* `shortest_toFloat`: the shortest decimal of what is read.
-/

import ScientificCalculator.Proofs.Decimal.Search

namespace ScientificCalculator.Decimal

open Binary64 (IsNearest exponentField impliedBit isFinite isNegative nearest step step_eq_zpow
  step_le)

section Steps

/-- The doubles from `2 ^ 18` on, below `2 ^ 19`, are closer than the decimals of ten places. -/
theorem step_lt_tenth : step 1040 < 1 / 10 ^ 10 := by
  rw [step_eq_zpow]
  norm_num

/-- They are more than half as far apart. -/
theorem half_tenth_lt_step : 5 / 10 ^ 11 < step 1040 := by
  rw [step_eq_zpow]
  norm_num

/-- The next ones are further apart. -/
theorem tenth_lt_step : 1 / 10 ^ 10 < step 1041 := by
  rw [step_eq_zpow]
  norm_num

theorem two_pow_mul_step : (2 : ℚ) ^ 53 * step 1040 = 2 ^ 19 := by
  rw [step_eq_zpow]
  norm_num

theorem impliedBit_mul_step {exponent : Nat} (large : 1022 ≤ exponent) :
    impliedBit * step exponent = 2 ^ (exponent - 1022) := by
  obtain ⟨more, rfl⟩ := Nat.exists_eq_add_of_le large
  have exponents : ((1022 + more : ℕ) : ℤ) - 1074 = more - 52 := by omega
  have leading : (impliedBit : ℚ) = 2 ^ (52 : ℤ) := by norm_num [impliedBit]
  rw [step_eq_zpow, exponents, leading, ← zpow_add₀ two_ne_zero, add_sub_cancel, zpow_natCast,
    Nat.add_sub_cancel_left]

end Steps

section Large

variable {number : Float} (finite : isFinite number = true) (positive : isNegative number = false)

include finite positive

/-- **From `2 ^ 19` on the shortest decimal has at most ten places.** -/
theorem le_exponent_shortest_of_large (large : 2 ^ 19 ≤ value (Binary64.units number))
    (small : value (Binary64.units number) ≤ 10 ^ 10) :
    -10 ≤ (shortest (Binary64.units number)).exponent := by
  have size := toRat_eq_value positive
  have field := Binary64.lt_exponentField positive
    (two_pow_mul_step.le.trans (large.trans size.ge))
  have nonzero := value_pos_iff.mp (lt_of_lt_of_le (by norm_num) large)
  have order := le_leadingExponent_iff nonzero
  have low : 5 ≤ leadingExponent (Binary64.units number) :=
    (order 5).mpr (le_trans (by norm_num) large)
  have high : ¬11 ≤ leadingExponent (Binary64.units number) := fun more =>
    absurd (((order 11).mp more).trans small) (by norm_num)
  -- The finest grid of the search, or the one of ten places where that is coarser.
  obtain ⟨places, grid, within⟩ : ∃ places : ℕ,
      leadingExponent (Binary64.units number) - 16 ≤ -places ∧ places ≤ 10 ∧
        (leadingExponent (Binary64.units number) - 16 = -places ∨ places = 10) :=
    ⟨(-max (-10) (leadingExponent (Binary64.units number) - 16)).toNat, by omega, by omega⟩
  have fine : (10 : ℚ) ^ (-places : ℤ) < step (exponentField number - 1) := by
    rcases within.2 with finest | rfl
    · rw [← finest]
      exact finest_lt_step positive nonzero
    · exact lt_of_le_of_lt (by norm_num) (tenth_lt_step.trans_le (step_le field))
  have least : ((2 ^ (exponentField number - 1 - 1022) * 10 ^ places : ℕ) : ℚ) *
      10 ^ (-places : ℤ) = impliedBit * step (exponentField number - 1) := by
    rw [impliedBit_mul_step (by omega), zpow_neg, zpow_natCast, Nat.cast_mul, Nat.cast_pow,
      Nat.cast_pow, Nat.cast_ofNat, Nat.cast_ofNat, mul_inv_cancel_right₀ (by positivity)]
  have found := exists_onGrid_of_fine positive finite fine (by omega) least
  have bound : (-10 : ℤ) ≤ -places := by omega
  exact bound.trans (le_exponent_shortest grid (by omega) found)

end Large

section Small

variable {significand other : Nat}

theorem toRat_ten_places (significand : Nat) :
    toRat ⟨significand, -10⟩ = significand / 10 ^ 10 := by
  rw [toRat, zpow_neg, div_eq_mul_inv]
  rfl

theorem isNearest_ten_places (significand : Nat) :
    IsNearest (significand / 10 ^ 10) (toFloat ⟨significand, -10⟩) :=
  toRat_ten_places significand ▸ isNearest_toFloat _

theorem isFinite_toFloat (small : significand < 2 ^ 19 * 10 ^ 10) :
    isFinite (toFloat ⟨significand, -10⟩) = true := by
  have below : significand * 1 < 10 ^ 10 * 2 ^ 19 := by omega
  have few : 19 ≤ 1000 := by decide
  exact Binary64.isFinite_nearest _ few below

/-- **A decimal of ten places is read** to within half a step of the doubles from `2 ^ 18` on. -/
theorem abs_sub_toFloat_le (small : significand < 2 ^ 19 * 10 ^ 10) :
    |significand / 10 ^ 10 - Binary64.toRat (toFloat ⟨significand, -10⟩)| ≤ step 1040 / 2 := by
  have below : toRat ⟨significand, -10⟩ < 2 ^ 53 * step 1040 := by
    rw [toRat_ten_places, two_pow_mul_step, div_lt_iff₀ (by norm_num)]
    exact_mod_cast small
  rw [toRat_eq_div] at below
  have error := Binary64.abs_sub_nearest_le_step (denominator_pos _) (isFinite_toFloat small) below
  rwa [← toRat_eq_div, toRat_ten_places] at error

/-- It is read as a double below `2 ^ 19`. -/
theorem toRat_toFloat_lt (small : significand < 2 ^ 19 * 10 ^ 10) :
    Binary64.toRat (toFloat ⟨significand, -10⟩) < 2 ^ 19 := by
  have error := (abs_le.mp (abs_sub_toFloat_le small)).1
  have fine := step_lt_tenth
  have last : (significand : ℚ) + 1 ≤ 2 ^ 19 * 10 ^ 10 := by exact_mod_cast small
  linarith

/-- A decimal from `2 ^ 19` on is not. -/
theorem le_toRat_toFloat (large : 2 ^ 19 * 10 ^ 10 ≤ other)
    (finite : isFinite (toFloat ⟨other, -10⟩) = true) :
    2 ^ 19 ≤ Binary64.toRat (toFloat ⟨other, -10⟩) := by
  have near := Binary64.isNearest_nearest (2 ^ 19) Nat.one_pos
  have units : Binary64.units (nearest (2 ^ 19) 1) = 2 ^ 19 * Binary64.unitsPerOne := by
    decide +kernel
  have exact : Binary64.toRat (nearest (2 ^ 19) 1) = 2 ^ 19 := by
    have unit : (Binary64.unitsPerOne : ℚ) ≠ 0 :=
      Nat.cast_ne_zero.mpr Binary64.unitsPerOne_pos.ne'
    rw [toRat_eq_value (Binary64.isNegative_nearest _ _), units, value, Nat.cast_mul,
      mul_div_cancel_right₀ _ unit, Nat.cast_pow, Nat.cast_ofNat]
  have above : ((2 ^ 19 : ℕ) / (1 : ℕ) : ℚ) ≤ other / 10 ^ 10 := by
    rw [le_div_iff₀ (by norm_num), Nat.cast_one, div_one]
    exact_mod_cast large
  exact exact.ge.trans
    (near.mono (isNearest_ten_places other) (by decide +kernel) finite above)

/-- **No other decimal of ten places is read as the same double.** -/
theorem eq_of_toFloat_eq (small : significand < 2 ^ 19 * 10 ^ 10)
    (equal : toFloat ⟨other, -10⟩ = toFloat ⟨significand, -10⟩) : other = significand := by
  have below := toRat_toFloat_lt small
  have small' : other < 2 ^ 19 * 10 ^ 10 := by
    by_contra large
    have above := le_toRat_toFloat (not_lt.mp large) (equal.symm ▸ isFinite_toFloat small)
    rw [equal] at above
    exact absurd below (not_lt.mpr above)
  have error := abs_sub_toFloat_le small
  have error' := abs_sub_toFloat_le small'
  have fine := step_lt_tenth
  rw [equal] at error'
  rw [abs_le] at error error'
  have close : |(other : ℚ) - significand| < 1 := abs_lt.mpr ⟨by linarith, by linarith⟩
  have same : |(other : ℤ) - significand| < 1 := by exact_mod_cast close
  exact_mod_cast sub_eq_zero.mp (Int.abs_lt_one_iff.mp same)

/-- **A decimal of ten places is the shortest one of the double that it is read as**, less the zeros
at its end. -/
theorem shortest_toFloat (small : significand < 2 ^ 19 * 10 ^ 10)
    (least : 1 / 10 ^ 10 ≤ Binary64.toRat (toFloat ⟨significand, -10⟩)) :
    shortest (Binary64.units (toFloat ⟨significand, -10⟩)) = trimmed significand (-10) := by
  have positive : isNegative (toFloat ⟨significand, -10⟩) = false :=
    Binary64.isNegative_nearest _ _
  have size := toRat_eq_value positive
  have below := toRat_toFloat_lt small
  have error := abs_sub_toFloat_le small
  have fine := step_lt_tenth
  have scale : (10 : ℚ) ^ (-10 : ℤ) = 1 / 10 ^ 10 := by norm_num
  rw [size] at below least error
  have order := le_leadingExponent_iff (value_pos_iff.mp (lt_of_lt_of_le (by norm_num) least))
  have some : (0 : ℚ) < significand := by linarith [(abs_le.mp error).1]
  refine shortest_eq_trimmed positive (Binary64.isNaN_nearest _ _) (Nat.cast_pos.mp some) ?_
    ((order _).mpr (scale.le.trans least)) ?_ rfl fun other => eq_of_toFloat_eq small
  · by_contra more
    have large := (order 7).mp (by omega)
    exact absurd (large.trans_lt below) (by norm_num)
  · have value := toRat_ten_places significand
    rw [toRat] at value
    rw [value, scale]
    linarith

end Small

end ScientificCalculator.Decimal
