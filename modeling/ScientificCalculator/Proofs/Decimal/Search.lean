/-
**The search for the shortest decimal.**

The grids are tried from the coarsest one on, and the first decimal that is found is kept. So what is
found lies on a grid at least as coarse as any grid of the search with a decimal that reads back; and
where such a grid has only one of them, this is the decimal that is found.

* `onGrid?_spec`: what is found on a grid, and where something is.
* `exists_first`: the first grid on which something is found.
* `trimmed_mul_pow`, `le_exponent_trimmed`: zeros at the end of the significand.
* `shortest_eq_trimmed`: the shortest decimal, where only one decimal of a grid reads back.
* `exists_near`, `neighbour_of_close`: the neighbours of a magnitude on a grid.
* `finest_lt_step`, `exists_onGrid_of_fine`: on a grid that is finer than the steps of a double something is found.
-/

import ScientificCalculator.Proofs.Binary64.Spacing
import ScientificCalculator.Proofs.Decimal.Leading

namespace ScientificCalculator.Decimal

open Binary64 (exponentField impliedBit isFinite isNaN isNegative step step_pos)

section Grid

variable {units : Nat} {exponent : Int} {decimal : Decimal}

/-- **What is found on a grid** is a number of this grid that reads back. -/
theorem onGrid?_spec (found : onGrid? units exponent = some decimal) :
    decimal.exponent = exponent ∧ readsBack units decimal = true := by
  refine ⟨?_, readsBack_of_onGrid? found⟩
  rw [onGrid?_eq] at found
  generalize readsBack = test at found
  dsimp only at found
  split at found
  · split at found <;> exact Option.some.inj found ▸ rfl
  · exact Option.some.inj found ▸ rfl
  · exact Option.some.inj found ▸ rfl
  · cases found

/-- The neighbour of a magnitude on a grid is found, or the other one. -/
theorem exists_onGrid {significand : Nat}
    (neighbour : significand = gridNumerator units exponent / gridDenominator exponent ∨
      significand = gridNumerator units exponent / gridDenominator exponent + 1)
    (reads : readsBack units ⟨significand, exponent⟩ = true) :
    ∃ decimal, onGrid? units exponent = some decimal := by
  rw [onGrid?_eq]
  generalize readsBack = test at reads
  dsimp only
  split
  · split <;> exact ⟨_, rfl⟩
  · exact ⟨_, rfl⟩
  · exact ⟨_, rfl⟩
  · rename_i lower upper
    rcases neighbour with rfl | rfl
    · rw [lower] at reads
      cases reads
    · rw [upper] at reads
      cases reads

/-- The lower neighbour of a magnitude. -/
theorem lower_le (units : Nat) (exponent : Int) :
    ((gridNumerator units exponent / gridDenominator exponent : ℕ) : ℚ) * 10 ^ exponent ≤
        value units ∧
      value units <
        ((gridNumerator units exponent / gridDenominator exponent : ℕ) + 1) * 10 ^ exponent := by
  have scale := zpow_pos_ten exponent
  have positive : (0 : ℚ) < gridDenominator exponent :=
    Nat.cast_pos.mpr (gridDenominator_pos exponent)
  have parts := Nat.div_add_mod' (gridNumerator units exponent) (gridDenominator exponent)
  have less := Nat.mod_lt (gridNumerator units exponent) (gridDenominator_pos exponent)
  rw [← le_div_iff₀ scale, ← div_lt_iff₀ scale, ← grid_eq, le_div_iff₀ positive,
    div_lt_iff₀ positive]
  generalize gridNumerator units exponent / gridDenominator exponent = quotient at parts ⊢
  generalize gridNumerator units exponent % gridDenominator exponent = rest at parts less
  constructor
  · exact_mod_cast (Nat.le_add_right _ rest).trans parts.le
  · have next : gridNumerator units exponent < (quotient + 1) * gridDenominator exponent := by
      rw [Nat.add_one_mul]
      omega
    exact_mod_cast next

/-- A number of a grid less than a step of it away from a magnitude is one of its neighbours. -/
theorem neighbour_of_close {significand : Nat}
    (close : |(significand : ℚ) * 10 ^ exponent - value units| < 10 ^ exponent) :
    significand = gridNumerator units exponent / gridDenominator exponent ∨
      significand = gridNumerator units exponent / gridDenominator exponent + 1 := by
  have scale := zpow_pos_ten exponent
  obtain ⟨lower, upper⟩ := lower_le units exponent
  obtain ⟨below, above⟩ := abs_lt.mp close
  generalize gridNumerator units exponent / gridDenominator exponent = quotient at lower upper ⊢
  have most : (significand : ℚ) < quotient + 1 + 1 := by
    refine lt_of_mul_lt_mul_right ?_ scale.le
    rw [add_one_mul]
    linarith
  have least : (quotient : ℚ) < significand + 1 := by
    refine lt_of_mul_lt_mul_right ?_ scale.le
    rw [add_one_mul]
    linarith
  have most' : significand < quotient + 1 + 1 := by exact_mod_cast most
  have least' : quotient < significand + 1 := by exact_mod_cast least
  omega

/-- One of its neighbours is at most half a step away. -/
theorem exists_near (units : Nat) (exponent : Int) :
    ∃ significand : Nat,
      (significand = gridNumerator units exponent / gridDenominator exponent ∨
        significand = gridNumerator units exponent / gridDenominator exponent + 1) ∧
      |(significand : ℚ) * 10 ^ exponent - value units| ≤ 10 ^ exponent / 2 := by
  obtain ⟨lower, upper⟩ := lower_le units exponent
  generalize gridNumerator units exponent / gridDenominator exponent = quotient at lower upper ⊢
  rw [add_one_mul] at upper
  rcases le_or_gt (value units - quotient * 10 ^ exponent) (10 ^ exponent / 2) with down | up
  · exact ⟨_, Or.inl rfl, abs_le.mpr ⟨by linarith, by linarith⟩⟩
  · refine ⟨_, Or.inr rfl, ?_⟩
    rw [Nat.cast_succ, add_one_mul]
    exact abs_le.mpr ⟨by linarith, by linarith⟩

end Grid

section First

variable {units : Nat} {exponent : Int}

/-- **The first grid on which something is found** is at least as coarse as any other such grid of the
search. -/
theorem exists_first (fine : leadingExponent units - 16 ≤ exponent)
    (coarse : exponent ≤ leadingExponent units)
    (found : ∃ decimal, onGrid? units exponent = some decimal) :
    ∃ decimal : Decimal, exponent ≤ decimal.exponent ∧ readsBack units decimal = true ∧
      shortest units = trimmed decimal.significand decimal.exponent := by
  obtain ⟨decimal, found⟩ := found
  have place : leadingExponent units - (leadingExponent units - exponent).toNat = exponent := by
    omega
  have tried : (leadingExponent units - exponent).toNat ∈ List.range 17 :=
    List.mem_range.mpr (by omega)
  cases search : (List.range 17).findSome? fun places : Nat =>
      onGrid? units (leadingExponent units - places) with
  | none =>
    have nothing := List.findSome?_eq_none_iff.mp search _ tried
    rw [place, found] at nothing
    cases nothing
  | some first =>
    obtain ⟨before, places, after, split, hit, missed⟩ := List.findSome?_eq_some_iff.mp search
    obtain ⟨grid, reads⟩ := onGrid?_spec hit
    -- the places tried before are fewer, those after it are more
    have order := List.pairwise_lt_range (n := 17)
    rw [split, List.pairwise_append, List.pairwise_cons] at order
    rw [split, List.mem_append, List.mem_cons] at tried
    have fewer : places ≤ (leadingExponent units - exponent).toNat := by
      rcases tried with early | same | late
      · have nothing := missed _ early
        rw [place, found] at nothing
        cases nothing
      · exact same.ge
      · exact (order.2.1.1 _ late).le
    refine ⟨first, by omega, reads, ?_⟩
    rw [shortest, search]
    rfl

end First

section Trimmed

/-- **Zeros at the end of the significand** are trimmed. -/
theorem trimmed_mul_pow {significand : Nat} (positive : 0 < significand) (zeros : Nat)
    (exponent : Int) :
    trimmed (significand * 10 ^ zeros) exponent = trimmed significand (exponent + zeros) := by
  induction zeros generalizing exponent with
  | zero => rw [Nat.pow_zero, Nat.mul_one, Nat.cast_zero, add_zero]
  | succ zeros ih =>
    have nonzero : significand * 10 ^ (zeros + 1) ≠ 0 :=
      (Nat.mul_pos positive (Nat.pow_pos (by decide))).ne'
    have tenfold : significand * 10 ^ (zeros + 1) = significand * 10 ^ zeros * 10 := by
      rw [Nat.pow_succ, Nat.mul_assoc]
    have exponents : exponent + 1 + zeros = exponent + (zeros + 1 : ℕ) := by omega
    rw [trimmed, if_pos ⟨nonzero, by rw [tenfold, Nat.mul_mod_left]⟩, tenfold,
      Nat.mul_div_cancel _ (by decide), ih, exponents]

theorem le_exponent_trimmed (significand : Nat) (exponent : Int) :
    exponent ≤ (trimmed significand exponent).exponent := by
  induction significand, exponent using trimmed.induct with
  | case1 significand exponent zero ih =>
    rw [trimmed, if_pos zero]
    omega
  | case2 significand exponent last => rw [trimmed, if_neg last]

end Trimmed

section Found

variable {number : Float} {exponent : Int}

/-- Where something is found on a grid of the search, the shortest decimal has no more decimals. -/
theorem le_exponent_shortest {units : Nat} (fine : leadingExponent units - 16 ≤ exponent)
    (coarse : exponent ≤ leadingExponent units)
    (found : ∃ decimal, onGrid? units exponent = some decimal) :
    exponent ≤ (shortest units).exponent := by
  obtain ⟨decimal, le, -, equal⟩ := exists_first fine coarse found
  rw [equal]
  exact le.trans (le_exponent_trimmed _ _)

variable (positive : isNegative number = false)

include positive

/-- **The shortest decimal, where only one decimal of a grid reads back**: this one, without the
zeros at its end. -/
theorem shortest_eq_trimmed (real : isNaN number = false) {significand : Nat}
    (present : 0 < significand)
    (fine : leadingExponent (Binary64.units number) - 16 ≤ exponent)
    (coarse : exponent ≤ leadingExponent (Binary64.units number))
    (close : |(significand : ℚ) * 10 ^ exponent - value (Binary64.units number)| < 10 ^ exponent)
    (reads : toFloat ⟨significand, exponent⟩ = number)
    (unique : ∀ other : Nat, toFloat ⟨other, exponent⟩ = number → other = significand) :
    shortest (Binary64.units number) = trimmed significand exponent := by
  have back : readsBack (Binary64.units number) ⟨significand, exponent⟩ = true := by
    rw [readsBack, reads, decide_eq_true_eq]
  obtain ⟨decimal, le, found, equal⟩ :=
    exists_first fine coarse (exists_onGrid (neighbour_of_close close) back)
  -- What is found is a number of the grid as well.
  obtain ⟨zeros, more⟩ := Int.eq_ofNat_of_zero_le (sub_nonneg.mpr le)
  have exponents : exponent + zeros = decimal.exponent := by omega
  have same := toFloat_eq_of_toRat_eq (toRat_mul_pow decimal.significand zeros exponent)
  rw [exponents] at same
  have whole := unique _ (same.trans (toFloat_of_readsBack real positive found))
  have nonzero : 0 < decimal.significand :=
    Nat.pos_of_ne_zero fun zero => present.ne' (by rw [← whole, zero, Nat.zero_mul])
  rw [equal, ← whole, trimmed_mul_pow nonzero, exponents]

/-- **The finest grid of the search is finer than the steps of a double**: seventeen digits are more
than fifty-three bits. -/
theorem finest_lt_step (nonzero : 0 < Binary64.units number) :
    (10 : ℚ) ^ (leadingExponent (Binary64.units number) - 16) <
      step (exponentField number - 1) := by
  have few : (Binary64.significand number : ℚ) < 2 ^ 53 := by
    exact_mod_cast Binary64.significand_lt number
  have unit := step_pos (exponentField number - 1)
  obtain ⟨below, -⟩ := leadingExponent_spec nonzero
  rw [← toRat_eq_value positive, Binary64.toRat_eq_significand_mul positive] at below
  rw [zpow_sub₀ (by norm_num), div_lt_iff₀ (zpow_pos_ten 16), mul_comm (step _)]
  exact below.trans_lt (mul_lt_mul_of_pos_right (few.trans (by norm_num)) unit)

/-- What lies within half a step of a double reads back. -/
theorem readsBack_of_close (finite : isFinite number = true) {decimal : Decimal}
    (least : impliedBit * step (exponentField number - 1) ≤ decimal.toRat)
    (close : |decimal.toRat - value (Binary64.units number)| <
      step (exponentField number - 1) / 2) :
    readsBack (Binary64.units number) decimal = true := by
  rw [← toRat_eq_value positive] at close
  have near := Binary64.isNearest_of_close positive close (Or.inr least) finite
  rw [readsBack, decimal.isNearest_toFloat.unique near, decide_eq_true_eq]

/-- **On a grid finer than the steps of a double something is found**, if the least double with these
steps is a number of the grid. -/
theorem exists_onGrid_of_fine (finite : isFinite number = true) {bottom : Nat}
    (fine : (10 : ℚ) ^ exponent < step (exponentField number - 1))
    (normal : exponentField number ≠ 0)
    (least : (bottom : ℚ) * 10 ^ exponent = impliedBit * step (exponentField number - 1)) :
    ∃ decimal, onGrid? (Binary64.units number) exponent = some decimal := by
  have scale := zpow_pos_ten exponent
  have large := Binary64.impliedBit_mul_step_le positive normal
  obtain ⟨-, upper⟩ := lower_le (Binary64.units number) exponent
  have above : bottom ≤
      gridNumerator (Binary64.units number) exponent / gridDenominator exponent := by
    rw [← least, toRat_eq_value positive] at large
    have less := lt_of_mul_lt_mul_right (large.trans_lt upper) scale.le
    exact Nat.lt_succ_iff.mp (by exact_mod_cast less)
  obtain ⟨significand, neighbour, close⟩ := exists_near (Binary64.units number) exponent
  have order : bottom ≤ significand := by omega
  refine exists_onGrid neighbour (readsBack_of_close positive finite ?_ ?_)
  · exact least.symm.le.trans (mul_le_mul_of_nonneg_right (Nat.cast_le.mpr order) scale.le)
  · exact close.trans_lt (div_lt_div_of_pos_right fine two_pos)

end Found

end ScientificCalculator.Decimal
