/-
**The value of a literal.**

The digits before the point count whole units and those after it a fraction of one unit, which is
nothing only where all of them are zero.

* `ofDigitChars_lt`, `ofDigitChars_pos`: the number that digits stand for.
* `Literal.numerator_eq`: the whole and the fraction of a literal.
* `Literal.numerator_div_denominator`: its whole units.
* `Literal.numerator_mod_denominator`: what is left over from whole units.
* `Literal.numerator_mod_denominator_eq_zero_iff`: where nothing is.
-/

import Mathlib.Algebra.Ring.Nat
import ScientificCalculator.Literal

namespace ScientificCalculator

section Digits

variable {digits : List Char}

theorem toNat_sub_le_of_isDigit {digit : Char} (inside : digit.isDigit = true) :
    digit.toNat - '0'.toNat ≤ 9 := by
  have high : digit.val ≤ '9'.val := of_decide_eq_true (Bool.and_eq_true_iff.mp inside).2
  have bound : digit.toNat ≤ 57 := high
  have zero : '0'.toNat = 48 := rfl
  omega

theorem toNat_sub_pos_of_ne {digit : Char} (inside : digit.isDigit = true) (other : digit ≠ '0') :
    0 < digit.toNat - '0'.toNat := by
  have low : '0'.val ≤ digit.val := of_decide_eq_true (Bool.and_eq_true_iff.mp inside).1
  have bound : 48 ≤ digit.toNat := low
  have apart : digit.toNat ≠ 48 := fun equal => other (Char.toNat_inj.mp equal)
  have zero : '0'.toNat = 48 := rfl
  omega

/-- The leading digit and the others. -/
theorem ofDigitChars_cons_zero (first : Char) (rest : List Char) :
    Nat.ofDigitChars 10 (first :: rest) 0 =
      10 ^ rest.length * (first.toNat - '0'.toNat) + Nat.ofDigitChars 10 rest 0 := by
  rw [Nat.ofDigitChars_cons, Nat.mul_zero, Nat.zero_add, Nat.ofDigitChars_eq_ofDigitChars_zero]

/-- **Digits stand for less than the next power of ten.** -/
theorem ofDigitChars_lt (all : ∀ digit ∈ digits, digit.isDigit = true) :
    Nat.ofDigitChars 10 digits 0 < 10 ^ digits.length := by
  induction digits with
  | nil => decide
  | cons first rest ih =>
    obtain ⟨leading, others⟩ := List.forall_mem_cons.mp all
    have below := ih others
    have nine := Nat.mul_le_mul_left (10 ^ rest.length) (toNat_sub_le_of_isDigit leading)
    rw [ofDigitChars_cons_zero, List.length_cons, Nat.pow_succ]
    omega

/-- **Digits that are not all zero stand for more than nothing.** -/
theorem ofDigitChars_pos (all : ∀ digit ∈ digits, digit.isDigit = true)
    (some : ∃ digit ∈ digits, digit ≠ '0') : 0 < Nat.ofDigitChars 10 digits 0 := by
  induction digits with
  | nil =>
    obtain ⟨_, member, -⟩ := some
    cases member
  | cons first rest ih =>
    obtain ⟨leading, others⟩ := List.forall_mem_cons.mp all
    rw [ofDigitChars_cons_zero]
    by_cases zero : first = '0'
    · obtain ⟨digit, member, other⟩ := some
      have inside : digit ∈ rest :=
        (List.mem_cons.mp member).resolve_left fun equal => other (equal.trans zero)
      exact Nat.add_pos_right _ (ih others ⟨digit, inside, other⟩)
    · exact Nat.add_pos_left
        (Nat.mul_pos (Nat.pow_pos (by decide)) (toNat_sub_pos_of_ne leading zero)) _

end Digits

namespace Literal

variable (literal : Literal)

theorem denominator_pos : 0 < literal.denominator :=
  Nat.pow_pos (by decide)

/-- The whole and the fraction of a literal. -/
theorem numerator_eq :
    literal.numerator = literal.denominator * Nat.ofDigitChars 10 literal.whole 0 +
      Nat.ofDigitChars 10 literal.fraction 0 := by
  rw [numerator, Nat.ofDigitChars_append, Nat.ofDigitChars_eq_ofDigitChars_zero]
  rfl

/-- **What is left over from whole units** is what the digits after the point stand for. -/
theorem numerator_mod_denominator (all : ∀ digit ∈ literal.fraction, digit.isDigit = true) :
    literal.numerator % literal.denominator = Nat.ofDigitChars 10 literal.fraction 0 := by
  rw [numerator_eq, Nat.mul_add_mod]
  exact Nat.mod_eq_of_lt (ofDigitChars_lt all)

/-- The whole units are what the digits before the point stand for. -/
theorem numerator_div_denominator (all : ∀ digit ∈ literal.fraction, digit.isDigit = true) :
    literal.numerator / literal.denominator = Nat.ofDigitChars 10 literal.whole 0 := by
  have less : Nat.ofDigitChars 10 literal.fraction 0 < literal.denominator := ofDigitChars_lt all
  rw [numerator_eq, Nat.mul_add_div literal.denominator_pos, Nat.div_eq_of_lt less, Nat.add_zero]

/-- **A literal stands for an integer** where all digits after the point are zero. -/
theorem numerator_mod_denominator_eq_zero_iff
    (all : ∀ digit ∈ literal.fraction, digit.isDigit = true) :
    literal.numerator % literal.denominator = 0 ↔ ∀ digit ∈ literal.fraction, digit = '0' := by
  rw [literal.numerator_mod_denominator all]
  constructor
  · intro zero digit member
    by_contra other
    exact Nat.ne_of_gt (ofDigitChars_pos all ⟨digit, member, other⟩) zero
  · intro zeros
    rw [List.eq_replicate_of_mem zeros, Nat.ofDigitChars_replicate_zero, Nat.mul_zero]

end Literal

end ScientificCalculator
