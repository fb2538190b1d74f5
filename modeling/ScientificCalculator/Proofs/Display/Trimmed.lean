/-
**Decimals without zeros at their end.**

The last decimals of a number that are zeros can be dropped as characters, once the number is laid
out, or as digits of its significand, before it is. Both ways give the same literal.

* `toDigits_concat`, `paddedDigits_concat`: a last digit, written.
* `trimmedLiteral`: the literal of a number of decimals, less the zeros at its end.
* `text_trimmedLiteral`: what is left of the text when zeros, and then a point, are dropped.
* `literal_trimmed`: the literal of the trimmed significand.
* `toRat_trimmedLiteral`: the value of the literal.
-/

import ScientificCalculator.Proofs.Display.Characters
import ScientificCalculator.Proofs.Numeral.Exact

namespace ScientificCalculator

open Text (Stops stops_cons)

section Digits

/-- **The last digit of a number.** -/
theorem toDigits_concat {number digit : Nat} (some : 0 < number) (single : digit < 10) :
    Nat.toDigits 10 (10 * number + digit) = Nat.toDigits 10 number ++ [digit.digitChar] := by
  rw [← Nat.toDigits_append_toDigits (by decide) some single, Nat.toDigits_of_lt_base single]

/-- The last digit of a number with zeros in front of it. -/
theorem Decimal.paddedDigits_concat {places digit : Nat} (present : 0 < places) (single : digit < 10)
    (number : Nat) :
    paddedDigits (places + 1) (10 * number + digit) =
      paddedDigits places number ++ [digit.digitChar] := by
  rcases Nat.eq_zero_or_pos number with rfl | some
  · obtain ⟨fewer, rfl⟩ := Nat.exists_eq_succ_of_ne_zero present.ne'
    have zero : Nat.toDigits 10 0 = ['0'] := rfl
    rw [Nat.mul_zero, Nat.zero_add, paddedDigits, paddedDigits, Nat.toDigits_of_lt_base single, zero]
    exact congrArg (· ++ [digit.digitChar]) List.replicate_succ'
  · rw [paddedDigits, paddedDigits, toDigits_concat some single, List.append_assoc]
    simp only [List.length_append, List.length_singleton, Nat.add_sub_add_right]

theorem digitChar_ne_zero {digit : Nat} (single : digit < 10) (other : digit ≠ 0) :
    digit.digitChar ≠ '0' := by
  have all : ∀ digit < 10, digit ≠ 0 → Nat.digitChar digit ≠ '0' := by decide
  exact all digit single other

end Digits

namespace Display

open Decimal (paddedDigits pointedLiteral pointedText trimmed)

section Endings

theorem withoutFinalZeros_concat_zero (text : List Char) :
    withoutFinalZeros (text ++ ['0']) = withoutFinalZeros text :=
  List.rdropWhile_concat_pos (· = '0') text '0' (by decide)

theorem withoutFinalZeros_concat {last : Char} (other : last ≠ '0') (text : List Char) :
    withoutFinalZeros (text ++ [last]) = text ++ [last] :=
  List.rdropWhile_concat_neg (· = '0') text last (by simpa using other)

/-- No zero is left at the end. -/
theorem getLast?_withoutFinalZeros (text : List Char) :
    (withoutFinalZeros text).getLast? ≠ some '0' := by
  intro last
  have present : withoutFinalZeros text ≠ [] := by
    intro none
    rw [none] at last
    cases last
  rw [List.getLast?_eq_some_getLast present] at last
  exact List.rdropWhile_last_not (· = '0') text present (decide_eq_true (Option.some.inj last))

/-- What is dropped at the end of a text does not go beyond another character. -/
theorem reverse_dropWhile_append (test : Char → Bool) {last : Char} (other : test last = false)
    (before after : List Char) :
    ((before ++ last :: after).reverse.dropWhile test).reverse =
      before ++ last :: (after.reverse.dropWhile test).reverse := by
  have stops : Stops test (last :: before.reverse) := stops_cons.mpr other
  rw [List.reverse_append, List.reverse_cons, List.append_assoc, List.singleton_append,
    Text.dropWhile_append _ stops, List.reverse_append, List.reverse_cons, List.reverse_reverse,
    List.append_assoc, List.singleton_append]

/-- Of digits before and after a point no point is dropped, unless nothing comes after it. -/
theorem withoutFinalPoint_append {literal : Literal} (plain : literal.Plain) :
    withoutFinalPoint (literal.whole ++ '.' :: literal.fraction) = literal.text := by
  have other {digit : Char} (inside : digit.isDigit = true) : decide (digit = '.') = false := by
    refine decide_eq_false ?_
    rintro rfl
    exact absurd inside (by decide)
  obtain ⟨whole, fraction⟩ := literal
  rcases List.eq_nil_or_concat fraction with rfl | ⟨front, last, rfl⟩
  · obtain ⟨front, last, rfl⟩ := List.eq_nil_or_concat whole |>.resolve_left plain.present
    have digit := plain.whole last (by simp)
    have dropped := reverse_dropWhile_append (· = '.') (other digit) front ['.']
    rw [Literal.text_of_fraction_nil rfl, List.concat_eq_append, List.append_assoc]
    exact dropped
  · have digit := plain.fraction last (by simp)
    have dropped := reverse_dropWhile_append (· = '.') (other digit) (whole ++ '.' :: front) []
    rw [Literal.text_of_fraction_ne_nil (by simp), List.concat_eq_append, ← List.cons_append,
      ← List.append_assoc]
    exact dropped

end Endings

section Literals

variable (places number : Nat)

/-- The literal of `number / 10 ^ places`, without zeros at the end of its fraction. -/
def trimmedLiteral : Literal where
  whole := Nat.toDigits 10 (number / Nat.pow 10 places)
  fraction := withoutFinalZeros (paddedDigits places (number % Nat.pow 10 places))

theorem plain_trimmedLiteral : (trimmedLiteral places number).Plain := by
  have digits := Decimal.plain_pointedLiteral places number
  have part : (trimmedLiteral places number).fraction.Sublist
      (pointedLiteral places number).fraction :=
    reverse_dropWhile_sublist _ _
  exact ⟨digits.present, digits.whole,
    fun digit member => digits.fraction digit (part.subset member)⟩

/-- **What is left of the text** when zeros at its end, and then a point, are dropped. -/
theorem text_trimmedLiteral :
    withoutFinalPoint (withoutFinalZeros (pointedText places number)) =
      (trimmedLiteral places number).text := by
  have zeros : withoutFinalZeros (pointedText places number) =
      (trimmedLiteral places number).whole ++ '.' :: (trimmedLiteral places number).fraction :=
    reverse_dropWhile_append (· = '0') (by decide) _ _
  rw [zeros, withoutFinalPoint_append (plain_trimmedLiteral places number)]

variable {places}

theorem length_trimmedLiteral_le (present : 0 < places) :
    (trimmedLiteral places number).fraction.length ≤ places := by
  have below : number % Nat.pow 10 places < 10 ^ places := Nat.mod_lt _ (Nat.pow_pos (by decide))
  have part : (trimmedLiteral places number).fraction.Sublist
      (paddedDigits places (number % Nat.pow 10 places)) :=
    reverse_dropWhile_sublist _ _
  exact part.length_le.trans (Decimal.length_paddedDigits present below).le

variable (places)

/-- A zero at the end of the number is no decimal of the literal. -/
theorem trimmedLiteral_mul_ten :
    trimmedLiteral (places + 1) (10 * number) = trimmedLiteral places number := by
  have scale : Nat.pow 10 (places + 1) = 10 * Nat.pow 10 places := Nat.pow_succ'
  rw [trimmedLiteral, trimmedLiteral, scale, Nat.mul_div_mul_left _ _ (by decide),
    Nat.mul_mod_mul_left]
  rcases Nat.eq_zero_or_pos places with rfl | present
  · have none : number % Nat.pow 10 0 = 0 := Nat.mod_one number
    rw [none]
    rfl
  · rw [← Nat.add_zero (10 * (number % Nat.pow 10 places)),
      Decimal.paddedDigits_concat present (by decide)]
    exact congrArg _ (withoutFinalZeros_concat_zero _)

/-- Another digit at the end of the number keeps all decimals. -/
theorem trimmedLiteral_of_mod_ne (last : number % 10 ≠ 0) :
    trimmedLiteral (places + 1) number = pointedLiteral (places + 1) number := by
  have single : number % 10 < 10 := Nat.mod_lt _ (by decide)
  have other := digitChar_ne_zero single last
  have scale : Nat.pow 10 (places + 1) = 10 * Nat.pow 10 places := Nat.pow_succ'
  have parts : number % Nat.pow 10 (places + 1) =
      10 * (number / 10 % Nat.pow 10 places) + number % 10 := by
    rw [scale, Nat.mod_mul, Nat.add_comm]
  have ending : ∃ front, paddedDigits (places + 1) (number % Nat.pow 10 (places + 1)) =
      front ++ [(number % 10).digitChar] := by
    rw [parts]
    rcases Nat.eq_zero_or_pos places with rfl | present
    · have none : number / 10 % Nat.pow 10 0 = 0 := Nat.mod_one _
      refine ⟨[], ?_⟩
      rw [none, Nat.mul_zero, Nat.zero_add, Nat.zero_add, paddedDigits,
        Nat.toDigits_of_lt_base single]
      rfl
    · exact ⟨_, Decimal.paddedDigits_concat present single _⟩
  obtain ⟨front, written⟩ := ending
  rw [trimmedLiteral, pointedLiteral, written, withoutFinalZeros_concat other]

end Literals

section Trimmed

/-- The literal of a trimmed integer has its zeros in front of the point. -/
theorem literal_trimmed_of_nonneg (significand : Nat) (exponent : Int) (whole : 0 ≤ exponent) :
    (trimmed significand exponent).literal =
      ⟨Nat.toDigits 10 significand ++ List.replicate exponent.toNat '0', []⟩ := by
  induction significand, exponent using Decimal.trimmed.induct with
  | case1 significand exponent zero ih =>
    have more : 0 < significand / 10 := by omega
    have tenfold : 10 * (significand / 10) + 0 = significand := by omega
    have digits := toDigits_concat more (by decide : 0 < 10)
    rw [tenfold] at digits
    have count : (exponent + 1).toNat = exponent.toNat + 1 := by omega
    rw [trimmed, if_pos zero, ih (by omega), digits, count, List.replicate_succ, List.append_assoc]
    rfl
  | case2 significand exponent last =>
    rw [trimmed, if_neg last, Decimal.literal]
    exact if_pos whole

/-- **The literal of a trimmed significand** is the trimmed literal. -/
theorem literal_trimmed (places : Nat) {number : Nat} (some : 0 < number) :
    (trimmed number (-places)).literal = trimmedLiteral places number := by
  induction places generalizing number with
  | zero =>
    have none : number % Nat.pow 10 0 = 0 := Nat.mod_one number
    have all : number / Nat.pow 10 0 = number := Nat.div_one number
    rw [Nat.cast_zero, neg_zero, literal_trimmed_of_nonneg _ _ le_rfl, trimmedLiteral, none, all]
    exact congrArg (fun digits => (⟨digits, []⟩ : Literal)) (List.append_nil _)
  | succ places ih =>
    by_cases zero : number % 10 = 0
    · have tenfold : 10 * (number / 10) = number := by omega
      have exponent : -((places + 1 : ℕ) : ℤ) + 1 = -places := by omega
      rw [trimmed, if_pos ⟨some.ne', zero⟩, exponent, ih (by omega), ← trimmedLiteral_mul_ten,
        tenfold]
    · have broken : ¬(0 : ℤ) ≤ -((places + 1 : ℕ) : ℤ) := by omega
      have count : (- -((places + 1 : ℕ) : ℤ)).toNat = places + 1 := by omega
      rw [trimmed, if_neg fun both => zero both.2, Decimal.literal, if_neg broken, count,
        trimmedLiteral_of_mod_ne places number zero]

/-- **The value of a trimmed literal.** -/
theorem toRat_trimmedLiteral (places : Nat) {number : Nat} (some : 0 < number) :
    (trimmedLiteral places number).toRat = number / 10 ^ places := by
  rw [← literal_trimmed places some, Decimal.toRat_literal, Decimal.toRat_trimmed, Decimal.toRat,
    zpow_neg, zpow_natCast, div_eq_mul_inv]

end Trimmed

end Display

end ScientificCalculator
