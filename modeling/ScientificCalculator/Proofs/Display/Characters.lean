/-
**The characters of a displayed number.**

A finite number is shown with digits, a point, signs and the letter of the exponent. The word for a
failure has other letters, so it is shown for the numbers that are not finite and for no others.

* `Numeric`: the texts of these characters.
* `numeric_text`: a finite number is shown as such a text.
* `notMem_text`: the characters that are not shown for any number.
* `text_eq_failure_iff`: the numbers shown as a failure.
-/

import ScientificCalculator.Display
import ScientificCalculator.Proofs.Numeral.Shape

namespace ScientificCalculator

namespace Display

section Texts

/-- The characters with which finite numbers are shown. -/
def isNumeric (character : Char) : Bool :=
  character.isDigit || ['.', 'e', '+', '-'].contains character

/-- The text has no other characters than those of finite numbers. -/
def Numeric (text : List Char) : Prop :=
  ∀ character ∈ text, isNumeric character = true

variable {first second : List Char}

theorem numeric_nil : Numeric [] :=
  fun _ member => absurd member List.not_mem_nil

theorem Numeric.cons {leading : Char} (rest : Numeric first)
    (own : isNumeric leading = true := by decide) : Numeric (leading :: first) :=
  List.forall_mem_cons.mpr ⟨own, rest⟩

theorem Numeric.append (before : Numeric first) (after : Numeric second) :
    Numeric (first ++ second) :=
  List.forall_mem_append.mpr ⟨before, after⟩

theorem Numeric.sublist (whole : Numeric second) (part : first.Sublist second) : Numeric first :=
  fun character member => whole character (part.subset member)

theorem numeric_of_digits (digits : ∀ digit ∈ first, digit.isDigit = true) : Numeric first := by
  intro character member
  rw [isNumeric, digits character member, Bool.true_or]

theorem numeric_of_plain {literal : Literal} (plain : literal.Plain) : Numeric literal.text := by
  intro character member
  rcases plain.mem_text member with digit | rfl
  · rw [isNumeric, digit, Bool.true_or]
  · decide

end Texts

section Layouts

theorem numeric_toDigits (number : Nat) : Numeric (Nat.toDigits 10 number) :=
  numeric_of_digits fun _ => Decimal.isDigit_of_mem_toDigits

theorem numeric_integerText (number : Int) : Numeric (Decimal.integerText number) := by
  unfold Decimal.integerText
  split
  · exact (numeric_toDigits _).cons
  · exact numeric_toDigits _

theorem numeric_pointedText (places number : Nat) :
    Numeric (Decimal.pointedText places number) := by
  rw [← Decimal.text_pointedLiteral]
  exact numeric_of_plain (Decimal.plain_pointedLiteral places number)

theorem numeric_positional (decimal : Decimal) : Numeric decimal.positional := by
  rw [← Decimal.text_literal]
  exact numeric_of_plain decimal.plain_literal

theorem numeric_exponential (decimal : Decimal) : Numeric decimal.exponential := by
  have digits := numeric_toDigits decimal.significand
  unfold Decimal.exponential
  split
  · exact numeric_nil
  · rename_i first others equal
    rw [equal] at digits
    obtain ⟨leading, following⟩ := List.forall_mem_cons.mp digits
    have fraction : Numeric (if others = [] then [] else '.' :: others) := by
      split
      · exact numeric_nil
      · exact Numeric.cons following
    exact (fraction.cons leading).append (numeric_integerText _).cons

theorem numeric_scientific (places units : Nat) : Numeric (Decimal.scientific places units) := by
  have sign (leading : Int) : Numeric (if leading < 0 then [] else ['+']) := by
    split
    · exact numeric_nil
    · exact numeric_nil.cons
  exact ((numeric_pointedText _ _).append (sign _).cons).append (numeric_integerText _)

theorem numeric_ordinary (units : Nat) : Numeric (ordinary units) := by
  unfold ordinary
  dsimp only
  split
  · exact numeric_exponential _
  · exact numeric_positional _

/-- What is dropped at the end of a text leaves a part of it. -/
theorem reverse_dropWhile_sublist (test : Char → Bool) (text : List Char) :
    (text.reverse.dropWhile test).reverse.Sublist text := by
  have part := (List.dropWhile_sublist test (l := text.reverse)).reverse
  rwa [List.reverse_reverse] at part

theorem numeric_rounded (units : Nat) : Numeric (rounded units) :=
  (numeric_pointedText _ _).sublist
    ((reverse_dropWhile_sublist _ _).trans (reverse_dropWhile_sublist _ _))

/-- A finite magnitude is shown with the characters of numbers. -/
theorem numeric_magnitude (units : Nat) : Numeric (magnitude units) := by
  unfold magnitude
  split
  · exact numeric_scientific _ _
  · split
    · exact numeric_rounded units
    · exact numeric_ordinary units

end Layouts

section Failures

variable {number : Float}

/-- **A finite number is shown with the characters of numbers.** -/
theorem numeric_text (finite : Binary64.isFinite number = true) : Numeric (text number) := by
  unfold text
  rw [finite]
  split
  · contradiction
  · split
    · exact numeric_nil.cons
    · split
      · exact (numeric_magnitude _).cons
      · exact numeric_magnitude _

/-- A character of neither numbers nor the word for a failure is not shown. -/
theorem notMem_text {character : Char} (foreign : isNumeric character = false)
    (other : character ∉ failure) (number : Float) : character ∉ text number := by
  intro member
  by_cases finite : Binary64.isFinite number = true
  · rw [numeric_text finite character member] at foreign
    cases foreign
  · rw [text, Bool.eq_false_iff.mpr finite] at member
    exact other member

/-- **The numbers that are not finite are shown as a failure, and no others.** -/
theorem text_eq_failure_iff : text number = failure ↔ Binary64.isFinite number = false := by
  constructor
  · intro shown
    refine Bool.eq_false_iff.mpr fun finite => ?_
    have numeric := numeric_text finite
    rw [shown] at numeric
    exact absurd (numeric 'E' (by decide)) (by decide)
  · intro infinite
    rw [text, infinite]
    rfl

/-- The string that is shown tells it as well. -/
theorem ofList_text_eq_iff :
    String.ofList (text number) = "Error" ↔ Binary64.isFinite number = false := by
  rw [← text_eq_failure_iff]
  exact String.ofList_inj

end Failures

end Display

end ScientificCalculator
