/-
**The text of a number, read again.**

A number is written as a sign and a magnitude: a literal where it is finite, and a word where it is
not. Every number but the NaN is the one that its text stands for, the negative zero and the two
infinities among them, so no two of them have one text.

* `text_eq_signed`: a finite number is written as a literal with its sign.
* `word`, `text_eq_signed_word`: the magnitude of every number, as it is written.
* `isPart_of_mem_word`, `ofName?_word`: it has the characters of numbers and words, and is no name.
* `read?_text`: a number is read from its text.
-/

import ScientificCalculator.Proofs.Binary64.Opposite
import ScientificCalculator.Proofs.Numeral.Denoted
import ScientificCalculator.Proofs.Numeral.ReadBack
import ScientificCalculator.Proofs.Token.Lexeme

namespace ScientificCalculator

open Binary64 (infinity isFinite isNaN isNegative units)
open Token (isPart startsNumber)

section Infinities

variable {number : Float}

/-- **A number that is not finite is an infinity**, of either sign. -/
theorem Binary64.eq_signed_infinity (real : isNaN number = false)
    (infinite : isFinite number = false) :
    number = Numeral.oppositeIf (isNegative number) infinity := by
  have exponent : exponentField number = 2047 := not_not.mp (of_decide_eq_false infinite)
  have fraction : fractionField number = 0 :=
    not_not.mp fun some => of_decide_eq_false real ⟨exponent, some⟩
  have fields : ∀ negative, isNegative (Numeral.oppositeIf negative infinity) = negative ∧
      exponentField (Numeral.oppositeIf negative infinity) = 2047 ∧
        fractionField (Numeral.oppositeIf negative infinity) = 0 := by
    decide +kernel
  obtain ⟨sign, exponent', fraction'⟩ := fields (isNegative number)
  exact eq_of_fields sign.symm (exponent.trans exponent'.symm) (fraction.trans fraction'.symm)

end Infinities

namespace Numeral

variable {number : Float}

/-- **A finite number is written as a literal with its sign**, and it is the number that these stand
for. -/
theorem text_eq_signed (finite : isFinite number = true) :
    text number = signed (isNegative number) (literal (units number)).text ∧
      oppositeIf (isNegative number) (literal (units number)).toFloat = number := by
  obtain ⟨magnitude, finite', positive, size, equal⟩ := Binary64.exists_magnitude_eq finite
  have value := toFloat_literal (Binary64.isNaN_of_finite finite') positive
  rw [size] at value
  refine ⟨?_, by rw [value]; exact equal.symm⟩
  rw [text, Binary64.isNaN_of_finite finite, if_neg Bool.false_ne_true, finite, if_pos rfl,
    text_literal]
  -- The digits are named, so that they are not computed when the two texts are compared.
  generalize magnitudeText (units number) = digits
  cases isNegative number <;> rfl

/-- What is written for a number that is no NaN, but for its sign. -/
def word (number : Float) : List Char :=
  if isFinite number then (literal (units number)).text else "inf".toList

theorem word_of_finite (finite : isFinite number = true) :
    word number = (literal (units number)).text :=
  if_pos finite

theorem word_of_infinite (infinite : isFinite number = false) : word number = "inf".toList :=
  if_neg (Bool.eq_false_iff.mp infinite)

/-- **A number is written as a word with its sign.** -/
theorem text_eq_signed_word (real : isNaN number = false) :
    text number = signed (isNegative number) (word number) := by
  cases finite : isFinite number with
  | true => rw [word_of_finite finite, (text_eq_signed finite).1]
  | false =>
    rw [text, real, if_neg Bool.false_ne_true, finite, word_of_infinite finite]
    cases isNegative number <;> rfl

section Words

/-- A number is written with characters of numbers and words. -/
theorem isPart_of_mem_word {number : Float} :
    ∀ character ∈ word number, isPart character = true := by
  intro character member
  cases finite : isFinite number with
  | true =>
    rw [word_of_finite finite] at member
    have part : startsNumber character = true := by
      rcases (plain_literal _).mem_text member with digit | rfl
      · rw [startsNumber, digit, Bool.true_or]
      · rfl
    rw [isPart, part, Bool.or_true]
  | false =>
    have parts : "inf".toList.all isPart = true := by decide
    rw [word_of_infinite finite] at member
    exact List.all_eq_true.mp parts character member

/-- It is not written like a function: it starts with a digit, or is the word for infinity. -/
theorem ofName?_word (number : Float) : Func.ofName? (String.ofList (word number)) = none := by
  cases finite : isFinite number with
  | true =>
    obtain ⟨first, rest, equal, digit⟩ := (plain_literal (units number)).text_eq_cons
    refine List.find?_eq_none.mpr fun func _ same => ?_
    obtain ⟨letter, more, named, ⟨-, -, other, -⟩, -⟩ := Token.name_eq_cons func
    rw [word_of_finite finite, equal, decide_eq_true_eq] at same
    rw [same, String.toList_ofList] at named
    rw [← (List.cons.inj named).1, startsNumber, digit] at other
    cases other
  | false =>
    rw [word_of_infinite finite]
    decide

theorem word_ne_nil (number : Float) : word number ≠ [] := by
  cases finite : isFinite number with
  | true =>
    obtain ⟨first, rest, equal, -⟩ := (plain_literal (units number)).text_eq_cons
    rw [word_of_finite finite, equal]
    exact List.cons_ne_nil _ _
  | false =>
    rw [word_of_infinite finite]
    decide

/-- Every number is written with such characters and the minus sign. -/
theorem notMem_text {character : Char} (foreign : isPart character = false)
    (other : character ≠ '-') (number : Float) : character ∉ text number := by
  have outside : character ∉ word number := by
    intro member
    rw [isPart_of_mem_word character member] at foreign
    cases foreign
  cases real : isNaN number with
  | true =>
    rw [text, real, if_pos rfl]
    have parts : "NaN".toList.all isPart = true := by decide
    intro member
    rw [List.all_eq_true.mp parts character member] at foreign
    cases foreign
  | false =>
    rw [text_eq_signed_word real]
    cases isNegative number with
    | true => exact fun member => (List.mem_cons.mp member).elim other outside
    | false => exact outside

end Words

/-- **A number is read from its text**, whatever its sign and its size. -/
theorem read?_text (real : isNaN number = false) : read? (text number) = some number := by
  cases finite : isFinite number with
  | true =>
    obtain ⟨written, value⟩ := text_eq_signed finite
    rw [written, read?_literal (plain_literal _), value]
  | false =>
    have named (negative : Bool) :
        read? (signed negative "inf".toList) = some (oppositeIf negative infinity) := by
      cases negative <;> rfl
    rw [text_eq_signed_word real, word_of_infinite finite, named]
    exact congrArg some (Binary64.eq_signed_infinity real finite).symm

end Numeral

end ScientificCalculator
