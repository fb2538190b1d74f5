/-
**A displayed number that is used again.**

A number from `10 ^ (-6)` up to `10 ^ 10` is shown without an exponent, and what is shown stands for
a number that is shown in the same way. So nothing changes on the display when it is typed and
evaluated, when an entry with it is taken from the history and evaluated, and when it is put into an
empty memory, recalled and evaluated.

* `Display.positional_iff`: the magnitudes that are shown without an exponent.
* `Calculator.equals_shown`: the evaluation of what is shown.
* `Calculator.memory_of_read`, `Calculator.expression_recalled`: the memory, filled and recalled.
* `Session.shown_again`: what is shown again.
-/

import ScientificCalculator.Proofs.Display.Stable
import ScientificCalculator.Proofs.Session.Recall
import ScientificCalculator.Proofs.Session.Visible

namespace ScientificCalculator

open Binary64 (isFinite isNegative nearest toRat units)
open Numeral (oppositeIf)

section Bounds

variable {number : Float}

/-- **The magnitudes that are shown without an exponent**, as rational numbers. -/
theorem Display.positional_iff : Positional (units number) ↔
    toRat (nearest 1 (10 ^ 6)) ≤ |toRat number| ∧ |toRat number| ≤ 10 ^ 10 := by
  have size : |toRat number| = Decimal.value (units number) := Binary64.abs_toRat number
  have bound : toRat (nearest 1 (10 ^ 6)) = Decimal.value smallestPositional :=
    Decimal.toRat_eq_value (Binary64.isNegative_nearest _ _)
  rw [size, bound, Positional, Decimal.value_le_value_iff, le_largestOrdinary_iff]

end Bounds

namespace Calculator

variable {calculator : Calculator} {number : Float}

theorem resultNumber_of_read (finite : isFinite number = true)
    (read : Numeral.read? calculator.result.toList = some number) :
    calculator.resultNumber = number := by
  rw [resultNumber, read]
  exact if_pos finite

/-- **The evaluation of what is shown without an exponent** shows it again. -/
theorem equals_shown (finite : isFinite number = true)
    (inside : Display.Positional (units number))
    (expression : calculator.expression = String.ofList (Display.text number)) :
    (calculator.act .equals).calculator.result = String.ofList (Display.text number) := by
  obtain ⟨literal, plain, finite', -, signs, text, -⟩ := Display.exists_literal finite inside
  obtain ⟨-, -, -, result, -⟩ :=
    equals_literal plain finite' (expression.trans (congrArg String.ofList signs))
  rw [result, text]

/-- **An empty memory takes up the result** that is a number other than zero. -/
theorem memory_of_read (finite : isFinite number = true) (nonzero : units number ≠ 0)
    (read : Numeral.read? calculator.result.toList = some number) :
    (calculator.perform [.memoryClear, .memoryAdd]).memory = number := by
  have same : (calculator.perform [.memoryClear]).resultNumber = number :=
    resultNumber_of_read finite read
  show 0 + (calculator.perform [.memoryClear]).resultNumber = number
  rw [same, Binary64.zero_add_of_units nonzero]

/-- It is recalled as it is written. -/
theorem expression_recalled (calculator : Calculator) :
    (calculator.perform [.clear, .memoryRecall]).expression =
      String.ofList (Numeral.text calculator.memory) :=
  String.empty_append

/-- What is typed alone is the expression. -/
theorem expression_typed (calculator : Calculator) (text : String) :
    (calculator.perform [.clear, .insert text]).expression = text :=
  String.empty_append

end Calculator

namespace Session

theorem run_actions_calculator (session : Session) (list : List Action) :
    (session.run (.actions list)).calculator = session.calculator.perform list :=
  foldl_act_calculator session list

section Again

variable {number : Float}

/-- **What is shown again.** A number from `10 ^ (-6)` up to `10 ^ 10` in magnitude is shown as an
expression that has a value in both modes: the number that the text is read as, which is shown as
the same text. A session shows this text when it is typed and evaluated, and when an entry with it is
taken from the history and evaluated. While it is shown, an empty memory takes up the number that it
stands for, recalls it as the same text, and shows it again when this is evaluated. -/
theorem shown_again (finite : isFinite number = true)
    (least : toRat (nearest 1 (10 ^ 6)) ≤ |toRat number|) (most : |toRat number| ≤ 10 ^ 10) :
    let shown := String.ofList (Display.text number)
    ∃ again, Numeral.read? (Display.text number) = some again ∧
      Display.text again = Display.text number ∧
      (∀ mode, ∃ evaluation, evaluate shown mode = .ok (some evaluation) ∧
        evaluation.value = again) ∧
      ∀ session : Session,
        (session.run (.actions [.clear, .insert shown, .equals])).calculator.result = shown ∧
        (∀ index entry, session.calculator.history.get? index = some entry →
          entry.result = shown →
          (session.run (.actions [.reuse index, .equals])).calculator.result = shown) ∧
        (session.calculator.result = shown →
          let stored := session.run (.actions [.memoryClear, .memoryAdd])
          let recalled := stored.run (.actions [.clear, .memoryRecall])
          stored.calculator.memory = again ∧ recalled.calculator.expression = shown ∧
            (recalled.run (.actions [.equals])).calculator.result = shown) := by
  intro shown
  have inside := Display.positional_iff.mpr ⟨least, most⟩
  obtain ⟨literal, plain, finite', nonzero, signs, text, written⟩ :=
    Display.exists_literal finite inside
  have read : Numeral.read? (Display.text number) =
      some (oppositeIf (isNegative number) literal.toFloat) := by
    rw [signs, Numeral.read?_literal plain]
  rw [← Display.isFinite_oppositeIf (isNegative number)] at finite'
  rw [← Display.units_oppositeIf (isNegative number)] at nonzero
  refine ⟨_, read, text, fun mode => ?_, fun session => ⟨?_, fun index entry found same => ?_,
    fun result => ?_⟩⟩
  · have value := Evaluation.evaluate_literal plain (isNegative number) mode
    rwa [← signs] at value
  · rw [run_actions_calculator]
    exact Calculator.equals_shown finite inside (Calculator.expression_typed _ shown)
  · have reused : (session.calculator.reuse index).expression = shown := by
      rw [Calculator.reuse_of_get? found, same]
    rw [run_actions_calculator]
    exact Calculator.equals_shown finite inside reused
  · have taken : Numeral.read? session.calculator.result.toList =
        some (oppositeIf (isNegative number) literal.toFloat) := by
      rw [result, String.toList_ofList, read]
    have memory := Calculator.memory_of_read finite' nonzero taken
    have recalled := Calculator.expression_recalled
      (session.calculator.perform [.memoryClear, .memoryAdd])
    rw [memory, written] at recalled
    simp only [run_actions_calculator]
    exact ⟨memory, recalled, Calculator.equals_shown finite inside recalled⟩

/-- A third is shown with ten decimals, which are read as another number and shown again. -/
theorem shown_again_third :
    let number := nearest 1 3
    isFinite number = true ∧ toRat (nearest 1 (10 ^ 6)) ≤ |toRat number| ∧
      |toRat number| ≤ 10 ^ 10 ∧ Display.text number = "0.3333333333".toList ∧
      ∃ again, Numeral.read? "0.3333333333".toList = some again ∧ again ≠ number ∧
        Display.text again = "0.3333333333".toList ∧
        ∃ evaluation, evaluate "0.3333333333" .degrees = .ok (some evaluation) ∧
          evaluation.value = again := by
  intro number
  have finite : isFinite number = true := by decide +kernel
  have written : Display.text number = "0.3333333333".toList := by decide +kernel
  have other : Numeral.read? "0.3333333333".toList ≠ some number := by decide +kernel
  have positional : Display.Positional (units number) :=
    ⟨by decide +kernel, by decide +kernel⟩
  obtain ⟨least, most⟩ := Display.positional_iff.mp positional
  obtain ⟨again, read, shown, value, -⟩ := shown_again finite least most
  rw [written] at read shown
  obtain ⟨evaluation, accepted, equal⟩ := value .degrees
  refine ⟨finite, least, most, written, again, read, ?_, shown, evaluation, ?_, equal⟩
  · rintro rfl
    exact other read
  · rwa [written] at accepted

end Again

end Session

end ScientificCalculator
