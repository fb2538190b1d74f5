/-
**The memory.**

What the memory takes up or gives away is the result where it is a finite number, and zero for every
other text, be it typed, computed or loaded from a file. So the memory is at every moment a number,
perhaps an infinite one, and never the negative zero. It is recalled as the text of this number: a
finite memory is evaluated to itself, with all of its digits and its sign, and an infinite one is no
expression, so that a failure is shown in its place.

* `Calculator.act_memory_cases`: all that an action does to the memory.
* `Session.memory_is_total`: the memory after every run.
* `Evaluation.evaluate_text`, `Evaluation.evaluate_text_infinite`: the value of a written number.
* `Session.memory_recalled`: the memory, recalled and evaluated.
-/

import ScientificCalculator.Proofs.Binary64.Sum
import ScientificCalculator.Proofs.Numeral.Text
import ScientificCalculator.Proofs.Session.Again

namespace ScientificCalculator

open Binary64 (IsTotal isFinite isNaN isNegative nearest units)
open Numeral (oppositeIf signed)

namespace Calculator

section Actions

variable (calculator : Calculator)

/-- Only a finite number is added to the memory or subtracted from it. -/
theorem isFinite_resultNumber : isFinite calculator.resultNumber = true := by
  unfold resultNumber
  split
  · split
    · assumption
    · exact Binary64.isFinite_zero
  · exact Binary64.isFinite_zero

/-- **All that an action does to the memory**: it leaves it, clears it, or adds or subtracts the
result as a number. -/
theorem act_memory_cases (action : Action) :
    (calculator.act action).calculator.memory = calculator.memory ∨
      (calculator.act action).calculator.memory = 0 ∨
      (calculator.act action).calculator.memory = calculator.memory + calculator.resultNumber ∨
      (calculator.act action).calculator.memory = calculator.memory - calculator.resultNumber := by
  cases action with
  | memoryClear => exact Or.inr (Or.inl rfl)
  | memoryAdd => exact Or.inr (Or.inr (Or.inl rfl))
  | memorySubtract => exact Or.inr (Or.inr (Or.inr rfl))
  | equals =>
    left
    show calculator.equals.calculator.memory = calculator.memory
    unfold equals
    split <;> rfl
  | reuse index =>
    left
    show (calculator.reuse index).memory = calculator.memory
    unfold reuse
    split <;> rfl
  | _ => exact Or.inl rfl

/-- **An action keeps the memory a total.** -/
theorem act_memory_isTotal (isTotal : IsTotal calculator.memory) (action : Action) :
    IsTotal (calculator.act action).calculator.memory := by
  have finite := calculator.isFinite_resultNumber
  rcases calculator.act_memory_cases action with kept | cleared | added | subtracted
  · rwa [kept]
  · rw [cleared]
    exact Binary64.isTotal_zero
  · rw [added]
    exact isTotal.add finite
  · rw [subtracted]
    exact isTotal.sub finite

end Actions

end Calculator

namespace Session

section Runs

/-- **The memory is a number and not the negative zero** in every run, from any storage and whatever
a file holds at first or entries are recorded. What is added to it or subtracted from it at any
moment is a finite number. -/
theorem memory_is_total (mode : AngleMode) (storage : Storage) (commands : List Command) :
    let session := (start mode storage).runAll commands
    isNaN session.calculator.memory = false ∧ session.calculator.memory ≠ -0 ∧
      isFinite session.calculator.resultNumber = true ∧
      (session.act .memoryAdd).calculator.memory =
        session.calculator.memory + session.calculator.resultNumber ∧
      (session.act .memorySubtract).calculator.memory =
        session.calculator.memory - session.calculator.resultNumber := by
  intro session
  have isTotal : IsTotal session.calculator.memory := by
    refine runAll_induction (motive := fun _ here => IsTotal here.calculator.memory)
      Binary64.isTotal_zero ?_ ?_ ?_ ?_
    · intro _ here action reached
      rw [act_calculator]
      exact here.calculator.act_memory_isTotal reached action
    · exact fun _ reached => reached
    · intro _ here reached
      rwa [persist_eq]
    · exact fun _ => Binary64.isTotal_zero
  exact ⟨isTotal.real, isTotal.signed, session.calculator.isFinite_resultNumber, rfl, rfl⟩

end Runs

end Session

section Numbers

variable {number : Float}

/-- **A finite number is the value of its text.** -/
theorem Evaluation.evaluate_text (finite : isFinite number = true) (mode : AngleMode) :
    ∃ evaluation, evaluate (String.ofList (Numeral.text number)) mode = .ok (some evaluation) ∧
      evaluation.value = number := by
  obtain ⟨written, value⟩ := Numeral.text_eq_signed finite
  obtain ⟨evaluation, accepted, equal⟩ :=
    evaluate_literal (Numeral.plain_literal (units number)) (isNegative number) mode
  exact ⟨evaluation, by rw [written, accepted], equal.trans value⟩

/-- **The text of another number is no expression.** -/
theorem Evaluation.evaluate_text_infinite (infinite : isFinite number = false) (mode : AngleMode) :
    ∃ fault, evaluate (String.ofList (Numeral.text number)) mode = .error fault := by
  obtain ⟨negative, word, written, member⟩ : ∃ negative word,
      Numeral.text number = signed negative word ∧ word ∈ ["NaN".toList, "inf".toList] := by
    rw [Numeral.text, infinite, if_neg Bool.false_ne_true]
    cases isNaN number with
    | true => exact ⟨false, _, rfl, List.mem_cons_self⟩
    | false => exact ⟨isNegative number, "inf".toList, rfl, .tail _ List.mem_cons_self⟩
  have nameless : ∀ word ∈ ["NaN".toList, "inf".toList], word ≠ [] ∧
      (∀ letter ∈ word, letter.isAlpha = true) ∧ word ≠ ['e'] ∧
      Func.ofName? (String.ofList word) = none := by
    simp only [List.mem_cons, List.not_mem_nil, or_false]
    rintro _ (rfl | rfl)
    · exact ⟨by decide, List.all_eq_true.mp rfl, by decide, by decide⟩
    · exact ⟨by decide, List.all_eq_true.mp rfl, by decide, by decide⟩
  obtain ⟨present, letters, other, unknown⟩ := nameless word member
  rw [written]
  exact ⟨_, evaluate_word present letters other unknown negative mode⟩

end Numbers

namespace Calculator

section Recall

variable {calculator : Calculator}

/-- The memory is recalled into an empty expression as it is written. -/
theorem perform_memoryRecall (blank : calculator.expression = "") :
    let recalled := calculator.perform [.memoryRecall]
    recalled.expression = String.ofList (Numeral.text calculator.memory) ∧
      recalled.mode = calculator.mode ∧ recalled.history = calculator.history := by
  refine ⟨?_, rfl, rfl⟩
  show (calculator.insert _).expression = _
  rw [insert, blank, String.empty_append]

end Recall

end Calculator

namespace Session

section Recall

/-- **The memory, recalled and evaluated.** Whatever number it is, the result is what is shown for
it. A finite one is written as an expression whose value is this very number, which leaves the
expression empty and goes to the head of the history. Another one is written as a text that is
refused and stays for correction. -/
theorem memory_recalled {session : Session} (blank : session.calculator.expression = "") :
    let memory := session.calculator.memory
    let written := String.ofList (Numeral.text memory)
    let shown := String.ofList (Display.text memory)
    let recalled := (session.run (.actions [.memoryRecall, .equals])).calculator
    recalled.result = shown ∧
      (isFinite memory = true →
        (∃ evaluation, evaluate written session.calculator.mode = .ok (some evaluation) ∧
          evaluation.value = memory) ∧
        recalled.expression = "" ∧
        recalled.history.entries =
          (⟨written, shown⟩ :: session.calculator.history.entries).take 10) ∧
      (isFinite memory = false →
        (∃ fault, evaluate written session.calculator.mode = .error fault) ∧
        recalled.expression = written ∧ recalled.history = session.calculator.history) := by
  intro memory written shown recalled
  obtain ⟨expression, mode, history⟩ := Calculator.perform_memoryRecall blank
  have step : recalled =
      ((session.calculator.perform [.memoryRecall]).act .equals).calculator :=
    run_actions_calculator session [.memoryRecall, .equals]
  rw [step]
  generalize session.calculator.perform [.memoryRecall] = before at expression mode history
  cases finite : isFinite memory with
  | true =>
    obtain ⟨evaluation, accepted, value⟩ := Evaluation.evaluate_text finite before.mode
    rw [← expression] at accepted
    obtain ⟨empty, result, recorded⟩ := Calculator.equals_of_ok accepted
    rw [value] at result recorded
    rw [expression, mode] at accepted
    rw [expression, history] at recorded
    refine ⟨result, fun _ => ⟨⟨evaluation, accepted, value⟩, empty, ?_⟩, nofun⟩
    exact congrArg History.entries recorded
  | false =>
    obtain ⟨fault, refused⟩ := Evaluation.evaluate_text_infinite finite before.mode
    have failure : Display.text memory = Display.failure := Display.text_eq_failure_iff.mpr finite
    rw [← expression] at refused
    obtain ⟨kept, result, same⟩ := Calculator.equals_of_error refused
    rw [expression, mode] at refused
    refine ⟨?_, nofun, fun _ => ⟨⟨fault, refused⟩, kept.trans expression, same.trans history⟩⟩
    rw [result, ← failure]

/-- A small number is shown with an exponent, which would be refused, and recalled without one. -/
theorem memory_recalled_small :
    let session : Session :=
      ⟨{ Calculator.start .degrees .empty with memory := -nearest 3 20000000000 }, .memory⟩
    let recalled := (session.run (.actions [.memoryRecall, .equals])).calculator
    session.calculator.expression = "" ∧ recalled.result = "-1.5e-10" ∧
      (∃ evaluation, evaluate "-0.00000000015" .degrees = .ok (some evaluation) ∧
        evaluation.value = -nearest 3 20000000000) ∧
      recalled.expression = "" ∧
      recalled.history.entries = [⟨"-0.00000000015", "-1.5e-10"⟩] := by
  intro session recalled
  have finite : isFinite (-nearest 3 20000000000) = true := by decide +kernel
  have written : Numeral.text (-nearest 3 20000000000) = "-0.00000000015".toList := by
    decide +kernel
  have shown : Display.text (-nearest 3 20000000000) = "-1.5e-10".toList := by decide +kernel
  have blank : session.calculator.expression = "" := rfl
  obtain ⟨result, accepted, -⟩ := memory_recalled blank
  obtain ⟨value, empty, entries⟩ := accepted finite
  have memory : session.calculator.memory = -nearest 3 20000000000 := rfl
  rw [memory, shown] at result
  rw [memory, written] at value
  rw [memory, written, shown] at entries
  exact ⟨blank, result, value, empty, entries⟩

end Recall

end Session

end ScientificCalculator
