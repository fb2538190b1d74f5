/-
**A result that is used again.**

The result of an entry becomes the expression as it is shown. Shown without an exponent it is a
literal, perhaps with a minus sign, and its evaluation is the number that was shown. Shown with an
exponent it is no expression, although it stands for a number: its evaluation fails.

* `Calculator.equals_of_ok`, `Calculator.equals_of_error`: the evaluation of an expression.
* `Calculator.equals_literal`, `Calculator.equals_scaled`: the two kinds of numerals, evaluated.
* `Session.RecordedIn.exists_shape`: the result of an entry that was computed.
* `Session.recalled_evaluated`: the evaluation of a result that was taken from the history.
-/

import ScientificCalculator.Proofs.Display.Shape
import ScientificCalculator.Proofs.Evaluation.Numeral
import ScientificCalculator.Proofs.Session.Computed

namespace ScientificCalculator

open Numeral (oppositeIf signed)

section Evaluations

variable {calculator : Calculator} {index : Nat} {entry : Entry} {evaluation : Evaluation}
  {fault : Fault}

theorem Calculator.reuse_of_get? (found : calculator.history.get? index = some entry) :
    calculator.reuse index =
      { calculator with expression := entry.result, result := entry.result } := by
  rw [reuse, found]

/-- A value that is found is presented for the expression. -/
theorem Calculator.equals_of_ok
    (accepted : evaluate calculator.expression calculator.mode = .ok (some evaluation)) :
    (calculator.act .equals).calculator.expression = "" ∧
      (calculator.act .equals).calculator.result =
        String.ofList (Display.text evaluation.value) ∧
      (calculator.act .equals).calculator.history =
        calculator.history.record
          ⟨calculator.expression, String.ofList (Display.text evaluation.value)⟩ := by
  have presented : (calculator.act .equals).calculator = calculator.present evaluation := by
    show calculator.equals.calculator = _
    rw [equals, accepted]
  rw [presented]
  exact ⟨rfl, rfl, rfl⟩

/-- A refusal shows a failure, and nothing is recorded. -/
theorem Calculator.equals_of_error
    (refused : evaluate calculator.expression calculator.mode = .error fault) :
    (calculator.act .equals).calculator.expression = calculator.expression ∧
      (calculator.act .equals).calculator.result = String.ofList Display.failure ∧
      (calculator.act .equals).calculator.history = calculator.history := by
  have kept : (calculator.act .equals).calculator = calculator.refuse := by
    show calculator.equals.calculator = _
    rw [equals, refused]
  rw [kept]
  exact ⟨rfl, rfl, rfl⟩

variable {literal : Literal} (plain : literal.Plain) {negative : Bool}

include plain

/-- **A literal with its sign is evaluated to the number it stands for**, which is no failure if the
literal is finite. -/
theorem Calculator.equals_literal (finite : Binary64.isFinite literal.toFloat = true)
    (expression : calculator.expression = String.ofList (signed negative literal.text)) :
    ∃ evaluation, evaluate calculator.expression calculator.mode = .ok (some evaluation) ∧
      evaluation.value = oppositeIf negative literal.toFloat ∧
      (calculator.act .equals).calculator.result =
        String.ofList (Display.text (oppositeIf negative literal.toFloat)) ∧
      (calculator.act .equals).calculator.result ≠ "Error" := by
  obtain ⟨evaluation, accepted, value⟩ :=
    Evaluation.evaluate_literal plain negative calculator.mode
  rw [← expression] at accepted
  have result : (calculator.act .equals).calculator.result =
      String.ofList (Display.text (oppositeIf negative literal.toFloat)) := by
    rw [(equals_of_ok accepted).2.1, value]
  have number : Binary64.isFinite (oppositeIf negative literal.toFloat) = true := by
    cases negative with
    | true => rwa [oppositeIf, if_pos rfl, Binary64.isFinite_neg]
    | false => exact finite
  refine ⟨evaluation, accepted, value, result, ?_⟩
  rw [result, ne_eq, Display.ofList_text_eq_iff, number]
  decide

/-- **A numeral with an exponent fails to be evaluated.** -/
theorem Calculator.equals_scaled {exponent : List Char} (integer : Numeral.IsExponent exponent)
    (expression : calculator.expression =
      String.ofList (signed negative (literal.text ++ 'e' :: exponent))) :
    evaluate calculator.expression calculator.mode = .error (.malformed .adjacentValues) ∧
      (calculator.act .equals).calculator.result = "Error" := by
  have refused := Evaluation.evaluate_scaled plain integer negative calculator.mode
  rw [← expression] at refused
  exact ⟨refused, (equals_of_error refused).2.1⟩

end Evaluations

namespace Session

section Results

variable {session : Session} {steps : List Command} {entry : Entry}

/-- **The result of an entry that was computed** is a failure, or a magnitude with its sign. -/
theorem RecordedIn.exists_shape (recorded : RecordedIn session steps entry)
    (shown : entry.result ≠ "Error") :
    ∃ negative digits, Display.Shape digits ∧
      entry.result = String.ofList (signed negative digits) := by
  obtain ⟨before, after, -, found⟩ := recorded
  obtain ⟨-, evaluation, -, rfl⟩ := Calculator.recorded?_eq_some_iff.mp found
  have finite : Binary64.isFinite evaluation.value = true :=
    (Bool.not_eq_false _).mp fun infinite => shown (Display.ofList_text_eq_iff.mpr infinite)
  obtain ⟨negative, digits, shape, text⟩ := Display.exists_shape finite
  exact ⟨negative, digits, shape, congrArg String.ofList text⟩

end Results

section Recall

variable {mode : AngleMode} {storage : Storage} {commands : List Command} {index : Nat}
  {entry : Entry}

/-- **The evaluation of a result that was taken from the history**, in a session that starts with
nothing stored and in which nothing is recorded but by evaluation. The result becomes the expression
and stands for a number, be it shown with an exponent or not. Without one the expression has this
number as its value, which is shown again and is no failure. With one the expression is refused, for
the constant `e` in it is a second value, and a failure is shown. -/
theorem recalled_evaluated (nothing : storage.load.entries = [])
    (kept : ∀ entry, .record entry ∉ commands)
    (found : ((start mode storage).runAll commands).calculator.history.get? index = some entry)
    (shown : entry.result ≠ "Error") :
    let recalled := ((start mode storage).runAll commands).act (.reuse index)
    recalled.calculator.expression = entry.result ∧ recalled.calculator.result = entry.result ∧
    ∃ number, Numeral.read? entry.result.toList = some number ∧
      ('e' ∉ entry.result.toList →
        ∃ evaluation,
          evaluate recalled.calculator.expression recalled.calculator.mode =
            .ok (some evaluation) ∧
          evaluation.value = number ∧
          (recalled.act .equals).calculator.result = String.ofList (Display.text number) ∧
          (recalled.act .equals).calculator.result ≠ "Error") ∧
      ('e' ∈ entry.result.toList →
        evaluate recalled.calculator.expression recalled.calculator.mode =
          .error (.malformed .adjacentValues) ∧
        (recalled.act .equals).calculator.result = "Error") := by
  intro recalled
  have member : entry ∈ ((start mode storage).runAll commands).calculator.history.entries :=
    List.mem_of_getElem? found
  have recorded := (runAll_accounted (start_accounted nothing) kept).shown entry member
  obtain ⟨negative, digits, shape, result⟩ := recorded.exists_shape shown
  have reused : recalled.calculator = Calculator.reuse _ index := act_calculator _ (.reuse index)
  rw [Calculator.reuse_of_get? found, result] at reused
  rw [act_calculator recalled .equals]
  generalize recalled.calculator = calculator at reused
  have expression : calculator.expression = String.ofList (signed negative digits) := by rw [reused]
  have taken : calculator.result = String.ofList (signed negative digits) := by rw [reused]
  rw [result, String.toList_ofList]
  cases shape with
  | plain plain finite =>
    exact ⟨expression, taken, _, Numeral.read?_literal plain negative,
      fun _ => Calculator.equals_literal plain finite expression,
      fun letter => absurd letter (Numeral.letter_notMem_literal negative plain)⟩
  | scaled plain integer =>
    obtain ⟨number, read⟩ := Numeral.exists_read?_scaled plain integer negative
    exact ⟨expression, taken, number, read,
      fun none => absurd (Numeral.letter_mem_scaled negative _ _) none,
      fun _ => Calculator.equals_scaled plain integer expression⟩

/-- A difference that is taken from the history in the other mode. -/
theorem recalled_evaluated_difference :
    let commands := [.actions (Action.enter "2-14.5"), .actions [.toggleMode]]
    let recalled := ((start .degrees .memory).runAll commands).act (.reuse 0)
    (∀ entry, .record entry ∉ commands) ∧
      ((start .degrees .memory).runAll commands).calculator.history.get? 0 =
        some ⟨"2-14.5", "-12.5"⟩ ∧
      ∃ evaluation, evaluate "-12.5" .radians = .ok (some evaluation) ∧
        Numeral.read? "-12.5".toList = some evaluation.value ∧
        (recalled.act .equals).calculator.result =
          String.ofList (Display.text evaluation.value) ∧
        (recalled.act .equals).calculator.result ≠ "Error" := by
  intro commands recalled
  have kept : ∀ entry, .record entry ∉ commands := by simp [commands]
  have found : ((start .degrees .memory).runAll commands).calculator.history.get? 0 =
      some ⟨"2-14.5", "-12.5"⟩ := by decide +kernel
  obtain ⟨expression, -, number, read, accepted, -⟩ :=
    recalled_evaluated rfl kept found (by decide)
  obtain ⟨evaluation, value, rfl, result, right⟩ := accepted (by decide)
  have mode : recalled.calculator.mode = .radians := by decide +kernel
  rw [expression, mode] at value
  exact ⟨kept, found, evaluation, value, read, result, right⟩

/-- **A result that is shown with an exponent is not evaluated again.** -/
theorem recalled_exponent_refused :
    let session := (start .degrees .memory).runAll [.actions (Action.enter "100000000000")]
    let recalled := session.act (.reuse 0)
    session.calculator.history.get? 0 = some ⟨"100000000000", "1.000000e+11"⟩ ∧
      recalled.calculator.expression = "1.000000e+11" ∧
      Numeral.read? "1.000000e+11".toList = some (Binary64.nearest (10 ^ 11) 1) ∧
      evaluate "1.000000e+11" .degrees = .error (.malformed .adjacentValues) ∧
      (recalled.act .equals).calculator.result = "Error" := by
  decide +kernel

end Recall

end Session

end ScientificCalculator
