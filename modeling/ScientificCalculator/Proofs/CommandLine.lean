/-
**The command line and the calculator agree.**

Both ask the same evaluation, and both show its value, or a failure, as text. The command line prints
the line that a calculator shows for the expression. It takes its exit code from this text, which is
the word for a failure exactly when there is no finite value, as no finite number is shown with
letters like these.

* `Calculator.result_equals`: the calculator shows what the command line shows.
* `CommandLine.shown?_eq_none_iff`, `CommandLine.shown?_eq_failure_iff`: when nothing is shown, and
  when a failure is.
* `CommandLine.evaluateOnce_agrees`: one evaluation on the command line and one in a session.
-/

import ScientificCalculator.CommandLine
import ScientificCalculator.Proofs.Display.Characters
import ScientificCalculator.Proofs.Evaluation.Outcome
import ScientificCalculator.Proofs.Session.Visible

namespace ScientificCalculator

open Binary64 (isFinite)
open Evaluation (isBlank)

namespace CommandLine

section Shown

variable {expression : String} {mode : AngleMode}

/-- **Nothing is shown for a blank expression**, and for no other. -/
theorem shown?_eq_none_iff :
    shown? expression mode = none ↔ isBlank expression.toList = true := by
  rw [Evaluation.isBlank_iff, ← (Evaluation.evaluate_outcomes expression mode).1]
  unfold shown?
  split <;> rename_i outcome <;> simp [outcome]

/-- **A failure is shown** for an expression that is refused or has no finite value. -/
theorem shown?_eq_failure_iff :
    shown? expression mode = some Display.failure ↔
      (∃ fault, evaluate expression mode = .error fault) ∨
        ∃ evaluation, evaluate expression mode = .ok (some evaluation) ∧
          isFinite evaluation.value = false := by
  unfold shown?
  split
  · rename_i blank
    simp [blank]
  · rename_i evaluation accepted
    simp [accepted, Display.text_eq_failure_iff]
  · rename_i fault refused
    simp [refused]

/-- What is shown stands on one line. -/
theorem newline_notMem {text : List Char} (shown : shown? expression mode = some text) :
    '\n' ∉ text := by
  unfold shown? at shown
  split at shown
  · cases shown
  · obtain rfl := Option.some.inj shown
    exact Display.notMem_text rfl (by decide) _
  · obtain rfl := Option.some.inj shown
    decide

end Shown

end CommandLine

namespace Calculator

open CommandLine (shown?)

variable (calculator : Calculator)

/-- **The calculator shows what the command line shows**, and goes on showing what it showed before
when this is nothing. -/
theorem result_equals : (calculator.act .equals).calculator.result =
    ((shown? calculator.expression calculator.mode).map String.ofList).getD calculator.result := by
  show calculator.equals.calculator.result = _
  rw [equals, shown?]
  cases evaluate calculator.expression calculator.mode with
  | error fault => rfl
  | ok found =>
    cases found with
    | none => rfl
    | some evaluation => rfl

/-- A blank expression changes nothing. -/
theorem act_equals_of_blank (blank : isBlank calculator.expression.toList = true) :
    calculator.act .equals = ⟨calculator, false⟩ := by
  have outcome : evaluate calculator.expression calculator.mode = .ok none := if_pos blank
  show calculator.equals = _
  rw [equals, outcome]

end Calculator

namespace CommandLine

section Agreement

/-- **The command line and the calculator agree.** For a blank expression nothing is printed, and the
evaluation changes nothing in a session just started. For every other one exactly the line is printed
that the session shows once the expression is typed and evaluated, and the exit code tells a failure
exactly when the expression is refused or its value is not finite. -/
theorem evaluateOnce_agrees (expression : String) (mode : AngleMode) (storage : Storage) :
    let typed := (Session.start mode storage).act (.insert expression)
    let evaluated := typed.act .equals
    let outcome := evaluateOnce expression mode
    (isBlank expression.toList = true ∧ outcome = ⟨0, ""⟩ ∧ evaluated = typed) ∨
    (isBlank expression.toList = false ∧
      outcome.printed = evaluated.calculator.result ++ "\n" ∧
      '\n' ∉ evaluated.calculator.result.toList ∧
      (outcome.code = 0 ∨ outcome.code = 1) ∧
      (outcome.code = 1 ↔ (∃ fault, evaluate expression mode = .error fault) ∨
        ∃ evaluation, evaluate expression mode = .ok (some evaluation) ∧
          isFinite evaluation.value = false)) := by
  intro typed evaluated outcome
  have held : typed.calculator.expression = expression := String.empty_append
  have same : typed.calculator.mode = mode := rfl
  have result := typed.calculator.result_equals
  rw [← Session.act_calculator, held, same] at result
  cases shown : shown? expression mode with
  | none =>
    have blank := shown?_eq_none_iff.mp shown
    have printed : outcome = ⟨0, ""⟩ := by simp only [outcome, evaluateOnce, shown]
    have kept : evaluated = typed := by
      show typed.act .equals = typed
      rw [Session.act, Calculator.act_equals_of_blank _ (held ▸ blank)]
      rfl
    exact Or.inl ⟨blank, printed, kept⟩
  | some text =>
    have solid : isBlank expression.toList = false := by
      refine Bool.eq_false_iff.mpr fun blank => ?_
      rw [shown?_eq_none_iff.mpr blank] at shown
      cases shown
    have printed : outcome =
        ⟨if text = Display.failure then 1 else 0, String.ofList text ++ "\n"⟩ := by
      simp only [outcome, evaluateOnce, shown]
    have line : evaluated.calculator.result = String.ofList text := by
      rw [result, shown]
      rfl
    rw [← shown?_eq_failure_iff, shown, Option.some.injEq, line, String.toList_ofList, printed]
    refine Or.inr ⟨solid, rfl, newline_notMem shown, ?_⟩
    -- The exit code is taken from the text, and no number is shown as the failure.
    by_cases failed : text = Display.failure <;> simp [failed]

end Agreement

end CommandLine

end ScientificCalculator
