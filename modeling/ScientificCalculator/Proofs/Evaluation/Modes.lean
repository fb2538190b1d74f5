/-
**What depends on the angle mode.**

The mode is asked for only when a tree has been made, and then only by the functions that convert
angles. So a text is blank, refused or accepted in both modes alike, with the same fault or the same
derivation. As a tree has no functions but those among the tokens it was made from, the two values
of a text without such functions are the same double.

* `Func.apply_eq_apply`: the functions that do not convert angles.
* `Expr.eval_eq_eval`: the trees without the others have one value.
* `ofExpression_modes`: what is known of a text in both modes at once.
* `evaluate_modes`: the outcomes of a text in both modes.
-/

import ScientificCalculator.Proofs.Evaluation.Outcome

namespace ScientificCalculator

/-- A function that does not convert angles has the same value in both modes. -/
theorem Func.apply_eq_apply {func : Func} (plain : func.isTrigonometric = false)
    (mode other : AngleMode) (argument : Float) :
    func.apply mode argument = func.apply other argument := by
  cases func with
  | log10 => rfl
  | ln => rfl
  | sqrt => rfl
  | _ => cases plain

/-- **A tree that converts no angles has one value.** -/
theorem Expr.eval_eq_eval {tree : Expr}
    (plain : ∀ func, .func func ∈ tree.rpn → func.isTrigonometric = false)
    (mode other : AngleMode) : tree.eval mode = tree.eval other := by
  induction tree with
  | num value => rfl
  | neg operand ih =>
    have inside := ih fun func member => plain func (List.mem_append_left _ member)
    rw [eval, eval, inside]
  | call func argument ih =>
    have inside := ih fun func member => plain func (List.mem_append_left _ member)
    have own := plain func (List.mem_append_right _ List.mem_cons_self)
    rw [eval, eval, inside, Func.apply_eq_apply own mode other]
  | bin operation left right leftward rightward =>
    have lefts := leftward fun func member =>
      plain func (List.mem_append_left _ (List.mem_append_left _ member))
    have rights := rightward fun func member =>
      plain func (List.mem_append_left _ (List.mem_append_right _ member))
    rw [eval, eval, lefts, rights]

namespace Evaluation

open Rpn (maximumDepth)

section Modes

/-- **What is known of a text in both modes at once**: the fault for which it is refused, or the tree
that is evaluated and the derivation. -/
theorem ofExpression_modes (text : List Char) :
    (∃ fault, ∀ mode, ofExpression text mode = .error fault) ∨
      ∃ canonical written tree, tokens canonical = .ok written ∧ Derives .sum written tree ∧
        ∀ mode, ofExpression text mode = .ok ⟨tree.eval mode, steps canonical written tree⟩ := by
  cases made : canonicalText text with
  | error fault => exact Or.inl ⟨fault, fun mode => by rw [ofExpression, made]; rfl⟩
  | ok canonical =>
    cases read : tokens canonical with
    | error fault =>
      refine Or.inl ⟨fault, fun mode => ?_⟩
      simp only [ofExpression, made, read, bind, Except.bind]
    | ok written =>
      rcases postfixOrder_cases written with ⟨tree, derivation, -⟩ | ⟨-, cause, malformed⟩
      · have outcome := ofExpression_of_derives made read derivation
        rcases Nat.lt_or_ge maximumDepth tree.depth with deep | low
        · refine Or.inl ⟨.malformed .tooDeep, fun mode => ?_⟩
          rw [outcome, Rpn.depthGuarded_of_lt deep]
        · refine Or.inr ⟨canonical, written, tree, read, derivation, fun mode => ?_⟩
          rw [outcome, Rpn.depthGuarded_of_le low]
      · refine Or.inl ⟨.malformed cause, fun mode => ?_⟩
        simp only [ofExpression, made, read, malformed, bind, Except.bind]

/-- **Only trigonometry depends on the mode.** In both modes a text is blank, or is refused for the
same fault, or has a value with the same derivation; and the values are the same double if no
function among the tokens of the canonical text converts angles. -/
theorem evaluate_modes (text : String) :
    (∀ mode, evaluate text mode = .ok none) ∨
      (∃ fault, ∀ mode, evaluate text mode = .error fault) ∨
      ∃ (value : AngleMode → Float) (derivation : Derivation) (written : List Token),
        (∀ mode, evaluate text mode = .ok (some ⟨value mode, derivation⟩)) ∧
        tokens derivation.canonical.toList = .ok written ∧
        ((∀ func, .func func ∈ written → func.isTrigonometric = false) →
          value .degrees = value .radians) := by
  by_cases blank : isBlank text.toList = true
  · exact Or.inl fun mode => if_pos blank
  · have outcome (mode : AngleMode) :
        evaluate text mode = (ofExpression text.toList mode).map some := if_neg blank
    refine Or.inr ?_
    rcases ofExpression_modes text.toList with ⟨fault, refused⟩ |
      ⟨canonical, written, tree, read, derivation, accepted⟩
    · refine Or.inl ⟨fault, fun mode => ?_⟩
      rw [outcome, refused]
      rfl
    · refine Or.inr ⟨fun mode => tree.eval mode, steps canonical written tree, written, ?_, ?_, ?_⟩
      · intro mode
        rw [outcome, accepted]
        rfl
      · rwa [steps, String.toList_ofList]
      · intro plain
        exact Expr.eval_eq_eval
          (fun func member => plain func (derivation.mem_of_mem_rpn member nofun)) _ _

end Modes

end Evaluation

end ScientificCalculator
