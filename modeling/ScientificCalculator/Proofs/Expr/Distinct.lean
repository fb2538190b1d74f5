/-
**Distinct trees have distinct texts.**

The opening of a text tells what kind of tree it is, and behind it the text shows where it ends: a
number in front of the first sign or parenthesis, everything else at the parenthesis that closes it.
So a text is taken apart in one way, although there are no parentheses around a negative number and
the star of a product is the first one of a power.

* `BinOp.sign_append_inj`: the sign of an operation ends in one place.
* `Expr.text_append_inj`: the text of a tree ends in one place, and it is that of one tree.
* `Expr.text_eq_text_iff`: distinct trees have distinct texts.
-/

import ScientificCalculator.Proofs.Expr.Opening

namespace ScientificCalculator

open Binary64 (nearest)
open Text (Stops stops_cons stops_nil)
open Token (isPart)

section Signs

variable {operation other : BinOp} {rest rest' : List Char}

/-- The sign of an operation ends in front of any character but a star. -/
theorem BinOp.sign_append_inj (single : rest.head? ≠ some '*') (single' : rest'.head? ≠ some '*')
    (equal : operation.text.toList ++ rest = other.text.toList ++ rest') :
    operation = other ∧ rest = rest' := by
  have star {more more' : List Char} (single : more'.head? ≠ some '*') : '*' :: more ≠ more' := by
    rintro rfl
    exact single rfl
  cases operation <;> cases other <;> simp_all [text]

end Signs

namespace Expr

section Texts

/-- **The text of a tree ends in one place, and it is that of one tree**, in front of texts that go
on with no number and no name. -/
theorem text_append_inj {first second : Expr} (real : first.IsReal) (real' : second.IsReal)
    {after after' : List Char} (stops : Stops isPart after) (stops' : Stops isPart after')
    (equal : first.text ++ after = second.text ++ after') : first = second ∧ after = after' := by
  -- The second tree has the same opening, so it is of the same kind, with the same number or name.
  induction first generalizing second after after' with
  | num value =>
    obtain ⟨same, behind⟩ := opening_append_inj real real' stops stops' equal
    cases second with
    | num value' => exact ⟨congrArg num (Opening.number.inj same), behind⟩
    | _ => cases same
  | neg operand ih =>
    obtain ⟨same, behind⟩ := opening_append_inj real real' stops stops' equal
    cases second with
    | neg operand' =>
      simp only [enclosed, List.cons_append, List.append_assoc, List.cons.injEq, true_and] at behind
      obtain ⟨rfl, closed⟩ := ih (isReal_neg.mp real) (isReal_neg.mp real') (stops_cons.mpr rfl)
        (stops_cons.mpr rfl) behind
      exact ⟨rfl, (List.cons.inj closed).2⟩
    | _ => cases same
  | call func argument ih =>
    obtain ⟨same, behind⟩ := opening_append_inj real real' stops stops' equal
    cases second with
    | call func' argument' =>
      obtain rfl := Opening.name.inj same
      simp only [enclosed, List.cons_append, List.append_assoc, List.cons.injEq, true_and] at behind
      obtain ⟨rfl, closed⟩ := ih (isReal_call.mp real) (isReal_call.mp real') (stops_cons.mpr rfl)
        (stops_cons.mpr rfl) behind
      exact ⟨rfl, (List.cons.inj closed).2⟩
    | _ => cases same
  | bin operation left right leftward rightward =>
    obtain ⟨same, behind⟩ := opening_append_inj real real' stops stops' equal
    cases second with
    | bin operation' left' right' =>
      obtain ⟨realLeft, realRight⟩ := isReal_bin.mp real
      obtain ⟨realLeft', realRight'⟩ := isReal_bin.mp real'
      simp only [enclosed, List.cons_append, List.append_assoc, List.cons.injEq, true_and] at behind
      obtain ⟨rfl, signs⟩ := leftward realLeft realLeft' (operation.stops_text rfl)
        (operation'.stops_text rfl) behind
      obtain ⟨rfl, rights⟩ := BinOp.sign_append_inj (head?_text_append_ne realRight _)
        (head?_text_append_ne realRight' _) signs
      obtain ⟨rfl, closed⟩ := rightward realRight realRight' (stops_cons.mpr rfl)
        (stops_cons.mpr rfl) rights
      exact ⟨rfl, (List.cons.inj closed).2⟩
    | _ => cases same

/-- **Distinct trees have distinct texts**, whatever their numbers are, the negative zero and the
infinities among them, as long as none of them is a NaN. -/
theorem text_eq_text_iff {first second : Expr} (real : first.IsReal) (real' : second.IsReal) :
    first.text = second.text ↔ first = second := by
  refine ⟨fun equal => ?_, congrArg text⟩
  have appended : first.text ++ [] = second.text ++ [] := congrArg (· ++ []) equal
  exact (text_append_inj real real' stops_nil stops_nil appended).1

/-- A negative zero less a negative infinity, and the same with negations for the signs. -/
theorem text_eq_text_iff_signs :
    let infinity := nearest (10 ^ 400) 1
    let first := bin .sub (num (-nearest 0 1)) (num (-infinity))
    let second := bin .sub (neg (num (nearest 0 1))) (neg (num infinity))
    first.IsReal ∧ second.IsReal ∧ first.text = "(-0--inf)".toList ∧
      second.text = "(-(0)--(inf))".toList ∧ first ≠ second ∧ first.text ≠ second.text := by
  intro infinity first second
  have real : first.IsReal :=
    isReal_bin.mpr ⟨isReal_num.mpr (by decide +kernel), isReal_num.mpr (by decide +kernel)⟩
  have real' : second.IsReal :=
    isReal_bin.mpr ⟨isReal_neg.mpr (isReal_num.mpr (by decide +kernel)),
      isReal_neg.mpr (isReal_num.mpr (by decide +kernel))⟩
  have distinct : first ≠ second := by simp [first, second]
  exact ⟨real, real', by decide +kernel, by decide +kernel, distinct,
    mt (text_eq_text_iff real real').mp distinct⟩

end Texts

end Expr

end ScientificCalculator
