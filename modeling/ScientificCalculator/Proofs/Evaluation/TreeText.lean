/-
**The tree text of an evaluation, evaluated again.**

The text of the tree is canonical text, and it is read as the tree with the minus signs of its bases
in front of the powers. When no power has a negation as its base this is the tree that was
evaluated, else it is another one, which may even be too deep.

* `treeOf`: the tree of canonical text.
* `treeOf_text`: the tree of the text of a tree.
* `hasMagnitudes_of_tokens`: the numbers of a tree that was read.
* `evaluate_tree_text`: what is read from the tree text of an evaluation.
-/

import ScientificCalculator.Proofs.Evaluation.Canonical
import ScientificCalculator.Proofs.Expr.Text

namespace ScientificCalculator.Evaluation

open Binary64 (isFinite nearest)
open Rpn (depthGuarded maximumDepth)

section Tree

/-- The tree of canonical text: its tokens, put in postfix order and built into a tree. -/
def treeOf (canonical : List Char) : Except Fault Expr := do
  let written ← tokens canonical
  let rpn ← postfixOrder written
  Rpn.toExpr rpn

variable {canonical : List Char} {written : List Token} {tree : Expr}

theorem treeOf_of_derives (read : tokens canonical = .ok written)
    (derivation : Derives .sum written tree) : treeOf canonical = depthGuarded tree tree := by
  have ordered := postfixOrder_eq_ok_iff.mpr ⟨tree, derivation, rfl⟩
  simp only [treeOf, read, ordered, bind, Except.bind, Rpn.toExpr_rpn]

/-- **The tree of the text of a tree.** -/
theorem treeOf_text (magnitudes : tree.HasMagnitudes) :
    treeOf tree.text = depthGuarded tree.reread tree.reread := by
  have read : tokens tree.text = .ok tree.written :=
    mapError_eq_ok_iff.mpr (Expr.tokenize_text magnitudes)
  exact treeOf_of_derives read (.loosen (Phrase.sum_le _) tree.derives_written)

/-- **The numbers of a tree that was read** have no sign: they are those of literals. -/
theorem hasMagnitudes_of_tokens (read : tokens canonical = .ok written)
    (derivation : Derives .sum written tree)
    (finite : ∀ value, .num value ∈ written → isFinite value = true) : tree.HasMagnitudes := by
  intro value member
  have inside := derivation.mem_of_mem_rpn member nofun
  have spells := Token.tokenize_eq_ok_iff.mp (mapError_eq_ok_iff.mp read)
  obtain ⟨literal, rfl⟩ := spells.exists_literal inside
  exact ⟨Binary64.isNaN_nearest _ _, Binary64.isNegative_nearest _ _, finite _ inside⟩

theorem depthGuarded_eq_ok_iff {other : Expr} (low : tree.depth ≤ maximumDepth) :
    depthGuarded other other = .ok tree ↔ other = tree := by
  constructor
  · intro accepted
    unfold depthGuarded at accepted
    split at accepted
    · cases accepted
    · exact Except.ok.inj accepted
  · rintro rfl
    exact Rpn.depthGuarded_of_le low _

/-- The numbers of a text whose tokens are known. -/
theorem isFinite_of_all (read : tokens canonical = .ok written)
    (all : (written.all fun | .num value => isFinite value | _ => true) = true) :
    ∀ other, tokens canonical = .ok other →
      ∀ value, .num value ∈ other → isFinite value = true := by
  rintro other same value member
  rw [read] at same
  obtain rfl := Except.ok.inj same
  exact List.all_eq_true.mp all _ member

end Tree

section Accepted

variable {text : String} {mode : AngleMode} {evaluation : Evaluation}

/-- **What is read from the tree text of an evaluation** whose numbers are finite: the tree that was
evaluated, with the minus signs of its bases in front of the powers. It is that tree itself exactly
when none of its powers has a negation as its base. -/
theorem evaluate_tree_text (accepted : evaluate text mode = .ok (some evaluation))
    (finite : ∀ written, tokens evaluation.derivation.canonical.toList = .ok written →
      ∀ value, .num value ∈ written → isFinite value = true) :
    ∃ tree, treeOf evaluation.derivation.canonical.toList = .ok tree ∧
      evaluation.value = tree.eval mode ∧ evaluation.derivation.tree.toList = tree.text ∧
      treeOf evaluation.derivation.tree.toList = depthGuarded tree.reread tree.reread ∧
      (treeOf evaluation.derivation.tree.toList = .ok tree ↔ tree.negatesBase = false) := by
  obtain ⟨canonical, written, tree, -, read, derivation, low, rfl⟩ :=
    evaluate_eq_some_iff.mp accepted
  simp only [steps, String.toList_ofList] at finite ⊢
  have magnitudes := hasMagnitudes_of_tokens read derivation (finite written read)
  have built := treeOf_of_derives read derivation
  rw [Rpn.depthGuarded_of_le low] at built
  refine ⟨tree, built, rfl, rfl, treeOf_text magnitudes, ?_⟩
  rw [treeOf_text magnitudes, depthGuarded_eq_ok_iff low, tree.reread_eq_iff]

/-- A negation is read again as it was where it is an exponent. -/
theorem evaluate_tree_text_root :
    ∃ evaluation tree, evaluate "√(16)-2^-1" .degrees = .ok (some evaluation) ∧
      evaluation.derivation.tree = "(sqrt(16)-(2**-(1)))" ∧
      treeOf evaluation.derivation.tree.toList = .ok tree ∧
      evaluation.value = tree.eval .degrees := by
  have root : Derives .sum [.func .sqrt, .lparen, .num (nearest 16 1), .rparen] _ :=
    .loosen (Phrase.sum_le _) (.call .sqrt (.loosen (Phrase.sum_le _) (.num _)))
  have exponent : Derives .signed [.op .sub, .num (nearest 1 1)] _ :=
    .minus (.loosen (Phrase.le_atom _) (.num _))
  have power := Derives.bin .pow (.num (nearest 2 1)) exponent
  have derivation := Derives.bin .sub root (.loosen (by decide) power)
  have read : tokens "sqrt(16)-2**-1".toList = .ok
      [.func .sqrt, .lparen, .num (nearest 16 1), .rparen, .op .sub, .num (nearest 2 1), .op .pow,
        .op .sub, .num (nearest 1 1)] := by
    decide +kernel
  have accepted : evaluate "√(16)-2^-1" .degrees = .ok (some _) :=
    evaluate_eq_some_iff.mpr ⟨_, _, _, by decide +kernel, read, derivation, by decide +kernel, rfl⟩
  have finite := isFinite_of_all read (by decide +kernel)
  obtain ⟨tree, built, value, -, -, again⟩ := evaluate_tree_text accepted
    (by rw [steps, String.toList_ofList]; exact finite)
  rw [steps, String.toList_ofList, treeOf_of_derives read derivation] at built
  obtain rfl := Except.ok.inj built
  exact ⟨_, _, accepted, by decide +kernel, again.mpr rfl, value⟩

/-- **A negation that is squared is not read again**: its minus sign is read in front of the
square. -/
theorem evaluate_negated_base :
    ∃ evaluation tree other, evaluate "(-2)^2" .degrees = .ok (some evaluation) ∧
      (∀ written, tokens evaluation.derivation.canonical.toList = .ok written →
        ∀ value, .num value ∈ written → isFinite value = true) ∧
      treeOf evaluation.derivation.canonical.toList = .ok tree ∧
      evaluation.value = tree.eval .degrees ∧ evaluation.derivation.tree = "(-(2)**2)" ∧
      treeOf evaluation.derivation.tree.toList = .ok other ∧ other ≠ tree := by
  have negation : Derives .signed [.op .sub, .num (nearest 2 1)] _ :=
    .minus (.loosen (Phrase.le_atom _) (.num _))
  have derivation := Derives.bin .pow (.group (.loosen (Phrase.sum_le _) negation))
    (.loosen (Phrase.le_atom _) (.num (nearest 2 1)))
  have read : tokens "(-2)**2".toList = .ok
      [.lparen, .op .sub, .num (nearest 2 1), .rparen, .op .pow, .num (nearest 2 1)] := by
    decide +kernel
  have accepted : evaluate "(-2)^2" .degrees = .ok (some _) :=
    evaluate_eq_some_iff.mpr ⟨_, _, _, by decide +kernel, read,
      .loosen (Phrase.sum_le _) derivation, by decide +kernel, rfl⟩
  refine ⟨_, .bin .pow (.neg (.num (nearest 2 1))) (.num (nearest 2 1)),
    .neg (.bin .pow (.num (nearest 2 1)) (.num (nearest 2 1))), accepted, ?_, by decide +kernel,
    rfl, by decide +kernel, by decide +kernel, by decide +kernel⟩
  rw [steps, String.toList_ofList]
  exact isFinite_of_all read (by decide +kernel)

end Accepted

end ScientificCalculator.Evaluation
