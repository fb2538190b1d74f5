/-
**The outcomes of an evaluation.**

A text is read to tokens, the tokens to at most one tree of the grammar, and the tree to a value
when it is not too deep. Nothing else happens: a postfix list that was put in order always denotes a
tree, so the faults kept for the other lists are never seen.

* `Denotes`: the tree of a text.
* `ofExpression_of_denotes`, `denotes_of_ofExpression`: the value of a text is that of its tree.
* `ofExpression_cases`: all outcomes for a text that is not blank.
* `postfixOrder_recognises`: the lists of tokens put in postfix order are those of the grammar.
* `evaluate_outcomes`: which texts have which outcome.
-/

import ScientificCalculator.Proofs.Evaluation.Front
import ScientificCalculator.Proofs.Rpn.Soundness
import ScientificCalculator.Proofs.Rpn.Tree

namespace ScientificCalculator.Evaluation

open Canonical (ofTyped resolveFactorials resolvePercents)
open Rpn (depthGuarded maximumDepth toExpr)

section Order

variable {written rpn : List Token}

theorem postfixOrder_eq_ok_iff :
    postfixOrder written = .ok rpn ↔ ∃ tree, Derives .sum written tree ∧ rpn = tree.rpn := by
  rw [← Rpn.ofTokens_eq_ok_iff]
  exact mapError_eq_ok_iff

/-- A list is put in postfix order, or it is malformed. -/
theorem postfixOrder_cases (written : List Token) :
    (∃ tree, Derives .sum written tree ∧ postfixOrder written = .ok tree.rpn) ∨
      (¬∃ tree, Derives .sum written tree) ∧
        ∃ cause, postfixOrder written = .error (.malformed cause) := by
  by_cases derived : ∃ tree, Derives .sum written tree
  · obtain ⟨tree, derivation⟩ := derived
    exact Or.inl ⟨tree, derivation, postfixOrder_eq_ok_iff.mpr ⟨tree, derivation, rfl⟩⟩
  · refine Or.inr ⟨derived, ?_⟩
    cases ordered : Rpn.ofTokens written with
    | error cause => exact ⟨cause, by rw [postfixOrder, ordered]; rfl⟩
    | ok output =>
      obtain ⟨tree, derivation, -⟩ := Rpn.ofTokens_eq_ok_iff.mp ordered
      exact absurd ⟨tree, derivation⟩ derived

/-- **The order of tokens recognises the grammar.** A list of tokens is put in postfix order when it
is that of an expression, of one tree alone, and the order is that of the tree. Every other list is
malformed, those with a postfix sign among them. -/
theorem postfixOrder_recognises (written : List Token) :
    (∀ output, postfixOrder written = .ok output ↔
      ∃ tree, Derives .sum written tree ∧ output = tree.rpn) ∧
    (∀ first second, Derives .sum written first → Derives .sum written second → first = second) ∧
    ((¬∃ tree, Derives .sum written tree) ↔
      ∃ cause, postfixOrder written = .error (.malformed cause)) ∧
    (.neg ∈ written → ∃ cause, postfixOrder written = .error (.malformed cause)) := by
  have refused : (¬∃ tree, Derives .sum written tree) ↔
      ∃ cause, postfixOrder written = .error (.malformed cause) := by
    rcases postfixOrder_cases written with ⟨tree, derivation, ordered⟩ | ⟨none, malformed⟩
    · rw [ordered]
      exact ⟨fun none => absurd ⟨tree, derivation⟩ none, fun ⟨_, equal⟩ => by cases equal⟩
    · exact ⟨fun _ => malformed, fun _ => none⟩
  refine ⟨fun output => postfixOrder_eq_ok_iff, fun _ _ => Rpn.derives_unique, refused, ?_⟩
  intro sign
  refine refused.mp ?_
  rintro ⟨tree, derivation⟩
  exact derivation.neg_notMem sign

end Order

section Trees

variable {text : List Char} {tree : Expr}

/-- The text is an expression, and the tree is the one it denotes. -/
def Denotes (text : List Char) (tree : Expr) : Prop :=
  ∃ written, front text = .ok written ∧ Derives .sum written tree

/-- **A text denotes one tree at most.** -/
theorem Denotes.unique {other : Expr} (one : Denotes text tree) (two : Denotes text other) :
    tree = other := by
  obtain ⟨written, read, derivation⟩ := one
  obtain ⟨written', read', derivation'⟩ := two
  rw [read] at read'
  obtain rfl := Except.ok.inj read'
  exact Rpn.derives_unique derivation derivation'

/-- The texts of the steps to a tree. -/
def steps (canonical : List Char) (written : List Token) (tree : Expr) : Derivation where
  canonical := String.ofList canonical
  tokens := String.ofList (Token.textAll written)
  rpn := String.ofList (Token.textAll tree.rpn)
  tree := String.ofList tree.text

/-- **The value of a text is that of its tree**, unless the tree is too deep. -/
theorem ofExpression_of_derives {canonical : List Char} {written : List Token}
    (made : canonicalText text = .ok canonical) (read : tokens canonical = .ok written)
    (derivation : Derives .sum written tree) (mode : AngleMode) :
    ofExpression text mode =
      depthGuarded tree ⟨tree.eval mode, steps canonical written tree⟩ := by
  have ordered := postfixOrder_eq_ok_iff.mpr ⟨tree, derivation, rfl⟩
  unfold ofExpression
  simp only [made, read, ordered, bind, Except.bind, Rpn.toExpr_rpn]
  rcases Nat.lt_or_ge maximumDepth tree.depth with deep | low
  · rw [Rpn.depthGuarded_of_lt deep, Rpn.depthGuarded_of_lt deep]
  · rw [Rpn.depthGuarded_of_le low, Rpn.depthGuarded_of_le low]
    rfl

theorem ofExpression_of_denotes (denotes : Denotes text tree) (mode : AngleMode) :
    ∃ derivation, ofExpression text mode = depthGuarded tree ⟨tree.eval mode, derivation⟩ := by
  obtain ⟨written, read, derivation⟩ := denotes
  obtain ⟨canonical, made, cut⟩ := front_eq_ok_iff_canonicalText.mp read
  exact ⟨_, ofExpression_of_derives made cut derivation mode⟩

/-- A text without a tree is refused, for its factorials or as malformed. -/
theorem ofExpression_of_not_denotes (none : ¬∃ tree, Denotes text tree) (mode : AngleMode) :
    (∃ fault, resolveFactorials (ofTyped text) = .error fault ∧
      ofExpression text mode = .error fault) ∨
    (∃ resolved, resolveFactorials (ofTyped text) = .ok resolved) ∧
      ∃ cause, ofExpression text mode = .error (.malformed cause) := by
  unfold ofExpression canonicalText
  cases resolved : resolveFactorials (ofTyped text) with
  | error fault => exact Or.inl ⟨fault, rfl, rfl⟩
  | ok result =>
    refine Or.inr ⟨⟨result, rfl⟩, ?_⟩
    have made : canonicalText text = .ok (resolvePercents result) := by
      rw [canonicalText, resolved]
      rfl
    simp only [Except.map, bind, Except.bind]
    cases read : Token.tokenize (resolvePercents result) with
    | error cause =>
      have cut : tokens (resolvePercents result) = .error (.malformed cause) := by
        rw [tokens, read]
        rfl
      exact ⟨cause, by simp only [cut]⟩
    | ok written =>
      have cut : tokens (resolvePercents result) = .ok written := by
        rw [tokens, read]
        rfl
      rcases postfixOrder_cases written with ⟨tree, derivation, -⟩ | ⟨-, cause, malformed⟩
      · have read := front_eq_ok_iff_canonicalText.mpr ⟨_, made, cut⟩
        exact absurd ⟨tree, written, read, derivation⟩ none
      · exact ⟨cause, by simp only [cut, malformed]⟩

/-- **The outcomes for a text that is not blank**: a refused factorial, a value of a tree that is
not too deep, or no expression. -/
theorem ofExpression_cases (text : List Char) (mode : AngleMode) :
    (∃ operand, resolveFactorials (ofTyped text) = .error (.factorial operand) ∧
      ofExpression text mode = .error (.factorial operand)) ∨
    (∃ resolved, resolveFactorials (ofTyped text) = .ok resolved) ∧
      ((∃ tree evaluation, Denotes text tree ∧ tree.depth ≤ maximumDepth ∧
        evaluation.value = tree.eval mode ∧ ofExpression text mode = .ok evaluation) ∨
      ∃ cause, ofExpression text mode = .error (.malformed cause)) := by
  by_cases denoted : ∃ tree, Denotes text tree
  · obtain ⟨tree, denotes⟩ := denoted
    obtain ⟨written, read, derivation⟩ := denotes
    obtain ⟨resolved, factorials, -⟩ := front_eq_ok_iff.mp read
    obtain ⟨texts, outcome⟩ := ofExpression_of_denotes ⟨written, read, derivation⟩ mode
    refine Or.inr ⟨⟨resolved, factorials⟩, ?_⟩
    rcases Nat.lt_or_ge maximumDepth tree.depth with deep | low
    · rw [Rpn.depthGuarded_of_lt deep] at outcome
      exact Or.inr ⟨.tooDeep, outcome⟩
    · rw [Rpn.depthGuarded_of_le low] at outcome
      exact Or.inl ⟨tree, _, ⟨written, read, derivation⟩, low, rfl, outcome⟩
  · rcases ofExpression_of_not_denotes denoted mode with ⟨fault, refused, outcome⟩ | malformed
    · obtain ⟨operand, rfl⟩ := Canonical.resolveFactorials_error refused
      exact Or.inl ⟨operand, refused, outcome⟩
    · exact Or.inr ⟨malformed.1, Or.inr malformed.2⟩

/-- A value is that of a tree that is not too deep. -/
theorem denotes_of_ofExpression {mode : AngleMode} {evaluation : Evaluation}
    (accepted : ofExpression text mode = .ok evaluation) :
    ∃ tree, Denotes text tree ∧ tree.depth ≤ maximumDepth ∧ evaluation.value = tree.eval mode := by
  rcases ofExpression_cases text mode with ⟨_, -, outcome⟩ | ⟨-, outcome⟩
  · rw [accepted] at outcome
    cases outcome
  · rcases outcome with ⟨tree, found, denotes, low, value, outcome⟩ | ⟨_, outcome⟩
    · rw [accepted] at outcome
      obtain rfl := Except.ok.inj outcome
      exact ⟨tree, denotes, low, value⟩
    · rw [accepted] at outcome
      cases outcome

end Trees

section Texts

theorem isBlank_iff {text : List Char} :
    isBlank text = true ↔ ∀ character ∈ text, Text.isBlank character = true :=
  List.all_eq_true

theorem isBlank_eq_false_iff {text : List Char} :
    isBlank text = false ↔ ∃ character ∈ text, Text.isBlank character = false :=
  List.all_eq_false.trans (by simp only [Bool.not_eq_true])

/-- What is put in postfix order is built into a tree, or refused as too deep. -/
theorem toExpr_of_postfixOrder {written rpn : List Token}
    (ordered : postfixOrder written = .ok rpn) :
    ∃ tree : Expr, tree.rpn = rpn ∧
      (tree.depth ≤ maximumDepth ∧ toExpr rpn = .ok tree ∨
        maximumDepth < tree.depth ∧ toExpr rpn = .error (.malformed .tooDeep)) := by
  obtain ⟨tree, -, rfl⟩ := postfixOrder_eq_ok_iff.mp ordered
  refine ⟨tree, rfl, ?_⟩
  rw [Rpn.toExpr_rpn]
  rcases Nat.lt_or_ge maximumDepth tree.depth with deep | low
  · exact Or.inr ⟨deep, Rpn.depthGuarded_of_lt deep _⟩
  · exact Or.inl ⟨low, Rpn.depthGuarded_of_le low _⟩

/-- **All outcomes for a text**, each with the texts that have it. -/
theorem evaluate_cases (text : String) (mode : AngleMode) :
    (isBlank text.toList = true ∧ evaluate text mode = .ok none) ∨
    (isBlank text.toList = false ∧
      ((∃ operand, resolveFactorials (ofTyped text.toList) = .error (.factorial operand) ∧
        evaluate text mode = .error (.factorial operand)) ∨
      (∃ resolved, resolveFactorials (ofTyped text.toList) = .ok resolved) ∧
        ((∃ evaluation, evaluate text mode = .ok (some evaluation)) ∨
          ∃ cause, evaluate text mode = .error (.malformed cause)))) := by
  by_cases blank : isBlank text.toList = true
  · exact Or.inl ⟨blank, if_pos blank⟩
  · have outcome : evaluate text mode = (ofExpression text.toList mode).map some := if_neg blank
    refine Or.inr ⟨Bool.eq_false_iff.mpr blank, ?_⟩
    rw [outcome]
    rcases ofExpression_cases text.toList mode with ⟨operand, refused, result⟩ | ⟨resolved, result⟩
    · exact Or.inl ⟨operand, refused, by rw [result]; rfl⟩
    · refine Or.inr ⟨resolved, ?_⟩
      rcases result with ⟨_, evaluation, -, -, -, result⟩ | ⟨cause, result⟩
      · exact Or.inl ⟨evaluation, by rw [result]; rfl⟩
      · exact Or.inr ⟨cause, by rw [result]; rfl⟩

/-- **The outcomes of an evaluation.** Blank texts and no others have no value. A factorial is
refused where the text is not blank and its factorials cannot be resolved. All other texts have a
value or are malformed, because a postfix list that was put in order is that of a tree, which is
built or is too deep. -/
theorem evaluate_outcomes (text : String) (mode : AngleMode) :
    (evaluate text mode = .ok none ↔
      ∀ character ∈ text.toList, Text.isBlank character = true) ∧
    ((∃ operand, evaluate text mode = .error (.factorial operand)) ↔
      (∃ character ∈ text.toList, Text.isBlank character = false) ∧
        ∃ fault, resolveFactorials (ofTyped text.toList) = .error fault) ∧
    (evaluate text mode = .ok none ∨
      (∃ operand, evaluate text mode = .error (.factorial operand)) ∨
      (∃ evaluation, evaluate text mode = .ok (some evaluation)) ∨
      ∃ cause, evaluate text mode = .error (.malformed cause)) ∧
    (∀ cause, evaluate text mode ≠ .error (.noTree cause)) ∧
    ∀ written rpn, postfixOrder written = .ok rpn →
      ∃ tree : Expr, tree.rpn = rpn ∧
        (tree.depth ≤ maximumDepth ∧ toExpr rpn = .ok tree ∨
          maximumDepth < tree.depth ∧ toExpr rpn = .error (.malformed .tooDeep)) := by
  rw [← isBlank_iff, ← isBlank_eq_false_iff]
  have trees := fun written rpn (ordered : postfixOrder written = .ok rpn) =>
    toExpr_of_postfixOrder ordered
  rcases evaluate_cases text mode with ⟨blank, outcome⟩ |
    ⟨solid, ⟨operand, refused, outcome⟩ | ⟨⟨resolved, accepted⟩, outcome⟩⟩
  · exact ⟨by simp [outcome, blank], by simp [outcome, blank], Or.inl outcome,
      by simp [outcome], trees⟩
  · exact ⟨by simp [outcome, solid], by simp [outcome, solid, refused],
      Or.inr (Or.inl ⟨operand, outcome⟩), by simp [outcome], trees⟩
  · rcases outcome with ⟨evaluation, outcome⟩ | ⟨cause, outcome⟩
    · exact ⟨by simp [outcome, solid], by simp [outcome, accepted],
        Or.inr (Or.inr (Or.inl ⟨evaluation, outcome⟩)), by simp [outcome], trees⟩
    · exact ⟨by simp [outcome, solid], by simp [outcome, accepted],
        Or.inr (Or.inr (Or.inr ⟨cause, outcome⟩)), by simp [outcome], trees⟩

end Texts

end ScientificCalculator.Evaluation
