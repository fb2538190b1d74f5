/-
**The canonical text stands for the text.**

The canonical text of an expression is one whose tokens are those of the expression. A text of
tokens is canonical already, so it is evaluated as it stands, with the same tree and the same texts.

* `evaluate_eq_some_iff`: what the value and the derivation of a text are made of.
* `exists_evaluate`: whether a text has a value does not depend on the mode.
* `canonicalText_of_tokens`: a text of tokens is its own canonical text.
* `evaluate_canonical`: the canonical text has the same value and the same derivation.
-/

import ScientificCalculator.Proofs.Canonical.Settled
import ScientificCalculator.Proofs.Evaluation.Composition

namespace ScientificCalculator.Evaluation

open Rpn (maximumDepth)

section Accepted

variable {text : String} {mode : AngleMode} {evaluation : Evaluation}

/-- **A text with a value** has a canonical text, tokens and a tree that is not too deep, and
everything that is kept of it comes from these. -/
theorem evaluate_eq_some_iff :
    evaluate text mode = .ok (some evaluation) ↔
      ∃ canonical written tree, canonicalText text.toList = .ok canonical ∧
        tokens canonical = .ok written ∧ Derives .sum written tree ∧ tree.depth ≤ maximumDepth ∧
        evaluation = ⟨tree.eval mode, steps canonical written tree⟩ := by
  constructor
  · intro accepted
    rw [evaluate] at accepted
    split at accepted
    · cases accepted
    · obtain ⟨found, expression, equal⟩ := map_eq_ok_iff.mp accepted
      obtain rfl := Option.some.inj equal
      obtain ⟨tree, ⟨written, read, derivation⟩, low, -⟩ := denotes_of_ofExpression expression
      obtain ⟨canonical, made, cut⟩ := front_eq_ok_iff_canonicalText.mp read
      have outcome := ofExpression_of_derives made cut derivation mode
      rw [expression, Rpn.depthGuarded_of_le low] at outcome
      exact ⟨canonical, written, tree, made, cut, derivation, low, Except.ok.inj outcome⟩
  · rintro ⟨canonical, written, tree, made, cut, derivation, low, rfl⟩
    have read := front_eq_ok_iff_canonicalText.mpr ⟨canonical, made, cut⟩
    have solid : ¬isBlank text.toList = true := fun blank =>
      derivation.ne_nil (eq_nil_of_isBlank blank read)
    rw [evaluate, if_neg solid, ofExpression_of_derives made cut derivation mode,
      Rpn.depthGuarded_of_le low]
    rfl

/-- **A text with a value in one mode has a value in the other**: the mode is not asked for before
the tree is made. -/
theorem exists_evaluate (accepted : evaluate text mode = .ok (some evaluation))
    (other : AngleMode) : ∃ found, evaluate text other = .ok (some found) := by
  obtain ⟨canonical, written, tree, made, cut, derivation, low, -⟩ :=
    evaluate_eq_some_iff.mp accepted
  exact ⟨_, evaluate_eq_some_iff.mpr ⟨canonical, written, tree, made, cut, derivation, low, rfl⟩⟩

/-- A text with a value is not blank. -/
theorem exists_solid (accepted : evaluate text mode = .ok (some evaluation)) :
    ∃ character ∈ text.toList, Text.isBlank character = false := by
  refine isBlank_eq_false_iff.mp (Bool.eq_false_iff.mpr fun blank => ?_)
  rw [evaluate, if_pos blank] at accepted
  cases accepted

end Accepted

section Canonical

/-- A typed text that is written as a text of tokens has it as its canonical text. -/
theorem canonicalText_of_spells {typed text : List Char} {written : List Token}
    (made : Canonical.ofTyped typed = text) (spells : Token.Spells text written) :
    canonicalText typed = .ok text := by
  have factorials := Canonical.resolve_of_spells spells .factorial
  have percents := Canonical.resolve_of_spells spells .percent
  change Canonical.resolveFactorials text = .ok text at factorials
  rw [canonicalText, made, factorials]
  exact percents

/-- **A text of tokens is its own canonical text.** -/
theorem canonicalText_of_tokens {text : List Char} {written : List Token}
    (read : tokens text = .ok written) : canonicalText text = .ok text := by
  have spells := Token.tokenize_eq_ok_iff.mp (mapError_eq_ok_iff.mp read)
  exact canonicalText_of_spells (Canonical.ofTypedAfter_of_spells spells none) spells

/-- **The canonical text stands for the text**: it has the same value, and the same canonical text,
tokens, postfix list and tree. -/
theorem evaluate_canonical {text : String} {mode : AngleMode} {evaluation : Evaluation}
    (accepted : evaluate text mode = .ok (some evaluation)) :
    evaluate evaluation.derivation.canonical mode = .ok (some evaluation) := by
  obtain ⟨canonical, written, tree, -, cut, derivation, low, rfl⟩ :=
    evaluate_eq_some_iff.mp accepted
  refine evaluate_eq_some_iff.mpr ⟨canonical, written, tree, ?_, cut, derivation, low, rfl⟩
  show canonicalText (String.ofList canonical).toList = .ok canonical
  rw [String.toList_ofList, canonicalText_of_tokens cut]

/-- A percentage may be part of a canonical name, which is then read as one. -/
theorem evaluate_canonical_logarithm :
    ∃ evaluation, evaluate "log1000%(100)+3!*π" .degrees = .ok (some evaluation) ∧
      evaluate "log10(100)+6*3.141592653589793" .degrees = .ok (some evaluation) := by
  have logarithm : Derives .product
      [.func .log10, .lparen, .num (Binary64.nearest 100 1), .rparen] _ :=
    .loosen (Phrase.le_atom _) (.call .log10 (.loosen (Phrase.le_atom _) (.num _)))
  have product : Derives .product
      [.num (Binary64.nearest 6 1), .op .mul,
        .num (Binary64.nearest 3141592653589793 1000000000000000)] _ :=
    .bin .mul (.loosen (Phrase.le_atom _) (.num _)) (.loosen (Phrase.le_atom _) (.num _))
  have derivation := Derives.bin .add (.loosen (Phrase.sum_le _) logarithm) product
  have accepted : evaluate "log1000%(100)+3!*π" .degrees = .ok (some _) :=
    evaluate_eq_some_iff.mpr ⟨"log10(100)+6*3.141592653589793".toList, _, _, by decide +kernel,
      by decide +kernel, derivation, by decide +kernel, rfl⟩
  refine ⟨_, accepted, ?_⟩
  have again := evaluate_canonical accepted
  rwa [steps, String.ofList_toList] at again

end Canonical

end ScientificCalculator.Evaluation
