/-
**Expressions made of expressions.**

Two expressions in parentheses with an operation between them are an expression, and so are one in
parentheses, with a minus sign or with the name of a function in front. The tree is made of their
trees and the value of their values. Depth alone can stand against it, and parentheses add none.

* `front_enclosed`: the tokens of a text in parentheses.
* `Denotes.enclosed`, `Denotes.minus`, `Denotes.call`, `Denotes.bin`: the trees of the four texts.
* `value_of_denotes`: the value of a text that denotes a tree.
* `exists_operation`: the signs of the operations and what they compute.
* `evaluate_composed`: the values of the four texts.
-/

import ScientificCalculator.Proofs.Evaluation.Outcome

namespace ScientificCalculator

namespace Evaluation

open Canonical (ofTyped resolveFactorials resolvePercents)
open Rpn (depthGuarded maximumDepth)

section Blanks

theorem front_nil : front [] = .ok [] := by cbv

/-- A blank in front of a text makes no token, and stands against none. -/
theorem front_blank {first : Char} (blank : Text.isBlank first = true) (rest : List Char) :
    front (first :: rest) = front rest := by
  have boundary := Text.isBoundary_of_isBlank blank
  have digit := Text.isDigit_of_not_sticks (Text.not_sticks_of_isBoundary boundary)
  show canonicalText (first :: rest) >>= tokens = canonicalText rest >>= tokens
  rw [canonicalText, canonicalText, ofTyped_boundary boundary,
    Canonical.resolveFactorials_cons digit]
  cases resolveFactorials (ofTyped rest) with
  | error fault => rfl
  | ok resolved =>
    show tokens (resolvePercents (first :: resolved)) = tokens (resolvePercents resolved)
    rw [Canonical.resolvePercents_cons digit, tokens, Token.tokenize_blank blank, tokens]

/-- A text of blanks alone has no token. -/
theorem eq_nil_of_isBlank {text : List Char} {written : List Token} (blank : isBlank text = true)
    (read : front text = .ok written) : written = [] := by
  induction text with
  | nil =>
    rw [front_nil] at read
    exact (Except.ok.inj read).symm
  | cons first rest ih =>
    obtain ⟨leading, others⟩ := List.forall_mem_cons.mp (isBlank_iff.mp blank)
    rw [front_blank leading] at read
    exact ih (isBlank_iff.mpr others) read

/-- **The value of a text that denotes a tree**: such a text is not blank. -/
theorem value_of_denotes {text : String} {tree : Expr} (denotes : Denotes text.toList tree)
    (mode : AngleMode) :
    (evaluate text mode).map (Option.map value) = depthGuarded tree (some (tree.eval mode)) := by
  have solid : ¬isBlank text.toList = true := by
    intro blank
    obtain ⟨written, read, derivation⟩ := denotes
    exact derivation.ne_nil (eq_nil_of_isBlank blank read)
  obtain ⟨derivation, outcome⟩ := ofExpression_of_denotes denotes mode
  rw [evaluate, if_neg solid, outcome]
  rcases Nat.lt_or_ge maximumDepth tree.depth with deep | low
  · rw [Rpn.depthGuarded_of_lt deep, Rpn.depthGuarded_of_lt deep]
    rfl
  · rw [Rpn.depthGuarded_of_le low, Rpn.depthGuarded_of_le low]
    rfl

/-- A text with a value denotes a tree that is not too deep. -/
theorem denotes_of_evaluate {text : String} {mode : AngleMode} {evaluation : Evaluation}
    (accepted : evaluate text mode = .ok (some evaluation)) :
    ∃ tree, Denotes text.toList tree ∧ tree.depth ≤ maximumDepth ∧
      evaluation.value = tree.eval mode := by
  rw [evaluate] at accepted
  split at accepted
  · cases accepted
  · obtain ⟨found, expression, equal⟩ := map_eq_ok_iff.mp accepted
    obtain rfl := Option.some.inj equal
    exact denotes_of_ofExpression expression

end Blanks

section Composition

variable {first second text : List Char} {left right tree : Expr} {written after : List Token}

/-- A text in parentheses. -/
def enclosed (text : List Char) : List Char :=
  '(' :: (text ++ [')'])

/-- A text in front of a closing parenthesis. -/
theorem front_closed (read : front text = .ok written) {rest : List Char}
    (next : front rest = .ok after) :
    front (text ++ ')' :: rest) = .ok (written ++ .rparen :: after) :=
  (front_append Text.isBoundary_rparen rest text).mpr
    ⟨written, .rparen :: after, read, front_rparen next, rfl⟩

/-- **The tokens of a text in parentheses**, and those of what comes after it. -/
theorem front_enclosed (read : front text = .ok written) {rest : List Char}
    (next : front rest = .ok after) :
    front (enclosed text ++ rest) = .ok (.lparen :: (written ++ .rparen :: after)) := by
  rw [enclosed, List.cons_append, List.append_assoc, List.singleton_append]
  exact front_lparen (front_closed read next)

/-- **Parentheses leave no trace in the tree.** -/
theorem Denotes.enclosed (denotes : Denotes text tree) : Denotes (enclosed text) tree := by
  obtain ⟨written, read, derivation⟩ := denotes
  exact ⟨_, front_lparen (front_closed read front_nil),
    .loosen (Phrase.sum_le _) (.group derivation)⟩

/-- A minus sign in front of parentheses negates. -/
theorem Denotes.minus (denotes : Denotes text tree) :
    Denotes ('-' :: Evaluation.enclosed text) (.neg tree) := by
  obtain ⟨written, read, derivation⟩ := denotes
  have operand : Derives .signed _ tree := .loosen (Phrase.le_atom _) (.group derivation)
  exact ⟨_, front_minus (front_lparen (front_closed read front_nil)),
    .loosen (Phrase.sum_le _) (.minus operand)⟩

/-- The name of a function in front of parentheses calls it. -/
theorem Denotes.call (func : Func) (denotes : Denotes text tree) :
    Denotes (func.typed.toList ++ Evaluation.enclosed text) (.call func tree) := by
  obtain ⟨written, read, derivation⟩ := denotes
  exact ⟨_, front_typed func (front_closed read front_nil),
    .loosen (Phrase.sum_le _) (.call func derivation)⟩

/-- **An operation between two texts in parentheses.** -/
theorem Denotes.bin (operation : BinOp) (leftward : Denotes first left)
    (rightward : Denotes second right) :
    Denotes (Evaluation.enclosed first ++ (operation.typed.toList ++ Evaluation.enclosed second))
      (.bin operation left right) := by
  obtain ⟨before, readBefore, deriveBefore⟩ := leftward
  obtain ⟨after, readAfter, deriveAfter⟩ := rightward
  have second_read := front_operation operation (front_closed readAfter front_nil)
  refine ⟨_, front_enclosed readBefore second_read, ?_⟩
  have whole := Derives.bin operation (.loosen (Phrase.le_atom _) (.group deriveBefore))
    (.loosen (Phrase.le_atom _) (.group deriveAfter))
  rw [List.cons_append, List.append_assoc] at whole
  exact .loosen (Phrase.sum_le _) whole

end Composition

section Values

/-- The five signs, each with its operation on doubles. -/
theorem exists_operation {one two outcome : Float} {sign : String}
    (member : (sign, outcome) ∈ [("+", one + two), ("-", one - two), ("*", one * two),
      ("/", one / two), ("^", one.pow two)]) :
    ∃ operation : BinOp, operation.typed = sign ∧ operation.apply one two = outcome := by
  simp only [List.mem_cons, Prod.mk.injEq, List.not_mem_nil, or_false] at member
  rcases member with ⟨rfl, rfl⟩ | ⟨rfl, rfl⟩ | ⟨rfl, rfl⟩ | ⟨rfl, rfl⟩ | ⟨rfl, rfl⟩
  · exact ⟨.add, rfl, rfl⟩
  · exact ⟨.sub, rfl, rfl⟩
  · exact ⟨.mul, rfl, rfl⟩
  · exact ⟨.div, rfl, rfl⟩
  · exact ⟨.pow, rfl, rfl⟩

/-- **Evaluation is compositional.** Where two texts have values, so have their sum, difference,
product, quotient and power, the negation, the parentheses and the functions of the first: the trees
are made of their trees and the values of their values, unless the tree made is too deep.
Parentheses alone never make it so. -/
theorem evaluate_composed {first second : String} {mode : AngleMode} {one two : Evaluation}
    (leftward : evaluate first mode = .ok (some one))
    (rightward : evaluate second mode = .ok (some two)) :
    ∃ left right : Expr, Denotes first.toList left ∧ Denotes second.toList right ∧
      (∀ sign outcome, (sign, outcome) ∈
          [("+", one.value + two.value), ("-", one.value - two.value),
            ("*", one.value * two.value), ("/", one.value / two.value),
            ("^", one.value.pow two.value)] →
        (evaluate ("(" ++ first ++ ")" ++ sign ++ "(" ++ second ++ ")") mode).map
            (Option.map value) =
          if maximumDepth < max left.depth right.depth + 1 then .error (.malformed .tooDeep)
          else .ok (some outcome)) ∧
      (evaluate ("-(" ++ first ++ ")") mode).map (Option.map value) =
        (if maximumDepth < left.depth + 1 then .error (.malformed .tooDeep)
          else .ok (some (-one.value))) ∧
      (evaluate ("(" ++ first ++ ")") mode).map (Option.map value) = .ok (some one.value) ∧
      Denotes ("(" ++ first ++ ")").toList left ∧
      ∀ func : Func,
        (evaluate (func.typed ++ "(" ++ first ++ ")") mode).map (Option.map value) =
          if maximumDepth < left.depth + 1 then .error (.malformed .tooDeep)
          else .ok (some (func.apply mode one.value)) := by
  obtain ⟨left, denotesLeft, lowLeft, valueLeft⟩ := denotes_of_evaluate leftward
  obtain ⟨right, denotesRight, -, valueRight⟩ := denotes_of_evaluate rightward
  have grouped : Denotes ("(" ++ first ++ ")").toList left := by
    simpa [String.toList_append, enclosed] using denotesLeft.enclosed
  rw [valueLeft, valueRight]
  refine ⟨left, right, denotesLeft, denotesRight, ?_, ?_, ?_, grouped, ?_⟩
  · intro sign outcome member
    obtain ⟨operation, rfl, rfl⟩ := exists_operation member
    have made : Denotes ("(" ++ first ++ ")" ++ operation.typed ++ "(" ++ second ++ ")").toList
        (.bin operation left right) := by
      simpa [String.toList_append, enclosed] using Denotes.bin operation denotesLeft denotesRight
    exact value_of_denotes made mode
  · have made : Denotes ("-(" ++ first ++ ")").toList (.neg left) := by
      simpa [String.toList_append, enclosed] using denotesLeft.minus
    exact value_of_denotes made mode
  · rw [value_of_denotes grouped, Rpn.depthGuarded_of_le lowLeft]
  · intro func
    have made : Denotes (func.typed ++ "(" ++ first ++ ")").toList (.call func left) := by
      simpa [String.toList_append, enclosed] using denotesLeft.call func
    exact value_of_denotes made mode

/-- The five operations on a sum and a number. -/
theorem evaluate_composed_sum :
    let sum := Binary64.nearest 1 1 + Binary64.nearest 2 1
    let three := Binary64.nearest 3 1
    let between (sign : String) :=
      (evaluate ("(" ++ "1+2" ++ ")" ++ sign ++ "(" ++ "3" ++ ")") .degrees).map (Option.map value)
    ∃ left right : Expr, Denotes "1+2".toList left ∧ Denotes "3".toList right ∧
      let guarded (outcome : Float) : Except Fault (Option Float) :=
        if maximumDepth < max left.depth right.depth + 1 then .error (.malformed .tooDeep)
        else .ok (some outcome)
      between "+" = guarded (sum + three) ∧ between "-" = guarded (sum - three) ∧
        between "*" = guarded (sum * three) ∧ between "/" = guarded (sum / three) ∧
        between "^" = guarded (sum.pow three) := by
  have leftward : evaluate "1+2" .degrees = .ok (some
      ⟨Binary64.nearest 1 1 + Binary64.nearest 2 1, ⟨"1+2", "1 + 2", "1 2 +", "(1+2)"⟩⟩) := by
    decide +kernel
  have rightward : evaluate "3" .degrees =
      .ok (some ⟨Binary64.nearest 3 1, ⟨"3", "3", "3", "3"⟩⟩) := by
    decide +kernel
  obtain ⟨left, right, denotesLeft, denotesRight, operations, -⟩ :=
    evaluate_composed leftward rightward
  exact ⟨left, right, denotesLeft, denotesRight, operations "+" _ (by simp),
    operations "-" _ (by simp), operations "*" _ (by simp), operations "/" _ (by simp),
    operations "^" _ (by simp)⟩

end Values

end Evaluation

end ScientificCalculator
