/-
**A value behind a mark.**

A constant is set off from the numbers beside it. The value of a literal with a mark is not: it
takes the place of the literal and the mark, and what comes next is read on with it. So a value
behind a mark is not refused as a second value; it is refused only where the two texts written, with
nothing between them, are no expression.

* `resolvedBy`: the text in which all marks of a kind are resolved.
* `resolvedBy_append`: a value behind a mark is resolved apart and put next to it.
* `resolvedBy_operand`: the text in front of it ends with the value of the marked literal.
* `StartsValue`: the texts that start with a value.
* `refused_iff`: when a text with a value behind a mark is refused.
* `not_derives_of_points`: two numbers with points are no expression.
* `evaluate_adjacent_iff`: when a value behind a mark is refused, and when it is not read on.
-/

import ScientificCalculator.Proofs.Evaluation.Composition
import ScientificCalculator.Proofs.Token.Number

namespace ScientificCalculator.Evaluation

open Canonical (Mark Opens Seam Apart ofTyped resolveFactorials resolvePercents)
open Text (Stops stops_cons)
open Rpn (maximumDepth)

section Resolved

/-- The text in which the marks of a kind are sought. -/
def sought : Mark → List Char → Except Fault (List Char)
  | .factorial, text => .ok (ofTyped text)
  | .percent, text => resolveFactorials (ofTyped text)

/-- The text in which all marks of a kind are resolved. -/
def resolvedBy (mark : Mark) (text : List Char) : Except Fault (List Char) :=
  sought mark text >>= mark.resolve

/-- The tokens of a text in which all marks of a kind are resolved. -/
def readAfter : Mark → List Char → Except Fault (List Token)
  | .factorial, resolved => tokens (resolvePercents resolved)
  | .percent, resolved => tokens resolved

variable (mark : Mark)

/-- The passes on texts, up to a kind of marks and from there on. -/
theorem front_eq_bind (text : List Char) :
    front text = resolvedBy mark text >>= readAfter mark := by
  cases mark with
  | factorial =>
    show canonicalText text >>= tokens = resolveFactorials (ofTyped text) >>= _
    rw [canonicalText]
    cases resolveFactorials (ofTyped text) <;> rfl
  | percent =>
    show canonicalText text >>= tokens = (resolveFactorials (ofTyped text) >>= _) >>= _
    rw [canonicalText]
    cases resolveFactorials (ofTyped text) <;> rfl

/-- A mark stands apart from the text in front of it. -/
theorem ofTyped_mark (text rest : List Char) :
    ofTyped (text ++ mark.sign :: rest) = ofTyped text ++ mark.sign :: ofTyped rest := by
  have free : Canonical.sticks mark.sign = false :=
    Text.not_sticks_of_mem (by cases mark <;> decide)
  have apart : Apart (mark.sign :: rest) := by
    refine stops_cons.mpr ?_
    rw [free]
    cases mark <;> rfl
  rw [Canonical.ofTyped_append text apart,
    Canonical.ofTyped_cons free (by cases mark <;> decide) (by cases mark <;> decide)]

theorem ofTyped_nil : ofTyped [] = [] := by cbv

/-- Marks are sought on both sides of one. -/
theorem sought_append (text rest : List Char) :
    sought mark (text ++ mark.sign :: rest) =
      joined (sought mark (text ++ [mark.sign])) (sought mark rest) := by
  have alone := ofTyped_mark mark text []
  rw [ofTyped_nil] at alone
  have whole : ofTyped (text ++ mark.sign :: rest) =
      ofTyped (text ++ [mark.sign]) ++ ofTyped rest := by
    rw [ofTyped_mark, alone, List.append_assoc, List.singleton_append]
  cases mark with
  | factorial => exact congrArg Except.ok whole
  | percent =>
    show resolveFactorials _ = joined (resolveFactorials _) (resolveFactorials _)
    rw [whole]
    refine Canonical.resolveFactorials_append ?_
    exact .behind alone (by decide) (by decide) fun equal => absurd equal (by decide)

/-- A text that starts with a number does so where the mark is sought. -/
theorem sought_opens {pointed : Prop} {text found : List Char}
    (opens : Opens pointed (ofTyped text)) (accepted : sought mark text = .ok found) :
    Opens pointed found := by
  cases mark with
  | factorial => exact Except.ok.inj accepted ▸ opens
  | percent => exact Mark.factorial.resolve_opens opens accepted

/-- A text that ends with a number and a mark does so where the mark is sought. -/
theorem sought_ending (ending : List Char)
    (number : ∀ character ∈ ending, character.isDigit = true ∨ character = '.')
    {front found : List Char}
    (accepted : sought mark (front ++ (ending ++ [mark.sign])) = .ok found) :
    ∃ before, found = before ++ (ending ++ [mark.sign]) := by
  obtain ⟨written, copied⟩ := Canonical.ofTypedAfter_ending number none front
  have typed : ofTyped (front ++ (ending ++ [mark.sign])) = written ++ (ending ++ [mark.sign]) := by
    rw [← List.append_assoc, ofTyped_mark, ofTyped_nil, ofTyped, copied, List.append_assoc]
  cases mark with
  | factorial => exact ⟨written, by rw [← Except.ok.inj accepted, typed]⟩
  | percent =>
    change resolveFactorials _ = .ok found at accepted
    rw [typed] at accepted
    refine Canonical.resolve_ending .factorial ?_ accepted
    intro member
    rcases List.mem_append.mp member with inside | last
    · rcases number _ inside with digit | point
      · exact Bool.noConfusion digit
      · exact absurd point (by decide)
    · exact absurd last (by decide)

/-- **A value behind a mark is resolved apart and put next to it.** -/
theorem resolvedBy_append {pointed : Prop} {text rest whole : List Char}
    (opens : Opens pointed (ofTyped rest)) :
    resolvedBy mark (text ++ mark.sign :: rest) = .ok whole ↔
      ∃ left right, resolvedBy mark (text ++ [mark.sign]) = .ok left ∧
        resolvedBy mark rest = .ok right ∧ whole = left ++ right := by
  have cut {first second : List Char} (before : sought mark (text ++ [mark.sign]) = .ok first)
      (after : sought mark rest = .ok second) :
      mark.resolve (first ++ second) = joined (mark.resolve first) (mark.resolve second) := by
    obtain ⟨front, rfl⟩ := sought_ending mark [] (by simp) before
    refine mark.resolve_append (.behind rfl mark.sign_isDigit mark.sign_ne_point fun _ => ?_)
    exact (sought_opens mark opens after).stops_sign mark
  rw [resolvedBy, sought_append, resolvedBy, resolvedBy]
  simp only [bind_eq_ok_iff, joined_eq_ok_iff]
  constructor
  · rintro ⟨found, ⟨first, second, before, after, rfl⟩, written⟩
    rw [cut before after, joined_eq_ok_iff] at written
    obtain ⟨left, right, one, two, rfl⟩ := written
    exact ⟨left, right, ⟨first, before, one⟩, ⟨second, after, two⟩, rfl⟩
  · rintro ⟨left, right, ⟨first, before, one⟩, ⟨second, after, two⟩, rfl⟩
    refine ⟨first ++ second, ⟨first, second, before, after, rfl⟩, ?_⟩
    rw [cut before after, joined_eq_ok_iff]
    exact ⟨left, right, one, two, rfl⟩

/-- **The text in front of a value ends with the text written for the marked literal.** -/
theorem resolvedBy_operand {literal : Literal} (plain : literal.Plain) {before left : List Char}
    (accepted : resolvedBy mark (before ++ literal.text ++ [mark.sign]) = .ok left) :
    ∃ front found, literal.text <:+ found.text ∧ left = front ++ mark.valueText found := by
  rw [List.append_assoc, resolvedBy, bind_eq_ok_iff] at accepted
  obtain ⟨found, accepted, written⟩ := accepted
  obtain ⟨start, rfl⟩ := sought_ending mark _ (fun _ => plain.mem_text) accepted
  exact mark.resolve_operand plain written

/-- The text that starts with a value still does when it is resolved. -/
theorem resolvedBy_opens {pointed : Prop} {rest right : List Char}
    (opens : Opens pointed (ofTyped rest)) (accepted : resolvedBy mark rest = .ok right) :
    Opens pointed right := by
  rw [resolvedBy, bind_eq_ok_iff] at accepted
  obtain ⟨found, accepted, resolved⟩ := accepted
  exact mark.resolve_opens (sought_opens mark opens accepted) resolved

end Resolved

section Values

/-- **A text that starts with a value**: a digit, a point and a digit, `π`, or the word `e`. -/
inductive StartsValue : List Char → Prop
  | digit {first : Char} (digit : first.isDigit = true) (rest : List Char) :
    StartsValue (first :: rest)
  | point {first : Char} (digit : first.isDigit = true) (rest : List Char) :
    StartsValue ('.' :: first :: rest)
  | pi (rest : List Char) : StartsValue ('π' :: rest)
  | euler {rest : List Char} (alone : Stops Char.isAlpha rest) : StartsValue ('e' :: rest)

/-- It starts with a number when it is made canonical. -/
theorem StartsValue.opens {value : List Char} (starts : StartsValue value) :
    Opens (value.head? = some '.') (ofTyped value) := by
  have constant {literal rest : List Char} {first : Char} {after : Option Char} {word : Char}
      (other : word ≠ '.') (digit : first.isDigit = true) (tail : List Char) :
      Opens ((word :: tail).head? = some '.')
        (Canonical.setOff (first :: literal) none after ++ rest) := by
    refine ⟨first, _, rfl, Or.inr ⟨?_, digit⟩⟩
    simpa using other
  cases starts with
  | @digit first digit rest =>
    refine ⟨first, _, Canonical.ofTypedAfter_cons (Or.inl digit) none rest, Or.inr ⟨?_, digit⟩⟩
    rintro equal
    obtain rfl := Option.some.inj equal
    exact Bool.noConfusion digit
  | point digit rest =>
    exact ⟨'.', _, Canonical.ofTypedAfter_cons (Or.inr rfl) none _, Or.inl ⟨rfl, rfl⟩⟩
  | pi rest =>
    rw [ofTyped, Canonical.ofTypedAfter, if_neg (by decide)]
    exact constant (by decide) (by decide) rest
  | @euler rest alone =>
    rw [ofTyped, Canonical.ofTypedAfter, if_pos (by decide)]
    dsimp only
    rw [Text.takeWhile_of_stops alone, Canonical.ofWord, if_pos rfl]
    exact constant (by decide) (by decide) rest

end Values

section Adjacent

/-- A text that is not blank is refused when it denotes no tree that is not too deep. -/
theorem evaluate_eq_error_iff {text : String} (solid : isBlank text.toList = false)
    (mode : AngleMode) :
    (∃ fault, evaluate text mode = .error fault) ↔
      ¬∃ tree, Denotes text.toList tree ∧ tree.depth ≤ maximumDepth := by
  constructor
  · rintro ⟨fault, refused⟩ ⟨tree, denotes, low⟩
    have outcome := value_of_denotes denotes mode
    rw [refused, Rpn.depthGuarded_of_le low] at outcome
    cases outcome
  · intro none
    cases outcome : evaluate text mode with
    | error fault => exact ⟨fault, rfl⟩
    | ok result =>
      cases result with
      | none =>
        rw [evaluate, if_neg (by simp [solid]), map_eq_ok_iff] at outcome
        obtain ⟨found, -, equal⟩ := outcome
        cases equal
      | some evaluation =>
        obtain ⟨tree, denotes, low, -⟩ := denotes_of_evaluate outcome
        exact absurd ⟨tree, denotes, low⟩ none

/-- A text with a mark and a value behind it is refused when one of the two parts is, or when the
texts written for them are no expression next to each other. -/
theorem refused_iff {value : List Char} (starts : StartsValue value) (before : List Char)
    (mark : Mark) (mode : AngleMode) :
    (∃ fault, evaluate (String.ofList (before ++ mark.sign :: value)) mode = .error fault) ↔
      ¬∃ left right written tree,
        resolvedBy mark (before ++ [mark.sign]) = .ok left ∧
        resolvedBy mark value = .ok right ∧
        readAfter mark (left ++ right) = .ok written ∧
        Derives .sum written tree ∧ tree.depth ≤ maximumDepth := by
  have opens := starts.opens
  have solid : isBlank (String.ofList (before ++ mark.sign :: value)).toList = false := by
    rw [String.toList_ofList, isBlank_eq_false_iff]
    exact ⟨mark.sign, by simp, by cases mark <;> decide⟩
  rw [evaluate_eq_error_iff solid, String.toList_ofList, not_iff_not]
  constructor
  · rintro ⟨tree, ⟨written, read, derivation⟩, low⟩
    rw [front_eq_bind mark, bind_eq_ok_iff] at read
    obtain ⟨whole, resolved, read⟩ := read
    obtain ⟨left, right, one, two, rfl⟩ := (resolvedBy_append mark opens).mp resolved
    exact ⟨left, right, written, tree, one, two, read, derivation, low⟩
  · rintro ⟨left, right, written, tree, one, two, read, derivation, low⟩
    refine ⟨tree, ⟨written, ?_, derivation⟩, low⟩
    rw [front_eq_bind mark, bind_eq_ok_iff]
    exact ⟨_, (resolvedBy_append mark opens).mpr ⟨left, right, one, two, rfl⟩, read⟩

/-- **Two numbers with points are no expression** where nothing stands between them. -/
theorem not_derives_of_points {number : Literal} (plain : number.Plain)
    (pointed : '.' ∈ number.text) (front right : List Char) {written : List Token} {tree : Expr}
    (read : tokens (front ++ number.text ++ '.' :: right) = .ok written) :
    ¬Derives .sum written tree := by
  intro derivation
  have fraction := plain.point_mem_text.mp pointed
  have cut := mapError_eq_ok_iff.mp read
  rw [Literal.text_of_fraction_ne_nil fraction, ← List.append_assoc, List.append_assoc,
    List.cons_append] at cut
  obtain ⟨before, one, two, others, equal⟩ :=
    Token.tokenize_fraction plain.fraction right (front ++ number.whole) cut
  exact derivation.ne_adjacent equal

/-- **A value behind a mark.** It is refused exactly when one of the two parts is, or when the texts
written for them, put next to each other, are no expression of at most a thousand levels. The value
of the marked literal is read alone exactly when it has a point and the second text starts with
one; a percentage that is read alone is refused as a second value. -/
theorem evaluate_adjacent_iff {literal : Literal} (plain : literal.Plain) {value : List Char}
    (starts : StartsValue value) (before : List Char) (mark : Mark) (mode : AngleMode) :
    ((∃ fault, evaluate (String.ofList (before ++ literal.text ++ mark.sign :: value)) mode =
        .error fault) ↔
      ¬∃ left right written tree,
        resolvedBy mark (before ++ literal.text ++ [mark.sign]) = .ok left ∧
        resolvedBy mark value = .ok right ∧
        readAfter mark (left ++ right) = .ok written ∧
        Derives .sum written tree ∧ tree.depth ≤ maximumDepth) ∧
    ∀ left right, resolvedBy mark (before ++ literal.text ++ [mark.sign]) = .ok left →
      resolvedBy mark value = .ok right →
      ∃ front found, literal.text <:+ found.text ∧ left = front ++ mark.valueText found ∧
        ((∃ token, Token.number (mark.valueText found ++ right) = .ok (token, right)) ↔
          '.' ∈ mark.valueText found ∧ value.head? = some '.') ∧
        (mark = .percent → '.' ∈ mark.valueText found → value.head? = some '.' →
          ∃ fault, evaluate (String.ofList (before ++ literal.text ++ mark.sign :: value)) mode =
            .error fault) := by
  have opens := starts.opens
  have refused := refused_iff starts (before ++ literal.text) mark mode
  refine ⟨refused, fun left right one two => ?_⟩
  obtain ⟨front, found, suffix, rfl⟩ := resolvedBy_operand mark plain one
  obtain ⟨number, shape, equal⟩ := mark.valueText_eq found
  have behind := resolvedBy_opens mark opens two
  refine ⟨front, found, suffix, rfl, ?_, ?_⟩
  · rw [equal]
    exact Token.number_append_iff shape behind
  · rintro rfl pointed head
    refine refused.mpr ?_
    rintro ⟨left, right', written, tree, one', two', read, derivation, -⟩
    obtain rfl := Except.ok.inj (one.symm.trans one')
    obtain rfl := Except.ok.inj (two.symm.trans two')
    rw [equal] at pointed
    obtain ⟨first, rest, rfl, ⟨-, rfl⟩ | ⟨other, -⟩⟩ := behind
    · change tokens (front ++ Mark.percent.valueText found ++ '.' :: rest) = .ok written at read
      rw [equal] at read
      exact not_derives_of_points shape pointed front rest read derivation
    · exact other head

/-- The factorial of five in front of a two is not refused. -/
theorem not_refused_five_two :
    Literal.Plain ⟨['5'], []⟩ ∧ StartsValue ['2'] ∧
      ¬∃ fault, evaluate (String.ofList ([] ++ Literal.text ⟨['5'], []⟩ ++
        Mark.factorial.sign :: ['2'])) .degrees = .error fault := by
  have plain : Literal.Plain ⟨['5'], []⟩ :=
    Literal.plain_of_digits (List.cons_ne_nil _ _) (List.all_eq_true.mp rfl)
  have starts : StartsValue ['2'] := .digit (by decide) []
  refine ⟨plain, starts, fun refused => ?_⟩
  refine (evaluate_adjacent_iff plain starts [] .factorial .degrees).1.mp refused ?_
  exact ⟨['1', '2', '0'], ['2'], [.num (Binary64.nearest 1202 1)], _, by decide +kernel,
    by decide +kernel, by decide +kernel, .loosen (Phrase.sum_le _) (.num _), by decide +kernel⟩

/-- It is read on with the two: the value is that of `1202`. -/
theorem evaluate_five_factorial_two :
    Literal.Plain ⟨['5'], []⟩ ∧ StartsValue ['2'] ∧
      evaluate "5!2" .degrees =
        .ok (some ⟨Binary64.nearest 1202 1, ⟨"1202", "1202", "1202", "1202"⟩⟩) :=
  ⟨Literal.plain_of_digits (List.cons_ne_nil _ _) (List.all_eq_true.mp rfl), .digit (by decide) [],
    by decide +kernel⟩

end Adjacent

end ScientificCalculator.Evaluation
