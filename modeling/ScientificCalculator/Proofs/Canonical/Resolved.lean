/-
**What is written for the operations of a text.**

For each operation a text takes the place of its operand and its marks: a factorial or a percentage
that is computed exactly and written as the double nearest to it, or the operation itself where it
has several factorial marks. Everything else is kept. The first factorial of a number that is no
integer refuses the whole text.

* `Writes`: the text of an exact value.
* `Operation.Factorial`, `Operation.Percentage`: what takes the place of an operation.
* `Operation.Refused`: the factorials that are refused.
* `write_factorial`, `write_percentage`: what is written for one operation.
* `writeAll_refused`, `writeAll_factorial`, `writeAll_percentage`: what is written for all of them.
* `resolve_operations`: the operations of a text are found and resolved.
-/

import ScientificCalculator.Proofs.Canonical.Factorial
import ScientificCalculator.Proofs.Canonical.Hundredth
import ScientificCalculator.Proofs.Canonical.Operations

namespace ScientificCalculator.Canonical

open Binary64 (IsNearest isFinite nearest)
open Text (stops_nil)

section Writes

/-- The text of an exact value: that of the double nearest to it, or the digits of `10 ^ 309` where
the value exceeds the doubles. -/
def Writes (exact : ℚ) (text : List Char) : Prop :=
  ∃ value, IsNearest exact value ∧
    text = if isFinite value then Numeral.text value else '1' :: List.replicate 309 '0'

/-- The text of an exact value is that of its nearest double. -/
theorem Writes.eq {exact : ℚ} {text : List Char} (writes : Writes exact text) {value : Float}
    (near : IsNearest exact value) : text = literalText value := by
  obtain ⟨other, rounded, written⟩ := writes
  rw [written, rounded.unique near]
  rfl

theorem writes_literalText {exact : ℚ} {value : Float} (near : IsNearest exact value) :
    Writes exact (literalText value) :=
  ⟨value, near, rfl⟩

end Writes

section Operation

/-- What takes the place of an operation with factorial marks: the factorial of its operand, or the
operation itself where it has several marks. -/
inductive Operation.Factorial : Operation → List Char → Prop
  | single {kept text : List Char} {operand : Literal} {number : ℕ}
      (integer : operandValue operand = number) (writes : Writes number.factorial text) :
      Factorial ⟨kept, operand, 0⟩ (kept ++ text)
  | several {kept : List Char} {operand : Literal} {furtherMarks : ℕ} :
      Factorial ⟨kept, operand, furtherMarks + 1⟩
        (Operation.text '!' ⟨kept, operand, furtherMarks + 1⟩)

/-- What takes the place of an operation with percent marks: the hundredth of its operand, and the
marks after the first one. -/
inductive Operation.Percentage : Operation → List Char → Prop
  | hundredth {kept text : List Char} {operand : Literal} {furtherMarks : ℕ}
      (writes : Writes (hundredthValue operand) text) :
      Percentage ⟨kept, operand, furtherMarks⟩
        (kept ++ (text ++ List.replicate furtherMarks '%'))

/-- One factorial mark is applied to a value that is no integer. -/
def Operation.Refused (operation : Operation) : Prop :=
  operation.furtherMarks = 0 ∧ ¬∃ integer : ℤ, operandValue operation.operand = integer

/-- Below `2 ^ 32` places this is a value with a digit other than zero after the point. -/
theorem Operation.refused_iff_of_lt {operation : Operation} (plain : operation.operand.Plain)
    (short : operation.operand.fraction.length < 2 ^ 32) :
    operation.Refused ↔
      operation.furtherMarks = 0 ∧ ∃ digit ∈ operation.operand.fraction, digit ≠ '0' := by
  rw [Refused, operandValue_eq_int_iff_of_lt plain short]
  simp only [not_forall, exists_prop, ne_eq]

variable {operation : Operation}

/-- **A factorial is refused, or written in place of its operand and mark.** -/
theorem write_factorial (operation : Operation) :
    (operation.Refused ∧ Mark.factorial.write (.marked operation.operand operation.furtherMarks) =
      .error (.factorial operation.operand.text)) ∨
    (¬operation.Refused ∧ ∃ text, operation.Factorial (operation.kept ++ text) ∧
      Mark.factorial.write (.marked operation.operand operation.furtherMarks) = .ok text) := by
  obtain ⟨kept, operand, _ | furtherMarks⟩ := operation
  · by_cases whole : operand.numerator % operandDenominator operand = 0
    · have integer := operandValue_eq_natCast whole
      refine Or.inr ⟨fun refused => refused.2 (operandValue_eq_int_iff.mp whole), _,
        .single integer (writes_literalText (isNearest_factorial _)), ?_⟩
      rw [Mark.write, resolveFactorial, if_pos whole, factorialText_eq]
    · refine Or.inl ⟨⟨rfl, mt operandValue_eq_int_iff.mpr whole⟩, ?_⟩
      rw [Mark.write, resolveFactorial, if_neg whole]
  · exact Or.inr ⟨fun refused => Nat.succ_ne_zero _ refused.1, _, .several, rfl⟩

/-- **A percentage is written in place of its operand and its first mark.** -/
theorem write_percentage (operation : Operation) :
    ∃ text, operation.Percentage (operation.kept ++ text) ∧
      Mark.percent.write (.marked operation.operand operation.furtherMarks) = .ok text := by
  refine ⟨_, .hundredth (writes_literalText (isNearest_hundredth operation.operand)), ?_⟩
  rw [← percentText_eq]
  rfl

end Operation

section Texts

variable {found : List Operation}

/-- The pieces of one operation, and then those behind it. -/
theorem writeAll_cons (mark : Mark) (operation : Operation) (found : List Operation)
    (ending : List Char) :
    mark.writeAll (piecesOf (operation :: found) ending) =
      joined (.ok operation.kept)
        (joined (mark.write (.marked operation.operand operation.furtherMarks))
          (mark.writeAll (piecesOf found ending))) := by
  show joined (mark.write (.plain operation.kept)) _ = _
  rw [mark.write_plain]
  rfl

/-- **The first factorial that is refused** refuses the text. -/
theorem writeAll_refused {earlier later : List Operation} {operation : Operation}
    (accepted : ∀ other ∈ earlier, ¬other.Refused) (refused : operation.Refused)
    (ending : List Char) :
    Mark.factorial.writeAll (piecesOf (earlier ++ operation :: later) ending) =
      .error (.factorial operation.operand.text) := by
  induction earlier with
  | nil =>
    obtain ⟨-, written⟩ | ⟨other, -⟩ := write_factorial operation
    · rw [List.nil_append, writeAll_cons, written]
      rfl
    · exact absurd refused other
  | cons first earlier ih =>
    obtain ⟨now, others⟩ := List.forall_mem_cons.mp accepted
    obtain ⟨other, -⟩ | ⟨-, text, -, written⟩ := write_factorial first
    · exact absurd other now
    · rw [List.cons_append, writeAll_cons, written, ih others]
      rfl

/-- **Factorials none of which is refused are all written.** -/
theorem writeAll_factorial (accepted : ∀ operation ∈ found, ¬operation.Refused)
    (ending : List Char) :
    ∃ written, List.Forall₂ Operation.Factorial found written ∧
      Mark.factorial.writeAll (piecesOf found ending) = .ok (written.flatten ++ ending) := by
  induction found with
  | nil => exact ⟨[], .nil, joined_nil _⟩
  | cons operation found ih =>
    obtain ⟨now, others⟩ := List.forall_mem_cons.mp accepted
    obtain ⟨texts, factorials, rest⟩ := ih others
    obtain ⟨other, -⟩ | ⟨-, text, factorial, written⟩ := write_factorial operation
    · exact absurd other now
    · refine ⟨_ :: texts, .cons factorial factorials, ?_⟩
      rw [writeAll_cons, written, rest]
      simp [Except.map]

/-- **Percentages are all written.** -/
theorem writeAll_percentage (found : List Operation) (ending : List Char) :
    ∃ written, List.Forall₂ Operation.Percentage found written ∧
      Mark.percent.writeAll (piecesOf found ending) = .ok (written.flatten ++ ending) := by
  induction found with
  | nil => exact ⟨[], .nil, joined_nil _⟩
  | cons operation found ih =>
    obtain ⟨texts, percentages, rest⟩ := ih
    obtain ⟨text, percentage, written⟩ := write_percentage operation
    refine ⟨_ :: texts, .cons percentage percentages, ?_⟩
    rw [writeAll_cons, written, rest]
    simp [Except.map]

/-- **The operations of a text are found and resolved.** They are told in one way. The first
factorial of a value that is no integer refuses the text, with its operand; else every factorial is
written in place of its operand and mark. A percentage is written in place of its operand and its
first mark. All other characters are kept. The values are those of the operands below `2 ^ 32`
places, where the refused ones have a digit other than zero after the point. -/
theorem resolve_operations (text : List Char) :
    ((∃ found ending, Operations '!' text found ending) ∧
      ∀ found ending, Operations '!' text found ending →
        (∀ earlier operation later, found = earlier ++ operation :: later →
          (∀ other ∈ earlier, ¬other.Refused) → operation.Refused →
            resolveFactorials text = .error (.factorial operation.operand.text)) ∧
        ((∀ operation ∈ found, ¬operation.Refused) →
          ∃ written, List.Forall₂ Operation.Factorial found written ∧
            resolveFactorials text = .ok (written.flatten ++ ending))) ∧
    ((∃ found ending, Operations '%' text found ending) ∧
      ∀ found ending, Operations '%' text found ending →
        ∃ written, List.Forall₂ Operation.Percentage found written ∧
          resolvePercents text = written.flatten ++ ending) ∧
    (∀ operation : Operation, operation.operand.Plain →
      operation.operand.fraction.length < 2 ^ 32 →
        operandValue operation.operand = operation.operand.toRat ∧
        (operation.Refused ↔
          operation.furtherMarks = 0 ∧ ∃ digit ∈ operation.operand.fraction, digit ≠ '0')) ∧
    ∀ literal : Literal, literal.fraction.length + 2 < 2 ^ 32 →
      hundredthValue literal = literal.toRat / 100 := by
  obtain ⟨factorials, last, marking, factorial⟩ := exists_marking .factorial text
  obtain ⟨percentages, last', marking', percent⟩ := exists_marking .percent text
  have operations := marking.operations (Mark.sign_isDigit _) (Mark.sign_ne_point _)
  have operations' := marking'.operations (Mark.sign_isDigit _) (Mark.sign_ne_point _)
  refine ⟨⟨⟨_, _, operations⟩, ?_⟩, ⟨⟨_, _, operations'⟩, ?_⟩,
    fun operation plain short =>
      ⟨operandValue_of_lt short, Operation.refused_iff_of_lt plain short⟩,
    fun literal => hundredthValue_of_lt⟩
  · intro found ending described
    obtain ⟨rfl, rfl⟩ := operations.unique described
    constructor
    · rintro earlier operation later rfl accepted refused
      exact factorial.trans (writeAll_refused accepted refused _)
    · intro accepted
      obtain ⟨written, shown, equal⟩ := writeAll_factorial accepted last
      exact ⟨written, shown, factorial.trans equal⟩
  · intro found ending described
    obtain ⟨rfl, rfl⟩ := operations'.unique described
    obtain ⟨written, shown, equal⟩ := writeAll_percentage percentages last'
    exact ⟨written, shown, Except.ok.inj (percent.trans equal)⟩

end Texts

section Examples

/-- A literal with a mark is one operation. -/
theorem operations_of_literal {mark : Char} (digit : mark.isDigit = false) (point : mark ≠ '.')
    {operand : Literal} (plain : operand.Plain) :
    Operations mark (operand.text ++ [mark]) [⟨[], operand, 0⟩] [] := by
  obtain ⟨attached, whole⟩ :=
    attached_of_markedLiteral? digit point (markedLiteral?_text plain digit point [])
  have marking := Marking.operation attached (.ending .nil)
  rw [whole] at marking
  exact marking.operations digit point

/-- A factorial and a percentage in one text. -/
theorem resolve_operations_sum :
    Operations '!' "3!+50%".toList [⟨[], ⟨['3'], []⟩, 0⟩] "+50%".toList ∧
      resolveFactorials "3!+50%".toList = .ok "6+50%".toList ∧
      Operations '%' "3!+50%".toList [⟨"3!+".toList, ⟨['5', '0'], []⟩, 0⟩] [] ∧
      resolvePercents "3!+50%".toList = "3!+0.5".toList := by
  have three : Literal.Plain ⟨['3'], []⟩ := ⟨List.cons_ne_nil _ _, by simp, by simp⟩
  have fifty : Literal.Plain ⟨['5', '0'], []⟩ := ⟨List.cons_ne_nil _ _, by simp, by simp⟩
  obtain ⟨⟨-, factorials⟩, ⟨-, percentages⟩, -⟩ := resolve_operations "3!+50%".toList
  have operations : Operations '!' "3!+50%".toList [⟨[], ⟨['3'], []⟩, 0⟩] "+50%".toList := by
    have found : markedLiteral? '!' "3!+50%".toList = some (⟨['3'], []⟩, "+50%".toList) := by
      decide
    obtain ⟨attached, -⟩ := attached_of_markedLiteral? (by decide) (by decide) found
    have marking := Marking.operation attached (.ending (unmarked_of_notMem (by decide)))
    exact marking.operations (by decide) (by decide)
  have operations' :
      Operations '%' "3!+50%".toList [⟨"3!+".toList, ⟨['5', '0'], []⟩, 0⟩] [] := by
    have alone : Longest [] ⟨['5', '0'], []⟩ := fun _ _ inside => inside
    have longest : Longest ("3!".toList ++ ['+']) ⟨['5', '0'], []⟩ :=
      alone.behind (by decide) (by decide) _
    have attached : Operation.Attached '%' ⟨"3!+".toList, ⟨['5', '0'], []⟩, 0⟩ [] :=
      ⟨fifty, unmarked_of_notMem (by decide), longest, stops_nil⟩
    exact (Marking.operation attached (.ending .nil)).operations (by decide) (by decide)
  have six : resolveFactorials "3!+50%".toList = .ok "6+50%".toList := by
    have exact : operandValue ⟨['3'], []⟩ = (3 : ℕ) :=
      operandValue_eq_natCast (by decide)
    have accepted : ∀ operation ∈ [(⟨[], ⟨['3'], []⟩, 0⟩ : Operation)], ¬operation.Refused :=
      List.forall_mem_singleton.mpr fun refused => refused.2 ⟨3, exact⟩
    obtain ⟨written, shown, resolved⟩ := (factorials _ _ operations).2 accepted
    obtain ⟨text, _, factorial, rest, rfl⟩ := List.forall₂_cons_left_iff.mp shown
    cases rest
    cases factorial with
    | single integer writes =>
      obtain rfl := Nat.cast_injective (R := ℚ) (exact.symm.trans integer)
      rw [resolved, writes.eq (isNearest_factorial 3)]
      decide +kernel
  have half : resolvePercents "3!+50%".toList = "3!+0.5".toList := by
    obtain ⟨written, shown, resolved⟩ := percentages _ _ operations'
    obtain ⟨text, _, percentage, rest, rfl⟩ := List.forall₂_cons_left_iff.mp shown
    cases rest
    cases percentage with
    | hundredth writes =>
      rw [resolved, writes.eq (isNearest_hundredth _)]
      decide +kernel
  exact ⟨operations, six, operations', half⟩

/-- With `2 ^ 32` places a factorial of a number below one is written. -/
theorem resolve_operations_long :
    let operand := behindZeros (2 ^ 32 - 1) ['1']
    Operations '!' (operand.text ++ ['!']) [⟨[], operand, 0⟩] [] ∧
      (∃ digit ∈ operand.fraction, digit ≠ '0') ∧
      resolveFactorials (operand.text ++ ['!']) = .ok ['1'] := by
  intro operand
  have all : ∀ digit ∈ ['1'], digit.isDigit = true := List.forall_mem_singleton.mpr (by decide)
  exact ⟨operations_of_literal (by decide) (by decide) (plain_behindZeros all),
    ⟨'1', List.mem_append_right _ (List.mem_singleton.mpr rfl), by decide⟩,
    resolveFactorials_one_behindZeros⟩

end Examples

end ScientificCalculator.Canonical
