/-
**Only expressions have a postfix list.**

While the tokens are read, the stack holds the beginnings of the phrases that are not complete yet.
Each item on it was put there by a sign, a parenthesis or an operation with its left operand, and
tells which phrase has to come next.

* `Awaits`: what was read and written so far, and the phrase that has to come next.
* `Complete`: what was read ends with a complete phrase.
* `Complete.release`: an operation finds its left operand complete.
* `operand_sound`, `operator_sound`: the two phases end with the postfix list of a sum.
* `ofTokens_eq_ok_iff`: the lists that are put in postfix order, and what the order is.
-/

import ScientificCalculator.Proofs.Rpn.Completeness

namespace ScientificCalculator.Rpn

section Invariant

/-- **The stack while an operand is expected**: the phrase that has to come next, the stack, the
tokens read and the tokens written. -/
inductive Awaits : Phrase → List Pending → List Token → List Token → Prop
  | start : Awaits .sum [] [] []
  | group {awaited : Phrase} {pending : List Pending} {read written : List Token}
      (outside : Awaits awaited pending read written) :
      Awaits .sum (.paren none :: pending) (read ++ [.lparen]) written
  | call (func : Func) {awaited : Phrase} {pending : List Pending} {read written : List Token}
      (outside : Awaits awaited pending read written) :
      Awaits .sum (.paren (some func) :: pending) (read ++ [.func func, .lparen]) written
  | plus {awaited : Phrase} {pending : List Pending} {read written : List Token}
      (outside : Awaits awaited pending read written) :
      Awaits .signed pending (read ++ [.op .add]) written
  | minus {awaited : Phrase} {pending : List Pending} {read written : List Token}
      (outside : Awaits awaited pending read written) :
      Awaits .signed (.neg :: pending) (read ++ [.op .sub]) written
  | bin (operation : BinOp) {awaited : Phrase} {pending : List Pending}
      {read written tokens : List Token} {left : Expr}
      (outside : Awaits awaited pending read written) (le : awaited ≤ operation.phrase)
      (leftward : Derives operation.leftPhrase tokens left) :
      Awaits operation.rightPhrase (.op operation :: pending)
        (read ++ (tokens ++ [.op operation])) (written ++ left.rpn)

/-- Wherever an operand is expected it may have a sign. -/
theorem Awaits.le_signed {awaited : Phrase} {pending : List Pending} {read written : List Token}
    (state : Awaits awaited pending read written) : awaited ≤ .signed := by
  cases state with
  | bin operation _ _ _ => cases operation <;> decide
  | _ => decide

/-- **The stack while an operator is expected**: what was read ends with a complete phrase of kind
`tight`, where one no tighter than `loosest` is expected. -/
def Complete (loosest tight : Phrase) (pending : List Pending) (read written : List Token) : Prop :=
  ∃ awaited before tokens output tree, Awaits awaited pending before output ∧
    awaited ≤ loosest ∧ Derives tight tokens tree ∧
    read = before ++ tokens ∧ written = output ++ tree.rpn

/-- An atom is complete wherever an operand is expected. -/
theorem Awaits.complete {awaited : Phrase} {pending : List Pending} {read written : List Token}
    (state : Awaits awaited pending read written) {tokens : List Token} {tree : Expr}
    (atom : Derives .atom tokens tree) :
    Complete .signed .atom pending (read ++ tokens) (written ++ tree.rpn) :=
  ⟨awaited, read, tokens, written, tree, state, state.le_signed, atom, rfl, rfl⟩

end Invariant

section Release

/-- A power leaves everything pending. -/
theorem release_pow (pending : List Pending) : release .pow pending = ([], pending) := by
  cases pending with
  | nil => rfl
  | cons item below =>
    cases item with
    | neg => rfl
    | op other => cases other <;> rfl
    | paren func => rfl

/-- Sums and products release a unary minus. -/
theorem waitsFor_neg {operation : BinOp} (loose : operation.leftPhrase ≤ .signed) :
    operation.waitsFor BinOp.negPrecedence = true := by
  revert loose
  cases operation <;> decide

/-- The phrase of an operation that is released is complete enough for the one that releases it. -/
theorem leftPhrase_le_of_waitsFor {operation other : BinOp}
    (waits : operation.waitsFor other.precedence = true) :
    operation.leftPhrase ≤ other.phrase := by
  revert waits
  cases operation <;> cases other <;> decide

/-- An operation that is not released takes the one above it as a part of its right operand. -/
theorem rightPhrase_le_of_not_waitsFor {operation other : BinOp}
    (stays : ¬ operation.waitsFor other.precedence = true) :
    other.rightPhrase ≤ operation.phrase := by
  revert stays
  cases operation <;> cases other <;> decide

/-- A phrase is complete below a stack that releases nothing. -/
theorem Awaits.kept {awaited tight : Phrase} {pending : List Pending} {before output : List Token}
    {operation : BinOp} (state : Awaits awaited pending before output)
    (le : awaited ≤ operation.phrase) {tokens : List Token} {tree : Expr}
    (phrase : Derives tight tokens tree) (enough : operation.leftPhrase ≤ tight)
    (nothing : release operation pending = ([], pending)) :
    Complete operation.phrase operation.leftPhrase (release operation pending).2 (before ++ tokens)
      (output ++ tree.rpn ++ (release operation pending).1) := by
  rw [nothing]
  exact ⟨awaited, before, tokens, output, tree, state, le, .loosen enough phrase, rfl,
    List.append_nil _⟩

/-- **A sum or a product finds its left operand complete.** The induction is on the stack: each
released item turns the phrase above it into a looser one. -/
theorem Awaits.release {awaited : Phrase} {pending : List Pending} {before output : List Token}
    {operation : BinOp} (loose : operation.leftPhrase ≤ .signed)
    (state : Awaits awaited pending before output) :
    ∀ {tight : Phrase} {tokens : List Token} {tree : Expr}, Derives tight tokens tree →
      awaited ≤ tight → operation.leftPhrase ≤ tight →
      Complete operation.phrase operation.leftPhrase (Rpn.release operation pending).2
        (before ++ tokens) (output ++ tree.rpn ++ (Rpn.release operation pending).1) := by
  induction state with
  | start =>
    intro tight tokens tree phrase _ enough
    exact Awaits.start.kept (Phrase.sum_le _) phrase enough rfl
  | group outside _ =>
    intro tight tokens tree phrase _ enough
    exact (Awaits.group outside).kept (Phrase.sum_le _) phrase enough rfl
  | call func outside _ =>
    intro tight tokens tree phrase _ enough
    exact (Awaits.call func outside).kept (Phrase.sum_le _) phrase enough rfl
  | plus outside ih =>
    intro tight tokens tree phrase le _
    have signed := ih (.plus (.loosen le phrase)) outside.le_signed loose
    rwa [List.append_assoc, List.singleton_append]
  | @minus _ pending _ _ outside ih =>
    intro tight tokens tree phrase le _
    have signed := ih (.minus (.loosen le phrase)) outside.le_signed loose
    have released : Rpn.release operation (.neg :: pending) =
        (.neg :: (Rpn.release operation pending).1, (Rpn.release operation pending).2) := by
      rw [Rpn.release, if_pos (waitsFor_neg loose)]
    rw [released, List.append_assoc, List.singleton_append]
    simpa only [Expr.rpn, List.append_assoc, List.singleton_append] using signed
  | @bin other _ pending _ _ _ _ outside below leftward ih =>
    intro tight tokens tree phrase le enough
    by_cases waits : operation.waitsFor other.precedence = true
    · have made := ih (.bin other leftward (.loosen le phrase)) below
        (leftPhrase_le_of_waitsFor waits)
      have released : Rpn.release operation (.op other :: pending) =
          (.op other :: (Rpn.release operation pending).1, (Rpn.release operation pending).2) := by
        rw [Rpn.release, if_pos waits]
      rw [released]
      simpa only [Expr.rpn, List.append_assoc, List.singleton_append] using made
    · have stays : Rpn.release operation (.op other :: pending) = ([], .op other :: pending) := by
        rw [Rpn.release, if_neg waits]
      exact (Awaits.bin other outside below leftward).kept (rightPhrase_le_of_not_waitsFor waits)
        phrase enough stays

/-- **An operation after an atom finds its left operand complete.** -/
theorem Complete.release (operation : BinOp) {pending : List Pending} {read written : List Token}
    (state : Complete .signed .atom pending read written) :
    Complete operation.phrase operation.leftPhrase (Rpn.release operation pending).2 read
      (written ++ (Rpn.release operation pending).1) := by
  obtain ⟨awaited, before, tokens, output, tree, below, le, atom, rfl, rfl⟩ := state
  by_cases loose : operation.leftPhrase ≤ .signed
  · exact below.release loose atom (Phrase.le_atom _) (Phrase.le_atom _)
  · obtain rfl : operation = .pow := by
      revert loose
      cases operation <;> decide
    exact below.kept (Phrase.le_trans le (by decide)) atom (Phrase.le_refl _) (release_pow pending)

/-- Then its right operand is expected. -/
theorem Complete.bin {operation : BinOp} {pending : List Pending} {read written : List Token}
    (state : Complete operation.phrase operation.leftPhrase pending read written) :
    Awaits operation.rightPhrase (.op operation :: pending) (read ++ [.op operation]) written := by
  obtain ⟨awaited, before, tokens, output, tree, below, le, leftward, rfl, rfl⟩ := state
  rw [List.append_assoc]
  exact .bin operation below le leftward

end Release

section Closing

/-- A sum releases every operator up to the next parenthesis. -/
theorem release_add_op (other : BinOp) (below : List Pending) :
    release .add (.op other :: below) =
      (.op other :: (release .add below).1, (release .add below).2) := by
  cases other <;> rfl

/-- A closing parenthesis releases what a sum would release. -/
theorem release_add_of_close? : ∀ {pending kept : List Pending} {released : List Token},
    close? pending = some (released, kept) →
      ∃ func, (release .add pending).2 = .paren func :: kept ∧
        released = (release .add pending).1 ++ (Pending.paren func).written
  | [], _, _, closed => by cases closed
  | .paren none :: below, _, _, closed => by
    obtain ⟨rfl, rfl⟩ := Prod.mk.inj (Option.some.inj closed)
    exact ⟨none, rfl, rfl⟩
  | .paren (some func) :: below, _, _, closed => by
    obtain ⟨rfl, rfl⟩ := Prod.mk.inj (Option.some.inj closed)
    exact ⟨some func, rfl, rfl⟩
  | .neg :: below, _, _, closed => by
    rw [close?, Option.map_eq_some_iff] at closed
    obtain ⟨⟨inner, kept⟩, closed, equal⟩ := closed
    obtain ⟨rfl, rfl⟩ := Prod.mk.inj equal
    obtain ⟨func, stack, rfl⟩ := release_add_of_close? closed
    exact ⟨func, stack, rfl⟩
  | .op other :: below, _, _, closed => by
    rw [close?, Option.map_eq_some_iff] at closed
    obtain ⟨⟨inner, kept⟩, closed, equal⟩ := closed
    obtain ⟨rfl, rfl⟩ := Prod.mk.inj equal
    obtain ⟨func, stack, rfl⟩ := release_add_of_close? closed
    rw [release_add_op]
    exact ⟨func, stack, rfl⟩

/-- The end of the tokens releases what a sum would release. -/
theorem release_add_of_finish? : ∀ {pending : List Pending} {released : List Token},
    finish? pending = some released → release .add pending = (released, [])
  | [], _, finished => by
    obtain rfl := Option.some.inj finished
    rfl
  | .paren _ :: _, _, finished => by cases finished
  | .neg :: below, _, finished => by
    rw [finish?, Option.map_eq_some_iff] at finished
    obtain ⟨inner, finished, rfl⟩ := finished
    have rest := release_add_of_finish? finished
    rw [release, if_pos (by decide), rest]
  | .op other :: below, _, finished => by
    rw [finish?, Option.map_eq_some_iff] at finished
    obtain ⟨inner, finished, rfl⟩ := finished
    rw [release_add_op, release_add_of_finish? finished]

/-- **A closing parenthesis completes an atom.** -/
theorem Complete.close {pending kept : List Pending} {read written released : List Token}
    (state : Complete .signed .atom pending read written)
    (closed : close? pending = some (released, kept)) :
    Complete .signed .atom kept (read ++ [.rparen]) (written ++ released) := by
  have inside := state.release .add
  obtain ⟨func, stack, rfl⟩ := release_add_of_close? closed
  rw [stack] at inside
  obtain ⟨awaited, before, tokens, output, tree, below, le, sum, rfl, equal⟩ := inside
  rw [← List.append_assoc, equal]
  cases below with
  | group outside =>
    have atom := outside.complete (.group sum)
    simpa only [Pending.written, List.append_assoc, List.append_nil, List.nil_append,
      List.cons_append] using atom
  | call func outside =>
    have atom := outside.complete (.call func sum)
    simpa only [Pending.written, Expr.rpn, List.append_assoc, List.nil_append, List.cons_append]
      using atom
  | plus _ => exact absurd le (by decide)

/-- **At the end everything read is one sum.** -/
theorem Complete.finish {pending : List Pending} {read written released : List Token}
    (state : Complete .signed .atom pending read written)
    (finished : finish? pending = some released) :
    ∃ tree, Derives .sum read tree ∧ written ++ released = tree.rpn := by
  have whole := state.release .add
  rw [release_add_of_finish? finished] at whole
  obtain ⟨awaited, before, tokens, output, tree, below, le, sum, rfl, equal⟩ := whole
  rw [equal]
  cases below with
  | start => exact ⟨tree, sum, rfl⟩
  | plus _ => exact absurd le (by decide)

end Closing

section Reading

mutual

/-- **Reading where an operand is expected**: what was read and the tokens that remain are a sum,
and what was written and is still to write is its postfix list. -/
theorem operand_sound : ∀ (rest : List Token) {awaited : Phrase} {pending : List Pending}
    {read written output : List Token}, Awaits awaited pending read written →
      operand rest pending = .ok output →
      ∃ tree, Derives .sum (read ++ rest) tree ∧ written ++ output = tree.rpn
  | [], _, _, _, _, _, _, accepted => by cases accepted
  | .num value :: rest, _, _, read, written, _, state, accepted => by
    obtain ⟨output, remaining, rfl⟩ := map_eq_ok_iff.mp accepted
    have whole := operator_sound rest (state.complete (.num value)) remaining
    simpa only [Expr.rpn, List.append_assoc, List.singleton_append] using whole
  | .func func :: .lparen :: rest, _, _, read, _, _, state, accepted => by
    have whole := operand_sound rest (.call func state) accepted
    simpa only [List.append_assoc, List.cons_append, List.nil_append] using whole
  | .lparen :: rest, _, _, read, _, _, state, accepted => by
    have whole := operand_sound rest (.group state) accepted
    simpa only [List.append_assoc, List.singleton_append] using whole
  | .op .add :: rest, _, _, read, _, _, state, accepted => by
    have whole := operand_sound rest (.plus state) accepted
    simpa only [List.append_assoc, List.singleton_append] using whole
  | .op .sub :: rest, _, _, read, _, _, state, accepted => by
    have whole := operand_sound rest (.minus state) accepted
    simpa only [List.append_assoc, List.singleton_append] using whole

/-- **Reading where an operator is expected.** -/
theorem operator_sound : ∀ (rest : List Token) {pending : List Pending}
    {read written output : List Token}, Complete .signed .atom pending read written →
      operator rest pending = .ok output →
      ∃ tree, Derives .sum (read ++ rest) tree ∧ written ++ output = tree.rpn
  | [], pending, read, written, output, state, accepted => by
    cases finished : finish? pending with
    | none => simp [operator, finished] at accepted
    | some released =>
      rw [operator, finished] at accepted
      obtain rfl := Except.ok.inj accepted
      rw [List.append_nil]
      exact state.finish finished
  | .rparen :: rest, pending, read, written, output, state, accepted => by
    cases closed : close? pending with
    | none => simp [operator, closed] at accepted
    | some outcome =>
      rw [operator, closed] at accepted
      obtain ⟨output, remaining, rfl⟩ := map_eq_ok_iff.mp accepted
      have whole := operator_sound rest (state.close closed) remaining
      simpa only [List.append_assoc, List.singleton_append] using whole
  | .op operation :: rest, pending, read, written, output, state, accepted => by
    rw [operator] at accepted
    obtain ⟨output, remaining, rfl⟩ := map_eq_ok_iff.mp accepted
    have whole := operand_sound rest (state.release operation).bin remaining
    simpa only [List.append_assoc, List.singleton_append] using whole

end

/-- **The lists of tokens that are put in postfix order are those of the grammar**, and the order is
that of their tree. -/
theorem ofTokens_eq_ok_iff {tokens output : List Token} :
    ofTokens tokens = .ok output ↔ ∃ tree, Derives .sum tokens tree ∧ output = tree.rpn := by
  constructor
  · intro accepted
    exact operand_sound tokens .start accepted
  · rintro ⟨tree, derivation, rfl⟩
    exact ofTokens_of_derives derivation

/-- A power takes a negation as its right operand, and is negated as a whole. -/
example (one two three four : Float) :
    ofTokens [.num one, .op .pow, .op .sub, .num two, .op .pow, .op .sub, .num three, .op .mul,
      .num four] =
    .ok [.num one, .num two, .num three, .neg, .op .pow, .neg, .op .pow, .num four, .op .mul] :=
  rfl

/-- **A list of tokens has one tree at most.** -/
theorem derives_unique {tokens : List Token} {first second : Expr}
    (one : Derives .sum tokens first) (other : Derives .sum tokens second) : first = second := by
  have both := ofTokens_of_derives one
  rw [ofTokens_of_derives other] at both
  exact Expr.rpn_injective (Except.ok.inj both).symm

end Reading

end ScientificCalculator.Rpn
