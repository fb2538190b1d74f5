/-
**Every expression has its postfix list.**

Reading the tokens of a phrase writes most of its postfix list and leaves the rest as operators on
the stack, tight enough for the phrase. Whatever comes next finds them there.

* `Tight`: pending operators, none of which binds more loosely than the phrase.
* `Fits`: a phrase may begin above what is pending.
* `release_append`, `close?_append`, `finish?_eq`: the three ways in which tight operators go out.
* `operand_append_of_derives`: reading one phrase.
* `ofTokens_of_derives`: the tokens of a sum are put in the postfix order of its tree.
-/

import ScientificCalculator.Proofs.Joined
import ScientificCalculator.Proofs.Rpn.Grammar

namespace ScientificCalculator.Rpn

namespace Pending

/-- The token that a pending item writes when it goes out. -/
def written : Pending → List Token
  | neg => [.neg]
  | op operation => [.op operation]
  | paren none => []
  | paren (some func) => [.func func]

/-- How tightly a pending operator binds; a parenthesis is no operator. -/
def precedence? : Pending → Option Nat
  | neg => some BinOp.negPrecedence
  | op operation => some operation.precedence
  | paren _ => none

end Pending

/-- What a stack writes, from the top. -/
def writtenAll (stack : List Pending) : List Token :=
  stack.flatMap Pending.written

section Operators

/-- The least precedence among the operators that a phrase can leave pending; an atom leaves none,
and no operator has precedence five. -/
def leastPrecedence : Phrase → Nat
  | .sum => 1
  | .product => 2
  | .signed | .power => 3
  | .atom => 5

/-- Operators, all of them at least as tight as the phrase asks. -/
def Tight (phrase : Phrase) (own : List Pending) : Prop :=
  ∀ item ∈ own, ∃ precedence, item.precedence? = some precedence ∧
    leastPrecedence phrase ≤ precedence

theorem leastPrecedence_mono {loose tight : Phrase} (le : loose ≤ tight) :
    leastPrecedence loose ≤ leastPrecedence tight := by
  revert le
  cases loose <;> cases tight <;> decide

theorem Tight.nil (phrase : Phrase) : Tight phrase [] := fun _ member => by cases member

theorem Tight.loosen {loose tight : Phrase} {own : List Pending}
    (le : leastPrecedence loose ≤ leastPrecedence tight) (operators : Tight tight own) :
    Tight loose own := by
  intro item member
  obtain ⟨precedence, has, least⟩ := operators item member
  exact ⟨precedence, has, Nat.le_trans le least⟩

theorem Tight.concat {phrase : Phrase} {own : List Pending} (operators : Tight phrase own)
    {item : Pending} {precedence : Nat} (has : item.precedence? = some precedence)
    (least : leastPrecedence phrase ≤ precedence) : Tight phrase (own ++ [item]) := by
  intro other member
  rcases List.mem_append.mp member with member | member
  · exact operators other member
  · obtain rfl := List.mem_singleton.mp member
    exact ⟨precedence, has, least⟩

/-- The operators left by the left operand of an operation go out before it. -/
theorem waitsFor_of_leastPrecedence {operation : BinOp} {precedence : Nat}
    (least : leastPrecedence operation.leftPhrase ≤ precedence) :
    operation.waitsFor precedence = true := by
  cases operation <;> exact decide_eq_true least

/-- **An operation releases the operators of its left operand**, and then what it would release
without them. -/
theorem release_append {operation : BinOp} {own : List Pending}
    (operators : Tight operation.leftPhrase own) (below : List Pending) :
    release operation (own ++ below) =
      (writtenAll own ++ (release operation below).1, (release operation below).2) := by
  induction own with
  | nil => rfl
  | cons item own ih =>
    obtain ⟨precedence, has, least⟩ := operators item List.mem_cons_self
    have waits := waitsFor_of_leastPrecedence least
    have rest := ih fun other member => operators other (List.mem_cons_of_mem _ member)
    cases item with
    | neg =>
      obtain rfl := Option.some.inj has
      rw [List.cons_append, release, if_pos waits, rest]
      rfl
    | op pending =>
      obtain rfl := Option.some.inj has
      rw [List.cons_append, release, if_pos waits, rest]
      rfl
    | paren func => cases has

/-- **A closing parenthesis releases the operators inside it.** -/
theorem close?_append {phrase : Phrase} {own : List Pending} (operators : Tight phrase own)
    (func : Option Func) (below : List Pending) :
    close? (own ++ .paren func :: below) =
      some (writtenAll own ++ (Pending.paren func).written, below) := by
  induction own with
  | nil => cases func <;> rfl
  | cons item own ih =>
    obtain ⟨precedence, has, _⟩ := operators item List.mem_cons_self
    have rest := ih fun other member => operators other (List.mem_cons_of_mem _ member)
    cases item with
    | neg =>
      rw [List.cons_append, close?, rest]
      rfl
    | op pending =>
      rw [List.cons_append, close?, rest]
      rfl
    | paren func => cases has

/-- **The end of the tokens releases all operators.** -/
theorem finish?_eq {phrase : Phrase} {own : List Pending} (operators : Tight phrase own) :
    finish? own = some (writtenAll own) := by
  induction own with
  | nil => rfl
  | cons item own ih =>
    obtain ⟨precedence, has, _⟩ := operators item List.mem_cons_self
    have rest := ih fun other member => operators other (List.mem_cons_of_mem _ member)
    cases item with
    | neg =>
      rw [finish?, rest]
      rfl
    | op pending =>
      rw [finish?, rest]
      rfl
    | paren func => cases has

end Operators

section Reading

/-- No operation inside a phrase of this kind takes anything pending as its left operand. -/
def Fits (phrase : Phrase) (pending : List Pending) : Prop :=
  ∀ operation : BinOp, phrase ≤ operation.phrase → release operation pending = ([], pending)

theorem Fits.tighten {loose tight : Phrase} {pending : List Pending} (le : loose ≤ tight)
    (fits : Fits loose pending) : Fits tight pending :=
  fun operation within => fits operation (Phrase.le_trans le within)

theorem fits_nil (phrase : Phrase) : Fits phrase [] := fun _ _ => rfl

theorem fits_paren (phrase : Phrase) (func : Option Func) (below : List Pending) :
    Fits phrase (.paren func :: below) := fun _ _ => rfl

/-- A signed phrase may stand after a sign. -/
theorem fits_neg (below : List Pending) : Fits .signed (.neg :: below) := by
  intro operation within
  revert within
  cases operation <;> first | exact fun within => absurd within (by decide) | exact fun _ => rfl

/-- The right operand of an operation may stand after it. -/
theorem fits_op (operation : BinOp) (below : List Pending) :
    Fits operation.rightPhrase (.op operation :: below) := by
  intro inner within
  revert within
  cases operation <;> cases inner <;>
    first | exact fun within => absurd within (by decide) | exact fun _ => rfl

theorem phrase_le_leftPhrase (operation : BinOp) : operation.phrase ≤ operation.leftPhrase := by
  cases operation <;> decide

theorem leastPrecedence_phrase_le (operation : BinOp) :
    leastPrecedence operation.phrase ≤ leastPrecedence operation.rightPhrase ∧
      leastPrecedence operation.phrase ≤ operation.precedence := by
  cases operation <;> decide

/-- The tokens of a phrase were read: the output and the operators left pending make up the postfix
list of its tree. -/
def Reads (phrase : Phrase) (tokens : List Token) (tree : Expr) (rest : List Token)
    (pending : List Pending) : Prop :=
  ∃ output own, operand (tokens ++ rest) pending =
      (operator rest (own ++ pending)).map (output ++ ·) ∧
    output ++ writtenAll own = tree.rpn ∧ Tight phrase own

/-- Nothing is left pending after an atom. -/
theorem Reads.atom {tokens : List Token} {tree : Expr} {rest : List Token} {pending : List Pending}
    (read : operand (tokens ++ rest) pending = (operator rest pending).map (tree.rpn ++ ·)) :
    Reads .atom tokens tree rest pending :=
  ⟨tree.rpn, [], read, List.append_nil _, Tight.nil _⟩

/-- The closing parenthesis after a sum. -/
theorem Reads.closed {tokens : List Token} {tree : Expr} {rest : List Token}
    {func : Option Func} {pending : List Pending}
    (inside : Reads .sum tokens tree (.rparen :: rest) (.paren func :: pending)) :
    operand (tokens ++ .rparen :: rest) (.paren func :: pending) =
      (operator rest pending).map (tree.rpn ++ (Pending.paren func).written ++ ·) := by
  obtain ⟨output, own, read, rpn, tight⟩ := inside
  rw [read, operator, close?_append tight, ← rpn]
  dsimp only
  rw [map_append_map, List.append_assoc output]

/-- The right operand after the left one and the operation. -/
theorem Reads.bin {operation : BinOp} {before after : List Token} {left right : Expr}
    {rest : List Token} {pending : List Pending} (fits : Fits operation.phrase pending)
    (leftward : Reads operation.leftPhrase before left (.op operation :: (after ++ rest)) pending)
    (rightward : Reads operation.rightPhrase after right rest (.op operation :: pending)) :
    Reads operation.phrase (before ++ .op operation :: after) (.bin operation left right) rest
      pending := by
  obtain ⟨output, own, read, rpn, tight⟩ := leftward
  obtain ⟨output', own', read', rpn', tight'⟩ := rightward
  refine ⟨output ++ writtenAll own ++ output', own' ++ [.op operation], ?_, ?_, ?_⟩
  · rw [List.append_assoc, List.cons_append, read, operator, release_append tight,
      fits operation (Phrase.le_refl _)]
    dsimp only
    rw [List.append_nil, read', map_append_map, map_append_map, List.append_assoc output,
      List.append_assoc own', List.singleton_append]
  · rw [Expr.rpn, ← rpn, ← rpn']
    simp [writtenAll, Pending.written]
  · have least := leastPrecedence_phrase_le operation
    exact (tight'.loosen least.1).concat rfl least.2

/-- **Reading one phrase.** The induction is on the derivation; the stack below and the tokens after
are arbitrary, since operands are read above what is pending and before what follows. -/
theorem operand_append_of_derives {phrase : Phrase} {tokens : List Token} {tree : Expr}
    (derivation : Derives phrase tokens tree) :
    ∀ (rest : List Token) (pending : List Pending), Fits phrase pending →
      Reads phrase tokens tree rest pending := by
  induction derivation with
  | loosen le _ ih =>
    intro rest pending fits
    obtain ⟨output, own, read, rpn, tight⟩ := ih rest pending (fits.tighten le)
    exact ⟨output, own, read, rpn, tight.loosen (leastPrecedence_mono le)⟩
  | bin operation _ _ leftward rightward =>
    intro rest pending fits
    exact Reads.bin fits
      (leftward _ pending (fits.tighten (phrase_le_leftPhrase operation)))
      (rightward rest _ (fits_op operation pending))
  | plus _ ih =>
    intro rest pending fits
    obtain ⟨output, own, read, rpn, tight⟩ := ih rest pending fits
    exact ⟨output, own, by rw [List.cons_append, operand, read], rpn, tight⟩
  | minus _ ih =>
    intro rest pending _
    obtain ⟨output, own, read, rpn, tight⟩ := ih rest (.neg :: pending) (fits_neg pending)
    refine ⟨output, own ++ [.neg], ?_, ?_, tight.concat rfl (Nat.le_refl _)⟩
    · rw [List.cons_append, operand, read, List.append_assoc, List.singleton_append]
    · rw [Expr.rpn, ← rpn]
      simp [writtenAll, Pending.written]
  | num value =>
    intro rest pending _
    exact Reads.atom rfl
  | call func _ ih =>
    intro rest pending _
    have read := (ih (.rparen :: rest) (.paren (some func) :: pending) (fits_paren _ _ _)).closed
    refine Reads.atom ?_
    simp only [List.cons_append, List.append_assoc, List.nil_append, operand]
    exact read
  | group _ ih =>
    intro rest pending _
    have read := (ih (.rparen :: rest) (.paren none :: pending) (fits_paren _ _ _)).closed
    refine Reads.atom ?_
    simp only [List.cons_append, List.append_assoc, List.nil_append, operand]
    simpa only [Pending.written, List.append_nil] using read

/-- **The tokens of a sum are put in the postfix order of its tree.** -/
theorem ofTokens_of_derives {tokens : List Token} {tree : Expr}
    (derivation : Derives .sum tokens tree) : ofTokens tokens = .ok tree.rpn := by
  obtain ⟨output, own, read, rpn, tight⟩ :=
    operand_append_of_derives derivation [] [] (fits_nil _)
  rw [List.append_nil, List.append_nil] at read
  rw [ofTokens, read, operator, finish?_eq tight, ← rpn]
  rfl

end Reading

end ScientificCalculator.Rpn
