/-
**The text of a tree, read again.**

Every operation on two numbers is written in parentheses of its own, a negation only has its operand
in parentheses. In front of a power sign the minus is then no part of the base, and what is read
there is the negation of a power.

* `Expr.written`: the tokens of the text of a tree.
* `Expr.spells_text`, `Expr.tokenize_text`: they are read from it.
* `Expr.reread`: the tree with the minus signs of all bases in front of the powers.
* `Expr.derives_written`: it is the tree of these tokens.
* `Expr.reread_eq_iff`: it is the same tree when no power has a negation as its base.
-/

import ScientificCalculator.Proofs.Expr.Opening
import ScientificCalculator.Proofs.Rpn.Grammar
import ScientificCalculator.Proofs.Token.Number

namespace ScientificCalculator

open Text (Stops stops_cons stops_nil)
open Token (Spells startsNumber)

section Numbers

/-- **The text of a plain literal is read as its value**, in front of a text that starts with no
part of a number. -/
theorem Literal.Plain.lexeme {literal : Literal} (plain : literal.Plain) {after : List Char}
    (stops : Stops startsNumber after) :
    Token.Lexeme literal.text (.num literal.toFloat) after := by
  have cut := plain.split_append stops
  obtain ⟨first, more, equal, -⟩ := plain.text_eq_cons
  have all : ∀ character ∈ first :: more, startsNumber character = true := by
    intro character member
    rw [← equal] at member
    rcases plain.mem_text member with digit | point
    · rw [startsNumber, digit, Bool.true_or]
    · rw [point]
      rfl
  rw [equal, List.cons_append] at cut
  rw [equal]
  exact .number all cut fun none => plain.present none.1

/-- A finite number without a sign. -/
structure Binary64.IsMagnitude (number : Float) : Prop where
  real : isNaN number = false
  positive : isNegative number = false
  finite : isFinite number = true

variable {number : Float} (magnitude : Binary64.IsMagnitude number)

include magnitude

/-- **The text of a number is read as the number.** -/
theorem Numeral.lexeme_text {after : List Char} (stops : Stops startsNumber after) :
    Token.Lexeme (text number) (.num number) after := by
  have lexeme := (plain_literal (Binary64.units number)).lexeme stops
  rwa [toFloat_literal magnitude.real magnitude.positive,
    ← text_eq magnitude.real magnitude.finite magnitude.positive] at lexeme

end Numbers

section Signs

variable {rest : List Char}

theorem BinOp.lexeme_text (operation : BinOp) (single : rest.head? ≠ some '*') :
    Token.Lexeme operation.text.toList (.op operation) rest := by
  cases operation with
  | pow => exact .power
  | mul => exact .symbol rfl fun _ => single
  | _ => exact .symbol rfl nofun

variable {written : List Token}

theorem Token.Spells.symbol {sign : Char} {token : Token}
    (made : Token.ofSymbol? sign = some token) (single : sign ≠ '*')
    (others : Spells rest written) : Spells (sign :: rest) (token :: written) := by
  have lexeme : Token.Lexeme [sign] token rest := .symbol made fun star => absurd star single
  exact .lexeme lexeme others

theorem Token.Spells.lparen (inside : Spells rest written) :
    Spells ('(' :: rest) (.lparen :: written) :=
  .symbol rfl (by decide) inside

theorem Token.Spells.rparen (outside : Spells rest written) :
    Spells (')' :: rest) (.rparen :: written) :=
  .symbol rfl (by decide) outside

end Signs

namespace Expr

section Tokens

/-- The tokens of the text of a tree. -/
def written : Expr → List Token
  | num value => [.num value]
  | neg operand => .op .sub :: .lparen :: (operand.written ++ [.rparen])
  | call func argument => .func func :: .lparen :: (argument.written ++ [.rparen])
  | bin operation left right =>
    .lparen :: ((left.written ++ .op operation :: right.written) ++ [.rparen])

/-- All numbers of the tree are finite and have no sign. -/
def HasMagnitudes (tree : Expr) : Prop :=
  ∀ value, .num value ∈ tree.rpn → Binary64.IsMagnitude value

theorem HasMagnitudes.isReal {tree : Expr} (magnitudes : tree.HasMagnitudes) : tree.IsReal :=
  fun value member => (magnitudes value member).real

/-- **The text of a tree spells its tokens**, in front of a text that starts with no part of a
number. -/
theorem spells_text {tree : Expr} (magnitudes : tree.HasMagnitudes) {after : List Char}
    {others : List Token} (stops : Stops startsNumber after) (spells : Spells after others) :
    Spells (tree.text ++ after) (tree.written ++ others) := by
  induction tree generalizing after others with
  | num value =>
    exact .lexeme (Numeral.lexeme_text (magnitudes value List.mem_cons_self) stops) spells
  | neg operand ih =>
    have inside := ih (fun value member => magnitudes value (List.mem_append_left _ member))
      (stops_cons.mpr rfl) spells.rparen
    simp only [text, written, List.cons_append, List.append_assoc, List.nil_append]
    exact .symbol rfl (by decide) inside.lparen
  | call func argument ih =>
    have inside := ih (fun value member => magnitudes value (List.mem_append_left _ member))
      (stops_cons.mpr rfl) spells.rparen
    simp only [text, written, List.cons_append, List.append_assoc, List.nil_append]
    exact .lexeme (.word func (stops_cons.mpr rfl)) inside.lparen
  | bin operation left right leftward rightward =>
    have leftMagnitudes : left.HasMagnitudes := fun value member =>
      magnitudes value (List.mem_append_left _ (List.mem_append_left _ member))
    have rightMagnitudes : right.HasMagnitudes := fun value member =>
      magnitudes value (List.mem_append_left _ (List.mem_append_right _ member))
    have behind := rightward rightMagnitudes (stops_cons.mpr rfl) spells.rparen
    have single := head?_text_append_ne rightMagnitudes.isReal (')' :: after)
    have sign := Spells.lexeme (operation.lexeme_text single) behind
    have inside := leftward leftMagnitudes (operation.stops_text rfl) sign
    simp only [text, written, List.cons_append, List.append_assoc, List.nil_append]
    exact inside.lparen

/-- **The tokens of the text of a tree.** -/
theorem tokenize_text {tree : Expr} (magnitudes : tree.HasMagnitudes) :
    Token.tokenize tree.text = .ok tree.written := by
  have spells := spells_text magnitudes stops_nil .nil
  rw [List.append_nil, List.append_nil] at spells
  exact Token.tokenize_eq_ok_iff.mpr spells

end Tokens

section Reread

/-- The tree that is read from the text of a tree: the minus sign of a base is in front of the
power. -/
def reread : Expr → Expr
  | num value => num value
  | neg operand => neg operand.reread
  | call func argument => call func argument.reread
  | bin .pow (neg base) exponent => neg (bin .pow base.reread exponent.reread)
  | bin operation left right => bin operation left.reread right.reread

/-- A power in the tree has a negation as its base. -/
def negatesBase : Expr → Bool
  | num _ => false
  | neg operand => operand.negatesBase
  | call _ argument => argument.negatesBase
  | bin .pow (neg _) _ => true
  | bin _ left right => left.negatesBase || right.negatesBase

/-- The kind of phrase that the text of a tree is: of all trees only a negation is no atom. -/
def phrase : Expr → Phrase
  | neg _ => .signed
  | _ => .atom

theorem signed_le_phrase (tree : Expr) : .signed ≤ tree.phrase := by
  cases tree with
  | neg operand => exact Phrase.le_refl _
  | _ => exact Phrase.le_atom _

theorem leftPhrase_le_phrase {operation : BinOp} {left : Expr}
    (other : ∀ base, operation = .pow → left = neg base → False) :
    operation.leftPhrase ≤ left.phrase := by
  cases left with
  | neg base =>
    show operation.leftPhrase ≤ .signed
    cases operation with
    | pow => exact (other base rfl rfl).elim
    | _ => decide
  | _ => exact Phrase.le_atom _

theorem rightPhrase_le_phrase (operation : BinOp) (right : Expr) :
    operation.rightPhrase ≤ right.phrase :=
  Phrase.le_trans (by cases operation <;> decide) right.signed_le_phrase

/-- **The tree of the text of a tree.** -/
theorem derives_written (tree : Expr) : Derives tree.phrase tree.written tree.reread := by
  induction tree using reread.induct with
  | case1 value => exact .num value
  | case2 operand ih => exact .minus (.loosen (by decide) (.group (.loosen (Phrase.sum_le _) ih)))
  | case3 func argument ih => exact .call func (.loosen (Phrase.sum_le _) ih)
  | case4 base exponent baseward rightward =>
    have power := Derives.bin .pow (.group (.loosen (Phrase.sum_le _) baseward))
      (.loosen (rightPhrase_le_phrase .pow exponent) rightward)
    have negation := Derives.minus (.loosen (by decide) power)
    exact .group (.loosen (Phrase.sum_le _) negation)
  | case5 operation left right other leftward rightward =>
    have whole := Derives.bin operation (.loosen (leftPhrase_le_phrase other) leftward)
      (.loosen (rightPhrase_le_phrase operation right) rightward)
    rw [reread.eq_5 _ _ _ other]
    exact .group (.loosen (Phrase.sum_le _) whole)

/-- **A tree is read again from its text when no power has a negation as its base.** -/
theorem reread_eq_iff (tree : Expr) : tree.reread = tree ↔ tree.negatesBase = false := by
  induction tree using reread.induct with
  | case1 value => simp [reread, negatesBase]
  | case2 operand ih => simp [reread, negatesBase, ih]
  | case3 func argument ih => simp [reread, negatesBase, ih]
  | case4 base exponent _ _ => simp [reread, negatesBase]
  | case5 operation left right other leftward rightward =>
    rw [reread.eq_5 _ _ _ other, negatesBase.eq_5 _ _ _ other]
    simp [leftward, rightward]

end Reread

end Expr

end ScientificCalculator
