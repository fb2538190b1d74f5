/-
**A constant stays a number of its own.**

A literal is written for `π`, and for `e` where it is a word. What stands beside it is the text
written for the text in front of the constant and for the text behind it, with a space where one of
them would stick. A number ends in front of a name and no word ends in front of a number, so the
literal is one token, and both texts are cut into tokens as if it were not there.

* `Constant`: the constants, with the character they are typed as and their literal.
* `Constant.Alone`: where this character is the constant.
* `Constant.before`, `Constant.behind`: what is written beside the literal.
* `ofTyped_constant`: the canonical text of a text with a constant.
* `constant_read_alone`: the literal is read as one number.
-/

import ScientificCalculator.Proofs.Canonical.Kept
import ScientificCalculator.Proofs.Expr.Text

namespace ScientificCalculator.Canonical

open Text (EndsWithout Stops stops_cons stops_nil endsWithout_concat endsWithout_singleton)
open Token (isPart startsNumber tokenize)

/-- The constants that have a name. -/
inductive Constant
  | pi
  | euler
  deriving DecidableEq

namespace Constant

/-- The character that a constant is typed as. -/
def sign : Constant → Char
  | pi => 'π'
  | euler => 'e'

/-- The literal written for a constant. -/
def literal : Constant → List Char
  | pi => piLiteral
  | euler => eulerLiteral

/-- The double nearest to a constant. -/
def value : Constant → Float
  | pi => AngleMode.pi
  | euler => Float.ofBits 0x4005BF0A8B145769

/-- Between these texts the character is the constant: a letter is one only where it is a word. -/
def Alone : Constant → List Char → List Char → Prop
  | pi, _, _ => True
  | euler, front, rest => EndsWithout Char.isAlpha front ∧ Stops Char.isAlpha rest

/-- What is written in front of the literal: the text in front of the constant, and a space where
it would stick. -/
def before (constant : Constant) (front : List Char) : List Char :=
  let written := ofTypedBetween none (some constant.sign) front
  written ++ gap written.getLast?

/-- What is written behind the literal: a space where the text behind the constant would stick, and
this text. -/
def behind (constant : Constant) (rest : List Char) : List Char :=
  gap rest.head? ++ ofTypedAfter (constant.literal ++ gap rest.head?).getLast? rest

end Constant

section Written

variable {constant : Constant} {front rest : List Char}

theorem Constant.Alone.cut (alone : constant.Alone front rest) :
    EndsWithout Char.isAlpha front ∨ Stops Char.isAlpha (constant.sign :: rest) := by
  cases constant with
  | pi => exact Or.inr (stops_cons.mpr (by decide))
  | euler => exact Or.inl alone.1

/-- What is written for a constant and for the text behind it. -/
theorem Constant.Alone.ofTypedAfter_eq (alone : constant.Alone front rest) (last : Option Char) :
    ofTypedAfter last (constant.sign :: rest) =
      gap last ++ (constant.literal ++ constant.behind rest) := by
  have written : ofTypedAfter last (constant.sign :: rest) =
      setOff constant.literal last rest.head? ++
        ofTypedAfter (setOff constant.literal last rest.head?).getLast? rest := by
    cases constant with
    | pi =>
      rw [Constant.sign, ofTypedAfter, if_neg (by decide), ofSymbol, if_pos rfl]
      rfl
    | euler =>
      have letter : ['e'].all Char.isAlpha = true := by decide
      rw [Constant.sign, ← List.singleton_append, ofTypedAfter_letters (List.cons_ne_nil _ _)
        (List.all_eq_true.mp letter) alone.2, ofWord, if_pos rfl]
      rfl
  have final : (setOff constant.literal last rest.head?).getLast? =
      (constant.literal ++ gap rest.head?).getLast? := by
    have present : constant.literal ≠ [] := by cases constant <;> decide
    rw [setOff, List.append_assoc,
      List.getLast?_append_of_ne_nil _ (List.append_ne_nil_of_left_ne_nil present _)]
  rw [written, final, setOff, Constant.behind]
  simp only [List.append_assoc]

/-- **The canonical text of a text with a constant.** -/
theorem ofTyped_constant (alone : constant.Alone front rest) :
    ofTyped (front ++ constant.sign :: rest) =
      constant.before front ++ (constant.literal ++ constant.behind rest) := by
  rw [ofTyped, ofTypedAfter_cut alone.cut, alone.ofTypedAfter_eq, ← List.append_assoc, Option.or_none]
  rfl

end Written

section Neighbours

/-- **What is written in front of the literal does not stick.** -/
theorem Constant.endsWithout_before (constant : Constant) (front : List Char) :
    EndsWithout sticks (constant.before front) := by
  rw [Constant.before]
  generalize ofTypedBetween none (some constant.sign) front = written
  rw [gap]
  split
  · exact endsWithout_concat.mpr (by decide)
  · rename_i free
    intro last member
    rw [List.append_nil, Option.mem_def] at member
    rw [member] at free
    exact Bool.eq_false_iff.mpr free

/-- **What is written behind the literal sticks only where it is a name.** -/
theorem Constant.isAlpha_of_mem_behind (constant : Constant) (rest : List Char) :
    ∀ character ∈ (constant.behind rest).head?, sticks character = true →
      character.isAlpha = true := by
  rw [Constant.behind]
  generalize (constant.literal ++ gap rest.head?).getLast? = last
  rw [gap]
  split
  · intro character member space
    obtain rfl := Option.some.inj member
    exact absurd space (by decide)
  · rename_i free
    rw [List.nil_append]
    cases rest with
    | nil =>
      rw [ofTypedAfter]
      exact fun _ member => by cases member
    | cons first more =>
      have free : sticks first = false := Bool.eq_false_iff.mpr free
      obtain ⟨head, tail, equal, start⟩ := exists_head_of_symbol
        (Text.isAlpha_of_not_sticks free) (ne_pi_of_not_sticks free) last more
      rw [equal]
      intro character member letter
      obtain rfl := Option.some.inj member
      rcases start with rfl | ⟨-, rfl⟩ | ⟨-, -, rfl⟩
      · exact Bool.noConfusion (free.symm.trans letter)
      · exact absurd letter (by decide)
      · decide

/-- So it goes on with no number. -/
theorem Constant.stops_behind (constant : Constant) (rest : List Char) :
    Stops startsNumber (constant.behind rest) := by
  intro character member
  refine Bool.eq_false_iff.mpr fun number => ?_
  rw [startsNumber, Bool.or_eq_true, decide_eq_true_eq] at number
  have letter := constant.isAlpha_of_mem_behind rest character member
  rcases number with digit | rfl
  · have sticking : sticks character = true := by
      have ascii : character.isAlphanum = true := by rw [Char.isAlphanum, digit, Bool.or_true]
      rw [sticks, Text.isAlphanumeric_of_isAlphanum ascii, Bool.true_or]
    exact Bool.noConfusion ((isAlpha_of_isDigit digit).symm.trans (letter sticking))
  · exact absurd (letter (by decide)) (by decide)

end Neighbours

section Tokens

/-- The literal of a constant is read as its value. -/
theorem Constant.lexeme (constant : Constant) {after : List Char} (stops : Stops startsNumber after) :
    Token.Lexeme constant.literal (.num constant.value) after := by
  have value : ∃ number : Literal, number.Plain ∧ number.text = constant.literal ∧
      number.toFloat = constant.value := by
    cases constant with
    | pi =>
      refine ⟨⟨['3'], "141592653589793".toList⟩, ⟨by decide, ?_, ?_⟩, rfl, by decide +kernel⟩
      · exact List.all_eq_true.mp rfl
      · exact List.all_eq_true.mp rfl
    | euler =>
      refine ⟨⟨['2'], "718281828459045".toList⟩, ⟨by decide, ?_, ?_⟩, rfl, by decide +kernel⟩
      · exact List.all_eq_true.mp rfl
      · exact List.all_eq_true.mp rfl
  obtain ⟨number, plain, text, value⟩ := value
  rw [← text, ← value]
  exact plain.lexeme stops

/-- What does not stick is no part of a token of several characters, the underscore apart. -/
theorem endsWithout_isPart {text : List Char} (ends : EndsWithout sticks text)
    (absent : '_' ∉ text) : EndsWithout isPart text := by
  intro last member
  have free := ends last member
  have other : last ≠ '_' := fun equal => absent (equal ▸ List.mem_of_getLast? member)
  simp [isPart, Token.isWordPart, startsNumber, Text.isAlphanum_of_not_sticks free,
    Text.isDigit_of_not_sticks free, Text.ne_point_of_not_sticks free, other]

variable {constant : Constant} {front rest : List Char}

/-- **A constant is read as one number.** In front of the literal written for it stands no
alphanumeric character and no point, and behind it no digit and no point, and nothing that sticks
but an ASCII letter. Where the canonical text is read as tokens, they are those of the text in front
of the literal, the number, and those of the text behind it. -/
theorem constant_read_alone (alone : constant.Alone front rest) :
    ofTyped (front ++ constant.sign :: rest) =
        constant.before front ++ (constant.literal ++ constant.behind rest) ∧
      EndsWithout sticks (constant.before front) ∧
      Stops startsNumber (constant.behind rest) ∧
      (∀ character ∈ (constant.behind rest).head?, sticks character = true →
        character.isAlpha = true) ∧
      ∀ written, tokenize (ofTyped (front ++ constant.sign :: rest)) = .ok written →
        ∃ first second, tokenize (constant.before front) = .ok first ∧
          tokenize (constant.behind rest) = .ok second ∧
          written = first ++ .num constant.value :: second := by
  have free := constant.endsWithout_before front
  have stops := constant.stops_behind rest
  refine ⟨ofTyped_constant alone, free, stops, constant.isAlpha_of_mem_behind rest, ?_⟩
  intro written read
  rw [ofTyped_constant alone, Token.tokenize_eq_ok_iff] at read
  have absent : '_' ∉ _ := read.foreign_notMem (by decide)
  have ends := endsWithout_isPart free fun member => absent (List.mem_append_left _ member)
  have star : (constant.literal ++ constant.behind rest).head? ≠ some '*' := by
    cases constant <;> exact nofun
  obtain ⟨first, others, one, two, rfl⟩ := read.of_append ends star
  have number := Token.tokenize_lexeme (constant.lexeme stops)
  rw [Token.tokenize_eq_ok_iff.mpr two] at number
  obtain ⟨second, behind, rfl⟩ := map_eq_ok_iff.mp number.symm
  exact ⟨first, second, Token.tokenize_eq_ok_iff.mpr one, behind, rfl⟩

/-- In `1+e√(4)` the letter is the third token, between a sum and a root. -/
theorem constant_read_alone_root :
    Constant.euler.Alone "1+".toList "√(4)".toList ∧
      ∃ first second, tokenize (Constant.euler.before "1+".toList) = .ok first ∧
        tokenize (Constant.euler.behind "√(4)".toList) = .ok second ∧
        [.num (Binary64.nearest 1 1), .op .add, .num Constant.euler.value, .func .sqrt, .lparen,
          .num (Binary64.nearest 4 1), .rparen] =
          first ++ .num Constant.euler.value :: second := by
  have alone : Constant.euler.Alone "1+".toList "√(4)".toList := by
    constructor <;> (intro character member; cases member; decide)
  obtain ⟨-, -, -, -, read⟩ := constant_read_alone alone
  exact ⟨alone, read _ (by decide +kernel)⟩

end Tokens

end ScientificCalculator.Canonical
