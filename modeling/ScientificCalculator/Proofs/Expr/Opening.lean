/-
**How the text of a tree starts.**

A text starts with a minus sign, perhaps, and then with digits, a name, or neither of them. This
tells numbers, negations, function calls and operations apart, a negative number and a negation
among them: the sign of a number is in front of digits or of the word for infinity, that of a
negation in front of a parenthesis.

* `Expr.Opening`: how the text of a tree starts.
* `Expr.Opening.ofWord_word`: an opening is known from its sign and its word.
* `Expr.head?_text_append_ne`: no text starts with a star.
* `Expr.opening_append_inj`: trees with the same text have the same opening.
-/

import ScientificCalculator.Proofs.Numeral.Text

namespace ScientificCalculator

open Binary64 (isNaN isNegative)
open Numeral (signed)
open Text (Stops stops_cons)
open Token (isPart)

section Signs

/-- A name is written with characters of words. -/
theorem Func.isPart_of_mem_name (func : Func) :
    ∀ character ∈ func.name.toList, isPart character = true := by
  cases func <;> exact List.all_eq_true.mp rfl

/-- The sign of an operation starts with one of four characters. -/
theorem BinOp.stops_text (operation : BinOp) {test : Char → Bool}
    (foreign : ['+', '-', '*', '/'].any test = false) {rest : List Char} :
    Stops test (operation.text.toList ++ rest) := by
  have other := List.any_eq_false.mp foreign
  cases operation <;> exact stops_cons.mpr (Bool.eq_false_iff.mpr (other _ (by decide)))

end Signs

namespace Expr

/-- How the text of a tree starts, in front of its first parenthesis. -/
inductive Opening
  | number (value : Float)
  | minus
  | name (func : Func)
  | nothing

namespace Opening

/-- There is a minus sign. -/
def isNegative : Opening → Bool
  | number value => Binary64.isNegative value
  | minus => true
  | name _ | nothing => false

/-- The digits or letters behind the sign. -/
def word : Opening → List Char
  | number value => Numeral.word value
  | name func => func.name.toList
  | minus | nothing => []

/-- The opening of a sign and a word. -/
def ofWord (negative : Bool) (word : List Char) : Opening :=
  if word = [] then if negative then minus else nothing
  else
    match Func.ofName? (String.ofList word) with
    | some func => name func
    | none => number ((Numeral.read? (signed negative word)).getD 0)

/-- The opening is not that of a NaN, whose sign is not written. -/
def IsReal (opening : Opening) : Prop :=
  ∀ value, opening = number value → isNaN value = false

/-- **An opening is known from its sign and its word.** -/
theorem ofWord_word {opening : Opening} (real : opening.IsReal) :
    ofWord opening.isNegative opening.word = opening := by
  cases opening with
  | number value =>
    have read := Numeral.read?_text (real value rfl)
    rw [Numeral.text_eq_signed_word (real value rfl)] at read
    rw [ofWord, word, if_neg (Numeral.word_ne_nil value), Numeral.ofName?_word, isNegative]
    exact congrArg (fun found => number (found.getD 0)) read
  | minus => rfl
  | name func =>
    have present : func.name.toList ≠ [] := by cases func <;> decide
    rw [ofWord, word, if_neg present, String.ofList_toList, Func.ofName?_name]
  | nothing => rfl

theorem isPart_of_mem_word (opening : Opening) :
    ∀ character ∈ opening.word, isPart character = true := by
  cases opening with
  | number value => exact Numeral.isPart_of_mem_word
  | name func => exact func.isPart_of_mem_name
  | minus => exact nofun
  | nothing => exact nofun

end Opening

section Openings

/-- The opening of a tree. -/
def opening : Expr → Opening
  | num value => .number value
  | neg _ => .minus
  | call func _ => .name func
  | bin _ _ _ => .nothing

/-- What the text of a tree has behind its opening. -/
def enclosed : Expr → List Char
  | num _ => []
  | neg operand => '(' :: operand.text ++ [')']
  | call _ argument => '(' :: argument.text ++ [')']
  | bin operation left right => '(' :: left.text ++ operation.text.toList ++ right.text ++ [')']

/-- No number of the tree is a NaN. -/
def IsReal (tree : Expr) : Prop :=
  ∀ value, .num value ∈ tree.rpn → isNaN value = false

theorem isReal_num {value : Float} : (num value).IsReal ↔ isNaN value = false := by
  simp [IsReal, rpn]

theorem isReal_neg {operand : Expr} : (neg operand).IsReal ↔ operand.IsReal := by
  simp [IsReal, rpn]

theorem isReal_call {func : Func} {argument : Expr} :
    (call func argument).IsReal ↔ argument.IsReal := by
  simp [IsReal, rpn]

theorem isReal_bin {operation : BinOp} {left right : Expr} :
    (bin operation left right).IsReal ↔ left.IsReal ∧ right.IsReal := by
  simp [IsReal, rpn, or_imp, forall_and]

variable {tree : Expr} {after : List Char}

theorem IsReal.opening (real : tree.IsReal) : tree.opening.IsReal := by
  rintro value equal
  cases tree with
  | num number =>
    obtain rfl := Opening.number.inj equal
    exact real _ List.mem_cons_self
  | _ => cases equal

/-- A text is a sign, a word and what is in parentheses. -/
theorem text_eq (real : tree.IsReal) :
    tree.text = signed tree.opening.isNegative (tree.opening.word ++ tree.enclosed) := by
  cases tree with
  | num value =>
    show Numeral.text value = signed (isNegative value) (Numeral.word value ++ [])
    rw [Numeral.text_eq_signed_word (real value List.mem_cons_self), List.append_nil]
  | neg operand => rfl
  | call func argument => simp [text, opening, enclosed, Opening.isNegative, Opening.word]
  | bin operation left right => simp [text, opening, enclosed, Opening.isNegative, Opening.word]

/-- The word ends in front of what follows. -/
theorem stops_enclosed (tree : Expr) (stops : Stops isPart after) :
    Stops isPart (tree.enclosed ++ after) := by
  cases tree with
  | num value => exact stops
  | _ => exact stops_cons.mpr rfl

/-- Behind the sign there is no other one. -/
theorem head?_word_ne (tree : Expr) {sign : Char} (foreign : isPart sign = false)
    (other : sign ≠ '(') (after : List Char) :
    (tree.opening.word ++ (tree.enclosed ++ after)).head? ≠ some sign := by
  have parts := tree.opening.isPart_of_mem_word
  intro start
  cases first : tree.opening.word with
  | nil =>
    cases tree with
    | num value => exact Numeral.word_ne_nil value first
    | _ =>
      rw [first] at start
      exact other (Option.some.inj start).symm
  | cons letter more =>
    rw [first] at start parts
    rw [← Option.some.inj start, parts _ List.mem_cons_self] at foreign
    cases foreign

/-- No text of a tree starts with a star. -/
theorem head?_text_append_ne (real : tree.IsReal) (after : List Char) :
    (tree.text ++ after).head? ≠ some '*' := by
  rw [text_eq real]
  cases tree.opening.isNegative with
  | true => exact nofun
  | false =>
    rw [Numeral.signed_false, List.append_assoc]
    exact tree.head?_word_ne rfl (by decide) after

/-- A sign is told apart from what follows it. -/
theorem signed_inj {negative negative' : Bool} {text text' : List Char}
    (start : text.head? ≠ some '-') (start' : text'.head? ≠ some '-')
    (equal : signed negative text = signed negative' text') :
    negative = negative' ∧ text = text' := by
  cases negative with
  | true =>
    cases negative' with
    | true => exact ⟨rfl, (List.cons.inj equal).2⟩
    | false => exact absurd (congrArg List.head? equal).symm start'
  | false =>
    cases negative' with
    | true => exact absurd (congrArg List.head? equal) start
    | false => exact ⟨rfl, equal⟩

variable {first second : Expr} {after' : List Char}

/-- **Trees with the same text have the same opening**, and the same behind it. -/
theorem opening_append_inj (real : first.IsReal) (real' : second.IsReal)
    (stops : Stops isPart after) (stops' : Stops isPart after')
    (equal : first.text ++ after = second.text ++ after') :
    first.opening = second.opening ∧ first.enclosed ++ after = second.enclosed ++ after' := by
  have cut {tree : Expr} (real : tree.IsReal) (after : List Char) : tree.text ++ after =
      signed tree.opening.isNegative (tree.opening.word ++ (tree.enclosed ++ after)) := by
    rw [text_eq real]
    cases tree.opening.isNegative <;> simp
  rw [cut real, cut real'] at equal
  obtain ⟨signs, rests⟩ := signed_inj (first.head?_word_ne rfl (by decide) after)
    (second.head?_word_ne rfl (by decide) after') equal
  obtain ⟨words, behind⟩ := Stops.append_inj first.opening.isPart_of_mem_word
    second.opening.isPart_of_mem_word (first.stops_enclosed stops) (second.stops_enclosed stops')
    rests
  refine ⟨?_, behind⟩
  rw [← Opening.ofWord_word real.opening, signs, words, Opening.ofWord_word real'.opening]

end Openings

end Expr

end ScientificCalculator
