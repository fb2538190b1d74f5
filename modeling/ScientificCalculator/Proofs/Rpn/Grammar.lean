/-
**The grammar of expressions.**

```
sum     ::=  product (("+" | "-") product)*
product ::=  signed (("*" | "/") signed)*
signed  ::=  ("+" | "-") signed  |  power
power   ::=  atom ["**" signed]
atom    ::=  number  |  function "(" sum ")"  |  "(" sum ")"
```

Sums and products group to the left, powers to the right. Parentheses and unary plus signs leave no
trace in the tree.

* `Phrase`: the five kinds of phrases, ordered from loose to tight.
* `Derives`: the tokens of a phrase and its tree.
* `Derives.neg_notMem`: the postfix sign is in no phrase.
* `Derives.mem_of_mem_rpn`: the tokens of a tree are among those of its phrase.
* `Derives.ne_adjacent`: no phrase has two numbers side by side.
* `Expr.rpn_injective`: a postfix list is that of one tree at most.
-/

import Mathlib.Data.List.Basic
import Mathlib.Data.List.Chain
import ScientificCalculator.Rpn.Order

namespace ScientificCalculator

/-- The kinds of phrases. -/
inductive Phrase
  | sum
  | product
  | signed
  | power
  | atom
  deriving DecidableEq

namespace Phrase

/-- The place of a kind in the order from loose to tight. -/
def rank : Phrase → Nat
  | sum => 0
  | product => 1
  | signed => 2
  | power => 3
  | atom => 4

/-- A phrase of a tight kind is one of every looser kind. -/
instance : LE Phrase := ⟨fun loose tight => loose.rank ≤ tight.rank⟩

instance (loose tight : Phrase) : Decidable (loose ≤ tight) :=
  inferInstanceAs (Decidable (loose.rank ≤ tight.rank))

theorem le_refl (phrase : Phrase) : phrase ≤ phrase := Nat.le_refl phrase.rank

theorem le_trans {loose middle tight : Phrase} (first : loose ≤ middle) (second : middle ≤ tight) :
    loose ≤ tight :=
  Nat.le_trans first second

theorem sum_le (phrase : Phrase) : sum ≤ phrase := Nat.zero_le phrase.rank

theorem le_atom (phrase : Phrase) : phrase ≤ atom := by
  cases phrase <;> decide

end Phrase

namespace BinOp

/-- The phrase an operation makes. -/
def phrase : BinOp → Phrase
  | add | sub => .sum
  | mul | div => .product
  | pow => .power

/-- The phrase on the left of an operation. -/
def leftPhrase : BinOp → Phrase
  | add | sub => .sum
  | mul | div => .product
  | pow => .atom

/-- The phrase on the right of an operation. -/
def rightPhrase : BinOp → Phrase
  | add | sub => .product
  | mul | div => .signed
  | pow => .signed

end BinOp

/-- **The grammar.** The tokens make a phrase of the given kind, which denotes the tree. -/
inductive Derives : Phrase → List Token → Expr → Prop
  | loosen {loose tight : Phrase} {tokens : List Token} {tree : Expr} (le : loose ≤ tight)
      (phrase : Derives tight tokens tree) : Derives loose tokens tree
  | bin (operation : BinOp) {before after : List Token} {left right : Expr}
      (leftward : Derives operation.leftPhrase before left)
      (rightward : Derives operation.rightPhrase after right) :
      Derives operation.phrase (before ++ .op operation :: after) (.bin operation left right)
  | plus {tokens : List Token} {tree : Expr} (operand : Derives .signed tokens tree) :
      Derives .signed (.op .add :: tokens) tree
  | minus {tokens : List Token} {tree : Expr} (operand : Derives .signed tokens tree) :
      Derives .signed (.op .sub :: tokens) (.neg tree)
  | num (value : Float) : Derives .atom [.num value] (.num value)
  | call (func : Func) {tokens : List Token} {tree : Expr} (argument : Derives .sum tokens tree) :
      Derives .atom (.func func :: .lparen :: (tokens ++ [.rparen])) (.call func tree)
  | group {tokens : List Token} {tree : Expr} (inside : Derives .sum tokens tree) :
      Derives .atom (.lparen :: (tokens ++ [.rparen])) tree

/-- A phrase has a token. -/
theorem Derives.ne_nil {phrase : Phrase} {tokens : List Token} {tree : Expr}
    (derivation : Derives phrase tokens tree) : tokens ≠ [] := by
  induction derivation with
  | loosen _ _ ih => exact ih
  | _ => simp

/-- A phrase has no postfix sign; its minus signs are written as those of differences. -/
theorem Derives.neg_notMem {phrase : Phrase} {tokens : List Token} {tree : Expr}
    (derivation : Derives phrase tokens tree) : Token.neg ∉ tokens := by
  induction derivation with
  | loosen _ _ ih => exact ih
  | bin operation _ _ leftward rightward => simp [leftward, rightward]
  | plus _ ih => simp [ih]
  | minus _ ih => simp [ih]
  | num value => simp
  | call func _ ih => simp [ih]
  | group _ ih => simp [ih]

/-- **The tokens of a tree are among those of its phrase**, its unary minus signs apart. -/
theorem Derives.mem_of_mem_rpn {phrase : Phrase} {tokens : List Token} {tree : Expr}
    (derivation : Derives phrase tokens tree) {token : Token} (member : token ∈ tree.rpn)
    (other : token ≠ .neg) : token ∈ tokens := by
  induction derivation with
  | loosen _ _ ih => exact ih member
  | bin operation _ _ leftward rightward =>
    simp only [Expr.rpn, List.mem_append, List.mem_singleton] at member
    rcases member with (left | right) | rfl
    · exact List.mem_append_left _ (leftward left)
    · exact List.mem_append_right _ (List.mem_cons_of_mem _ (rightward right))
    · exact List.mem_append_right _ List.mem_cons_self
  | plus _ ih => exact List.mem_cons_of_mem _ (ih member)
  | minus _ ih =>
    simp only [Expr.rpn, List.mem_append, List.mem_singleton, other, or_false] at member
    exact List.mem_cons_of_mem _ (ih member)
  | num value => exact member
  | call func _ ih =>
    simp only [Expr.rpn, List.mem_append, List.mem_singleton] at member
    rcases member with inside | rfl
    · exact List.mem_cons_of_mem _ (List.mem_cons_of_mem _ (List.mem_append_left _ (ih inside)))
    · exact List.mem_cons_self
  | group _ ih => exact List.mem_cons_of_mem _ (List.mem_append_left _ (ih member))

/-- Not both of two tokens are numbers. -/
def Token.NotBothNumbers (first second : Token) : Prop :=
  ¬((∃ value, first = .num value) ∧ ∃ value, second = .num value)

/-- In a phrase no two tokens side by side are both numbers. -/
theorem Derives.isChain {phrase : Phrase} {tokens : List Token} {tree : Expr}
    (derivation : Derives phrase tokens tree) : tokens.IsChain Token.NotBothNumbers := by
  induction derivation with
  | loosen _ _ ih => exact ih
  | bin operation _ _ leftward rightward =>
    refine leftward.append (rightward.cons ?_) ?_
    · simp [Token.NotBothNumbers]
    · simp [Token.NotBothNumbers]
  | plus _ ih => exact ih.cons (by simp [Token.NotBothNumbers])
  | minus _ ih => exact ih.cons (by simp [Token.NotBothNumbers])
  | num value => exact List.isChain_singleton _
  | call func _ ih =>
    have closed := ih.append (List.isChain_singleton Token.rparen) (by simp [Token.NotBothNumbers])
    exact (closed.cons (by simp [Token.NotBothNumbers])).cons (by simp [Token.NotBothNumbers])
  | group _ ih =>
    have closed := ih.append (List.isChain_singleton Token.rparen) (by simp [Token.NotBothNumbers])
    exact closed.cons (by simp [Token.NotBothNumbers])

/-- **A phrase has no two numbers side by side.** -/
theorem Derives.ne_adjacent {phrase : Phrase} {tokens front others : List Token} {tree : Expr}
    {one two : Float} (derivation : Derives phrase tokens tree) :
    tokens ≠ front ++ .num one :: .num two :: others := by
  rintro rfl
  have chain := derivation.isChain.right_of_append
  exact (List.isChain_cons_cons.mp chain).1 ⟨⟨one, rfl⟩, ⟨two, rfl⟩⟩

namespace Expr

/-- A postfix list ends where its tree ends: what stands before it does not matter. -/
theorem append_rpn_inj {first second : Expr} : ∀ {before after : List Token},
    before ++ first.rpn = after ++ second.rpn → before = after ∧ first = second := by
  induction first generalizing second with
  | num value =>
    intro before after equal
    cases second with
    | num value' =>
      simp only [rpn, List.append_singleton_inj, Token.num.injEq] at equal
      obtain ⟨rfl, rfl⟩ := equal
      exact ⟨rfl, rfl⟩
    | _ => simp [rpn, ← List.append_assoc] at equal
  | neg operand ih =>
    intro before after equal
    cases second with
    | neg other =>
      simp only [rpn, ← List.append_assoc, List.append_singleton_inj] at equal
      obtain ⟨rfl, rfl⟩ := ih equal.1
      exact ⟨rfl, rfl⟩
    | _ => simp [rpn, ← List.append_assoc] at equal
  | call func argument ih =>
    intro before after equal
    cases second with
    | call func' other =>
      simp only [rpn, ← List.append_assoc, List.append_singleton_inj, Token.func.injEq] at equal
      obtain ⟨rfl, rfl⟩ := ih equal.1
      obtain rfl := equal.2
      exact ⟨rfl, rfl⟩
    | _ => simp [rpn, ← List.append_assoc] at equal
  | bin operation left right leftward rightward =>
    intro before after equal
    cases second with
    | bin operation' left' right' =>
      simp only [rpn, ← List.append_assoc, List.append_singleton_inj, Token.op.injEq] at equal
      obtain ⟨operands, rfl⟩ := equal
      obtain ⟨lefts, rfl⟩ := rightward operands
      obtain ⟨rfl, rfl⟩ := leftward lefts
      exact ⟨rfl, rfl⟩
    | _ => simp [rpn, ← List.append_assoc] at equal

/-- **Distinct trees have distinct postfix lists.** -/
theorem rpn_injective : Function.Injective rpn := by
  intro first second equal
  have whole : [] ++ first.rpn = [] ++ second.rpn := equal
  exact (append_rpn_inj whole).2

end Expr

end ScientificCalculator
