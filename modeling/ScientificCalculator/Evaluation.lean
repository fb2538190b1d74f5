/-
**The evaluation of a typed text.**

The text is made canonical, cut into tokens, put in postfix order, built into a tree and evaluated.
The intermediate texts are kept for the user. A blank text has no value and is no error.

* `Derivation`: the intermediate texts.
* `canonicalText`, `front`: the passes on texts.
* `evaluate`: the value and the derivation of a text.
-/

import ScientificCalculator.Canonical.Factorial
import ScientificCalculator.Canonical.Percent
import ScientificCalculator.Canonical.Typed
import ScientificCalculator.Rpn.Order
import ScientificCalculator.Rpn.Tree
import ScientificCalculator.Token.Lexer

namespace ScientificCalculator

/-- The texts of the steps of an evaluation. -/
structure Derivation where
  canonical : String := ""
  tokens : String := ""
  rpn : String := ""
  tree : String := ""
  deriving DecidableEq

/-- A value and how it was found. -/
structure Evaluation where
  value : Float
  derivation : Derivation
  deriving DecidableEq

namespace Evaluation

/-- The text has no expression. -/
def isBlank (text : List Char) : Bool :=
  text.all Text.isBlank

/-- The canonical text, factorials resolved before percentages. -/
def canonicalText (text : List Char) : Except Fault (List Char) :=
  (Canonical.resolveFactorials (Canonical.ofTyped text)).map Canonical.resolvePercents

/-- The tokens of canonical text. -/
def tokens (canonical : List Char) : Except Fault (List Token) :=
  (Token.tokenize canonical).mapError .malformed

/-- The tokens of a typed text. -/
def front (text : List Char) : Except Fault (List Token) := do
  tokens (← canonicalText text)

/-- The postfix list of tokens. -/
def postfixOrder (written : List Token) : Except Fault (List Token) :=
  (Rpn.ofTokens written).mapError .malformed

/-- The value and the derivation of a text that is not blank. -/
def ofExpression (text : List Char) (mode : AngleMode) : Except Fault Evaluation := do
  let canonical ← canonicalText text
  let written ← tokens canonical
  let rpn ← postfixOrder written
  let tree ← Rpn.toExpr rpn
  return {
    value := tree.eval mode
    derivation := {
      canonical := String.ofList canonical
      tokens := String.ofList (Token.textAll written)
      rpn := String.ofList (Token.textAll rpn)
      tree := String.ofList tree.text } }

end Evaluation

/-- The value of a typed text and its derivation; nothing for a blank text. -/
def evaluate (text : String) (mode : AngleMode) : Except Fault (Option Evaluation) :=
  if Evaluation.isBlank text.toList then .ok none
  else (Evaluation.ofExpression text.toList mode).map some

end ScientificCalculator
