/-
**Why an expression is refused.**

* `Malformed`: the causes found while reading tokens, ordering them and building the tree.
* `PostfixFault`: a postfix list that denotes no tree.
* `Fault`: all causes, a factorial of a fraction among them.
* `Fault.message`: the text of a cause.
-/

namespace ScientificCalculator

/-- The text is no expression, or too deep a one. -/
inductive Malformed
  | lonePoint
  | unknownWord (word : List Char)
  | unexpectedCharacter (character : Char)
  | functionWithoutParenthesis
  | adjacentValues
  | valueBeforeFunction
  | valueBeforeParenthesis
  | noValueBeforeClosing
  | closingWithoutOpening
  | noLeftOperand
  | unaryMinusToken
  | incomplete
  | notClosed
  | tooDeep
  deriving DecidableEq

/-- A postfix list is not that of one tree. -/
inductive PostfixFault
  | missingOperand
  | parenthesis
  | notOneValue
  deriving DecidableEq

/-- An expression is refused. -/
inductive Fault
  | factorial (operand : List Char)
  | malformed (cause : Malformed)
  | noTree (cause : PostfixFault)
  deriving DecidableEq

namespace Malformed

/-- The text of a cause. -/
def message : Malformed → String
  | lonePoint => "point décimal isolé"
  | unknownWord word => "identifiant inconnu: " ++ String.ofList word
  | unexpectedCharacter character => "caractère inattendu: '" ++ String.ofList [character] ++ "'"
  | functionWithoutParenthesis => "'(' attendue après une fonction"
  | adjacentValues => "opérateur manquant entre deux valeurs"
  | valueBeforeFunction => "opérateur manquant avant une fonction"
  | valueBeforeParenthesis => "opérateur manquant avant '('"
  | noValueBeforeClosing => "valeur manquante avant ')'"
  | closingWithoutOpening => "')' sans '(' correspondante"
  | noLeftOperand => "opérande gauche manquante"
  | unaryMinusToken => "jeton Neg inattendu en entrée"
  | incomplete => "expression incomplète"
  | notClosed => "parenthèses non fermées"
  | tooDeep => "expression trop imbriquée"

end Malformed

namespace PostfixFault

/-- The text of a cause. -/
def message : PostfixFault → String
  | missingOperand => "opérande manquante"
  | parenthesis => "parenthèse inattendue en RPN"
  | notOneValue => "expression invalide"

end PostfixFault

namespace Fault

/-- The full text of a fault. -/
def message : Fault → String
  | factorial operand =>
    "factorielle invalide: " ++ String.ofList operand ++ "! (entier positif attendu)"
  | malformed cause => "erreur de syntaxe: " ++ cause.message
  | noTree cause => "erreur d’évaluation: " ++ cause.message

end Fault

end ScientificCalculator
