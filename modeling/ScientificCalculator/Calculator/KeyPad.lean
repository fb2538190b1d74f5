/-
**The key pad.**

* `KeyPad.rows`: the labels of the keys, row by row, and what they do.
* `KeyPad.keys`: the same as one list.
* `KeyPad.ofName?`: the keys of the keyboard that have a name instead of a character.
-/

import ScientificCalculator.Calculator.Basic

namespace ScientificCalculator.KeyPad

/-- The keys: eight rows of five. -/
def rows : List (List (String × Action)) :=
  [[("MC", .memoryClear), ("MR", .memoryRecall), ("M+", .memoryAdd), ("M-", .memorySubtract),
      ("DEG/RAD", .toggleMode)],
    [("sin", .insert "sin("), ("cos", .insert "cos("), ("tan", .insert "tan("), ("(", .insert "("),
      (")", .insert ")")],
    [("asin", .insert "asin("), ("acos", .insert "acos("), ("atan", .insert "atan("),
      ("log", .insert "log("), ("ln", .insert "ln(")],
    [("√", .insert "√("), ("xʸ", .insert "^"), ("n!", .insert "!"), ("%", .insert "%"),
      ("π", .insert "π")],
    [("7", .insert "7"), ("8", .insert "8"), ("9", .insert "9"), ("÷", .insert "/"),
      ("AC", .allClear)],
    [("4", .insert "4"), ("5", .insert "5"), ("6", .insert "6"), ("×", .insert "*"), ("C", .clear)],
    [("1", .insert "1"), ("2", .insert "2"), ("3", .insert "3"), ("-", .insert "-"),
      ("⌫", .backspace)],
    [("0", .insert "0"), (".", .insert "."), ("e", .insert "e"), ("+", .insert "+"),
      ("=", .equals)]]

/-- All keys, from the top left to the bottom right. -/
def keys : List (String × Action) :=
  rows.flatten

/-- The action of a named key of the keyboard. -/
def ofName? (name : String) : Option Action :=
  if name = "Enter" then some .equals
  else if name = "Escape" then some .allClear
  else if name = "Backspace" then some .backspace
  else none

end ScientificCalculator.KeyPad
