/-
**Reading a JSON value.**

The lexemes are read once, with a stack of the containers that are still open, so that values may be
nested to any depth. Separators stand only between members.

* `Json.value?`, `Json.filled?`: the two phases of reading, before and after a value.
* `Json.ofText?`: the value of a text.
-/

import ScientificCalculator.Json.Lexeme

namespace ScientificCalculator.Json

/-- A container that is open: its members in reverse, and the key whose value comes next. -/
inductive Context
  | inArray (before : List Json)
  | inObject (before : List (List StringItem × Json)) (key : List StringItem)

mutual

/-- The value of all lexemes, where a value is expected inside the open containers. -/
def value? : List Lexeme → List Context → Option Json
  | .scalar :: rest, stack => filled? .scalar rest stack
  | .string items :: rest, stack => filled? (.string items) rest stack
  | .openArray :: .closeArray :: rest, stack => filled? (.array []) rest stack
  | .openArray :: rest, stack => value? rest (.inArray [] :: stack)
  | .openObject :: .closeObject :: rest, stack => filled? (.object []) rest stack
  | .openObject :: .string key :: .colon :: rest, stack =>
    value? rest (.inObject [] key :: stack)
  | _, _ => none

/-- The value of all lexemes, where a value inside the open containers has just ended. -/
def filled? (ended : Json) : List Lexeme → List Context → Option Json
  | [], [] => some ended
  | .comma :: rest, .inArray before :: stack => value? rest (.inArray (ended :: before) :: stack)
  | .closeArray :: rest, .inArray before :: stack =>
    filled? (.array (ended :: before).reverse) rest stack
  | .comma :: .string next :: .colon :: rest, .inObject before key :: stack =>
    value? rest (.inObject ((key, ended) :: before) next :: stack)
  | .closeObject :: rest, .inObject before key :: stack =>
    filled? (.object ((key, ended) :: before).reverse) rest stack
  | _, _ => none

end

/-- The value that a text denotes, if it is a JSON text. -/
def ofText? (text : List Char) : Option Json := do
  value? (← Lexeme.ofText? text) []

end ScientificCalculator.Json
