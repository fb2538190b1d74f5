/-
**The functions of one argument.**

Each function has the name a user types and the name it has in canonical text. No domain is checked:
outside of it the value is an infinity or a NaN.

* `Func`: the nine functions.
* `Func.ofTyped?`, `Func.ofName?`: the function of a typed or a canonical name.
* `Func.apply`: the value at a number.
-/

import ScientificCalculator.AngleMode

namespace ScientificCalculator

/-- The functions of one argument. -/
inductive Func
  | sin
  | cos
  | tan
  | asin
  | acos
  | atan
  | log10
  | ln
  | sqrt
  deriving DecidableEq

namespace Func

/-- All functions. -/
def all : List Func := [sin, cos, tan, asin, acos, atan, log10, ln, sqrt]

/-- The name a user types. -/
def typed : Func → String
  | sin => "sin"
  | cos => "cos"
  | tan => "tan"
  | asin => "asin"
  | acos => "acos"
  | atan => "atan"
  | log10 => "log"
  | ln => "ln"
  | sqrt => "√"

/-- The name in canonical text. -/
def name : Func → String
  | sin => "sin"
  | cos => "cos"
  | tan => "tan"
  | asin => "asin"
  | acos => "acos"
  | atan => "atan"
  | log10 => "log10"
  | ln => "ln"
  | sqrt => "sqrt"

/-- The function whose typed name is the given word. -/
def ofTyped? (word : String) : Option Func :=
  all.find? fun func => func.typed = word

/-- The function whose canonical name is the given word. -/
def ofName? (word : String) : Option Func :=
  all.find? fun func => func.name = word

/-- The value of a function; the mode concerns the trigonometric functions alone. -/
def apply (func : Func) (mode : AngleMode) (argument : Float) : Float :=
  match func with
  | sin => (mode.toRadians argument).sin
  | cos => (mode.toRadians argument).cos
  | tan => (mode.toRadians argument).tan
  | asin => mode.ofRadians argument.asin
  | acos => mode.ofRadians argument.acos
  | atan => mode.ofRadians argument.atan
  | log10 => argument.log10
  | ln => argument.log
  | sqrt => argument.sqrt

/-- The function converts angles. -/
def isTrigonometric : Func → Bool
  | sin | cos | tan | asin | acos | atan => true
  | log10 | ln | sqrt => false

/-- A function is found by its typed name. -/
theorem ofTyped?_typed (func : Func) : ofTyped? func.typed = some func := by
  cases func <;> decide

/-- A function is found by its canonical name. -/
theorem ofName?_name (func : Func) : ofName? func.name = some func := by
  cases func <;> decide

end Func

end ScientificCalculator
