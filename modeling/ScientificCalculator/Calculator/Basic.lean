/-
**The calculator.**

Its state is what a user sees or recalls: the expression being typed, the result, the steps of the
last evaluation, the memory, the angle mode and the history. Every key is an action on this state.

* `Calculator`: the state.
* `Action`: what the keys do.
* `Calculator.act`: the state after an action, and whether the history is to be saved.
-/

import ScientificCalculator.Display
import ScientificCalculator.Evaluation
import ScientificCalculator.History.Basic
import ScientificCalculator.Numeral.Reader

namespace ScientificCalculator

/-- The state of a calculator. -/
structure Calculator where
  expression : String
  result : String
  derivation : Derivation
  memory : Float
  mode : AngleMode
  history : History

/-- What a key does. -/
inductive Action
  | insert (text : String)
  | backspace
  | allClear
  | clear
  | equals
  | toggleMode
  | memoryClear
  | memoryRecall
  | memoryAdd
  | memorySubtract
  | reuse (index : Nat)
  | clearHistory
  deriving DecidableEq

namespace Action

/-- The action of a printable key of the keyboard: signs of an expression are typed, `p` types `π`,
the equals sign evaluates, and other keys do nothing. -/
def ofKey? (key : Char) : Option Action :=
  if key.isDigit ∨ key ∈ "+-*/.()%^e".toList then some (insert (String.ofList [key]))
  else if key = 'p' then some (insert "π")
  else if key = '=' then some equals
  else none

/-- The actions of the printable keys of a text. -/
def ofKeys (keys : String) : List Action :=
  keys.toList.filterMap ofKey?

/-- The actions that type an expression and evaluate it. -/
def enter (expression : String) : List Action :=
  [insert expression, equals]

end Action

/-- The state after an action; `saves` asks for the history to be written to its place. -/
structure Reaction where
  calculator : Calculator
  saves : Bool

namespace Calculator

/-- The result shown before any evaluation. -/
def initialResult : String := "0"

/-- A calculator just started. -/
def start (mode : AngleMode) (history : History) : Calculator where
  expression := ""
  result := initialResult
  derivation := {}
  memory := 0
  mode := mode
  history := history

/-- The result as a number for the memory: what is no finite numeral counts as zero. -/
def resultNumber (calculator : Calculator) : Float :=
  match Numeral.read? calculator.result.toList with
  | some number => if Binary64.isFinite number then number else 0
  | none => 0

/-- A value becomes the result, and the expression goes into the history. -/
def present (calculator : Calculator) (evaluation : Evaluation) : Calculator :=
  let shown := String.ofList (Display.text evaluation.value)
  { calculator with
    expression := ""
    result := shown
    derivation := evaluation.derivation
    history := calculator.history.record ⟨calculator.expression, shown⟩ }

/-- A refused expression is kept for correction. -/
def refuse (calculator : Calculator) : Calculator :=
  { calculator with result := String.ofList Display.failure, derivation := {} }

/-- The evaluation of the expression; a blank one changes nothing. -/
def equals (calculator : Calculator) : Reaction :=
  match evaluate calculator.expression calculator.mode with
  | .ok none => ⟨calculator, false⟩
  | .ok (some evaluation) => ⟨calculator.present evaluation, true⟩
  | .error _ => ⟨calculator.refuse, false⟩

/-- The result of an entry becomes the expression and the result. -/
def reuse (calculator : Calculator) (index : Nat) : Calculator :=
  match calculator.history.get? index with
  | some entry => { calculator with expression := entry.result, result := entry.result }
  | none => calculator

/-- A text at the end of the expression. -/
def insert (calculator : Calculator) (text : String) : Calculator :=
  { calculator with expression := calculator.expression ++ text }

/-- The state after an action. -/
def act (calculator : Calculator) : Action → Reaction
  | .insert text => ⟨calculator.insert text, false⟩
  | .backspace =>
    ⟨{ calculator with expression := String.ofList calculator.expression.toList.dropLast }, false⟩
  | .allClear => ⟨{ calculator with expression := "", result := initialResult }, false⟩
  | .clear => ⟨{ calculator with expression := "" }, false⟩
  | .equals => calculator.equals
  | .toggleMode => ⟨{ calculator with mode := calculator.mode.toggle }, false⟩
  | .memoryClear => ⟨{ calculator with memory := 0 }, false⟩
  | .memoryRecall =>
    ⟨calculator.insert (String.ofList (Numeral.text calculator.memory)), false⟩
  | .memoryAdd =>
    ⟨{ calculator with memory := calculator.memory + calculator.resultNumber }, false⟩
  | .memorySubtract =>
    ⟨{ calculator with memory := calculator.memory - calculator.resultNumber }, false⟩
  | .reuse index => ⟨calculator.reuse index, false⟩
  | .clearHistory => ⟨{ calculator with history := .empty }, true⟩

end Calculator

end ScientificCalculator
