/-
**The screen.**

Above, the angle mode, the expression and the result; then the key pad; below it two panels that
open and close at their headers: the history, open at first, whose lines reuse their results, and the
steps of the last evaluation, closed at first.

* `Screen`: a calculator and which panels are open.
* `Screen.items`: the texts that can be clicked, from top to bottom, and what they do.
* `Screen.handle`: the screen after an event.
-/

import ScientificCalculator.Calculator.KeyPad

namespace ScientificCalculator

/-- A calculator and the panels that are open. -/
structure Screen where
  calculator : Calculator
  historyOpen : Bool
  derivationOpen : Bool

/-- What a click on a text does. -/
inductive Target
  | act (action : Action)
  | toggleHistory
  | toggleDerivation
  | nothing
  deriving DecidableEq

/-- A text on the screen and what a click on it does. -/
structure Item where
  text : String
  target : Target
  deriving DecidableEq

/-- What a user does: click the first text that equals a label, type printable text, press or
release a key with a name. -/
inductive Event
  | click (label : String)
  | text (typed : String)
  | press (key : String)
  | release (key : String)

namespace Screen

/-- The screen of a calculator just started, without storage. -/
def start (mode : AngleMode) : Screen where
  calculator := .start mode .empty
  historyOpen := true
  derivationOpen := false

/-- The texts above the key pad: an empty expression is shown as a space. -/
def head (screen : Screen) : List String :=
  let expression := screen.calculator.expression
  [screen.calculator.mode.label, if expression = "" then " " else expression,
    screen.calculator.result]

/-- The line of an entry. -/
def line (entry : Entry) : String :=
  entry.expression ++ "  = " ++ entry.result

/-- The header of the history panel. -/
def historyHeader : Item := ⟨"Historique", .toggleHistory⟩

/-- The header of the panel with the steps. -/
def derivationHeader : Item := ⟨"Démarche", .toggleDerivation⟩

/-- The lines of the entries, each reusing its own. -/
def entryLines (entries : List Entry) : List Item :=
  entries.zipIdx.map fun (entry, index) => ⟨line entry, .act (.reuse index)⟩

/-- The inside of the history panel. -/
def historyPanel (history : History) : List Item :=
  if history.isEmpty then [⟨"(vide)", .nothing⟩]
  else entryLines history.entries ++ [⟨"Effacer l’historique", .act .clearHistory⟩]

/-- The inside of the panel with the steps. -/
def derivationPanel (derivation : Derivation) : List Item :=
  ["Forme canonique :", derivation.canonical, "Jetons :", derivation.tokens,
    "RPN :", derivation.rpn, "Arbre :", derivation.tree].map (⟨·, .nothing⟩)

/-- The keys of the key pad. -/
def keyItems : List Item :=
  KeyPad.keys.map fun (label, action) => ⟨label, .act action⟩

/-- The texts below the key pad. -/
def panels (screen : Screen) : List Item :=
  historyHeader :: (if screen.historyOpen then historyPanel screen.calculator.history else []) ++
    derivationHeader ::
      (if screen.derivationOpen then derivationPanel screen.calculator.derivation else [])

/-- The texts that a click can reach, in the order in which they are looked up. -/
def items (screen : Screen) : List Item :=
  keyItems ++ screen.panels

/-- What a click on the first text that equals the label does, if there is one. -/
def find? (screen : Screen) (label : String) : Option Target :=
  (screen.items.find? fun item => item.text = label).map Item.target

/-- The screen after an action. -/
def act (screen : Screen) (action : Action) : Screen :=
  { screen with calculator := (screen.calculator.act action).calculator }

/-- The screen after a click on a text of the given effect. -/
def select (screen : Screen) : Target → Screen
  | .act action => screen.act action
  | .toggleHistory => { screen with historyOpen := !screen.historyOpen }
  | .toggleDerivation => { screen with derivationOpen := !screen.derivationOpen }
  | .nothing => screen

/-- The screen after an event; a click on a label that is not there does nothing. -/
def handle (screen : Screen) : Event → Screen
  | .click label =>
    match screen.find? label with
    | some target => screen.select target
    | none => screen
  | .text typed => (Action.ofKeys typed).foldl act screen
  | .press key =>
    match KeyPad.ofName? key with
    | some action => screen.act action
    | none => screen
  | .release _ => screen

end Screen

end ScientificCalculator
