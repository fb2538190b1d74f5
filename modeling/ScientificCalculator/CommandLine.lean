/-
**The command line.**

The arguments are read from left to right; a request for help or for the version is granted as soon
as it is reached. With an expression the result is printed and the exit code tells whether it is
shown as a number; without one a window would open, and there is none here.

* `CommandLine.Options`: what the arguments set.
* `CommandLine.read`: the request that arguments make.
* `CommandLine.run`: the exit code and the printed text.
-/

import ScientificCalculator.Display
import ScientificCalculator.Evaluation

namespace ScientificCalculator.CommandLine

/-- What the arguments set. -/
structure Options where
  radians : Bool := false
  historyFile : Option String := none
  withoutHistory : Bool := false
  expression : Option String := none

/-- What the arguments ask for. -/
inductive Request
  | help
  | version
  | refused
  | start (options : Options)

/-- The exit code and the text printed. -/
structure Outcome where
  code : UInt8
  printed : String
  deriving DecidableEq

/-- The options that take a value. -/
inductive Valued
  | historyFile
  | expression

/-- An argument split into its kind. -/
inductive Argument
  | help
  | version
  | radians
  | withoutHistory
  | valued (option : Valued) (attached : Option String)
  | lastDashes
  | unknown

/-- The parts of a text around its first equals sign. -/
def splitEquals (text : List Char) : List Char × Option String :=
  match text.dropWhile (· ≠ '=') with
  | [] => (text, none)
  | _ :: value => (text.takeWhile (· ≠ '='), some (String.ofList value))

/-- A long option, after its two dashes. -/
def longArgument (text : List Char) : Argument :=
  let (name, attached) := splitEquals text
  if name = "historique".toList then .valued .historyFile attached
  else if name = "eval".toList then .valued .expression attached
  else if attached ≠ none then .unknown
  else if name = "help".toList then .help
  else if name = "version".toList then .version
  else if name = "radians".toList then .radians
  else if name = "sans-historique".toList then .withoutHistory
  else .unknown

/-- The kind of an argument. A group of letters after one dash is decided by its first letter, since
both short options act at once. -/
def argument (text : String) : Argument :=
  match text.toList with
  | ['-', '-'] => .lastDashes
  | '-' :: '-' :: long => longArgument long
  | '-' :: 'h' :: _ => .help
  | '-' :: 'V' :: _ => .version
  | _ => .unknown

/-- The value of an option may be the next argument, unless this looks like an option. -/
def isValue (text : String) : Bool :=
  text = "-" || text.toList.head? ≠ some '-'

namespace Options

/-- The option with its value set; it is set once, and the file has a name. -/
def set? (options : Options) (option : Valued) (value : String) : Option Options :=
  match option with
  | .historyFile =>
    if options.historyFile = none ∧ value ≠ "" then
      some { options with historyFile := some value }
    else none
  | .expression =>
    if options.expression = none then some { options with expression := some value } else none

/-- A history file cannot be combined with no history. -/
def areCompatible (options : Options) : Bool :=
  options.historyFile = none ∨ options.withoutHistory = false

end Options

/-- The request of the arguments that remain, after the options set so far. -/
def readFrom (options : Options) : List String → Request
  | [] => if options.areCompatible then .start options else .refused
  | text :: rest =>
    match argument text with
    | .help => .help
    | .version => .version
    | .radians =>
      if options.radians then .refused else readFrom { options with radians := true } rest
    | .withoutHistory =>
      if options.withoutHistory then .refused
      else readFrom { options with withoutHistory := true } rest
    | .valued option (some value) =>
      match options.set? option value with
      | some next => readFrom next rest
      | none => .refused
    | .valued option none =>
      match rest with
      | [] => .refused
      | value :: after =>
        if isValue value then
          match options.set? option value with
          | some next => readFrom next after
          | none => .refused
        else .refused
    | .lastDashes =>
      if rest = [] ∧ options.areCompatible then .start options else .refused
    | .unknown => .refused

/-- The request that arguments make. -/
def read (arguments : List String) : Request :=
  readFrom {} arguments

/-- The text of the version. -/
def versionText : String := "calculatrice_sci 0.1.0\n"

/-- The text of the help. -/
def helpText : String :=
  "Calculatrice scientifique (DEG/RAD, n!, %, historique)\n\n" ++
  "Usage: calculatrice_sci [OPTIONS]\n\n" ++
  "Options:\n" ++
  "      --radians               Démarrer en radians (degrés par défaut)\n" ++
  "      --historique <FICHIER>  " ++
    "Fichier d’historique (défaut : <données>/calculatrice_sci/historique.json)\n" ++
  "      --sans-historique       Ne rien persister\n" ++
  "      --eval <EXPR>           " ++
    "Évaluer une expression, afficher le résultat et quitter (sans fenêtre)\n" ++
  "  -h, --help                  Print help\n" ++
  "  -V, --version               Print version\n"

/-- The angle mode that the options choose. -/
def Options.mode (options : Options) : AngleMode :=
  if options.radians then .radians else .degrees

/-- What is shown for an expression, unless it is blank. -/
def shown? (expression : String) (mode : AngleMode) : Option (List Char) :=
  match evaluate expression mode with
  | .ok none => none
  | .ok (some evaluation) => some (Display.text evaluation.value)
  | .error _ => some Display.failure

/-- The outcome of one evaluation: a failure is shown, and the exit code tells it. -/
def evaluateOnce (expression : String) (mode : AngleMode) : Outcome :=
  match shown? expression mode with
  | none => ⟨0, ""⟩
  | some text => ⟨if text = Display.failure then 1 else 0, String.ofList text ++ "\n"⟩

/-- The outcome of the program without a display. -/
def run (arguments : List String) : Outcome :=
  match read arguments with
  | .help => ⟨0, helpText⟩
  | .version => ⟨0, versionText⟩
  | .refused => ⟨2, ""⟩
  | .start options =>
    match options.expression with
    | some expression => evaluateOnce expression options.mode
    | none => ⟨1, ""⟩

end ScientificCalculator.CommandLine
