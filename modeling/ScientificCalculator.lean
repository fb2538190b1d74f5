import ScientificCalculator.Calculator.Screen
import ScientificCalculator.Calculator.Session
import ScientificCalculator.Main
import ScientificCalculator.Proofs.Canonical.Constant
import ScientificCalculator.Proofs.Canonical.Factorial
import ScientificCalculator.Proofs.Canonical.Hundredth
import ScientificCalculator.Proofs.Canonical.Resolved
import ScientificCalculator.Proofs.Display.Opposite
import ScientificCalculator.Proofs.Evaluation.Adjacent
import ScientificCalculator.Proofs.Evaluation.Blanks
import ScientificCalculator.Proofs.Evaluation.Fraction
import ScientificCalculator.Proofs.Evaluation.Modes
import ScientificCalculator.Proofs.Evaluation.Canonical
import ScientificCalculator.Proofs.Binary64.Units
import ScientificCalculator.Proofs.Expr.Distinct
import ScientificCalculator.Proofs.Expr.Text
import ScientificCalculator.Proofs.Evaluation.TreeText
import ScientificCalculator.Proofs.Json.Reader
import ScientificCalculator.Proofs.Display.Characters
import ScientificCalculator.Proofs.History.Document
import ScientificCalculator.Proofs.Session.Run
import ScientificCalculator.Proofs.Session.Log
import ScientificCalculator.Proofs.Session.Mirror
import ScientificCalculator.Proofs.Session.Computed
import ScientificCalculator.Proofs.Screen.Refinement
import ScientificCalculator.Proofs.Screen.Lines
import ScientificCalculator.Proofs.CommandLine
import ScientificCalculator.Proofs.Session.Recall
import ScientificCalculator.Proofs.Session.Again
import ScientificCalculator.Proofs.Token.Text
import ScientificCalculator.Proofs.Binary64.Sum
import ScientificCalculator.Proofs.Session.Memory
import ScientificCalculator.Proofs.Json.Spelling
import ScientificCalculator.Proofs.Json.Grammar
import ScientificCalculator.Proofs.Json.Decoding
import ScientificCalculator.Proofs.History.Written
