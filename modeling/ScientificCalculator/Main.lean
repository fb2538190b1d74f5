/-
**The program.**

* `main`: prints the outcome of the command line and ends with its exit code.
-/

import ScientificCalculator.CommandLine

/-- Runs the command line. -/
def main (arguments : List String) : IO UInt32 := do
  let outcome := ScientificCalculator.CommandLine.run arguments
  let output ← IO.getStdout
  output.putStr outcome.printed
  output.flush
  return outcome.code.toUInt32
