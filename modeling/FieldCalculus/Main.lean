import FieldCalculus.Number.FloatScalar
import FieldCalculus.Scenario.Demo
/-!
# The command line

Prints the demo of the built-in scenarios.
-/

open FieldCalculus

/-- Prints a message where its kind belongs. -/
def printMessage : Message → IO Unit
  | .log text => IO.println text
  | .warning text => IO.eprintln text

def main : IO Unit :=
  (Demo.run : Demo.Show Float).messages.forM printMessage
