import FieldCalculus.Report
import FieldCalculus.Scenario.Library
/-!
# The demo

Runs scenarios one after the other, each on an interpreter of its own, and prints for
each the outcomes of its last script and a report of the state it ends in.
-/

namespace FieldCalculus.Demo

variable {α : Type} [Scalar α]

/-- A demo: its runs under their scenarios' identifiers, and what it printed.  A scenario
that is run again keeps its place and holds the last run. -/
structure Show (α : Type) where
  runs : List (String × ScenarioRun α)
  messages : List Message

/-- What the demo prints about a scenario that has been run. -/
def messages (s : Scenario α) (run : ScenarioRun α) : List Message :=
  let last := (run.results.getLast?).getD []
  [.log ("\n--- " ++ s.title ++ " ---")] ++ run.messages
    ++ last.map (fun (key, outcome) => .log ("  " ++ key ++ ": " ++ outcome.typeName))
    ++ [.log (Report.text run.interpreter.snapshot)]

/-- Adds the run of one scenario. -/
def advance (demo : Show α) (s : Scenario α) : Show α :=
  let run := s.run
  { runs := KeyOrder.insert Prod.fst (s.id, run) demo.runs
    messages := demo.messages ++ messages s run }

/-- Runs a demo of some scenarios. -/
def run (scenarios : List (Scenario α) := Scenario.library) : Show α :=
  let done := scenarios.foldl advance ⟨[], [.log "=== Cyclic Field Demo ==="]⟩
  { done with messages := done.messages ++ [.log "=== Demo Complete ==="] }

end FieldCalculus.Demo
