import FieldCalculus.Interpreter
import FieldCalculus.Message
/-!
# Scenarios

A scenario seeds a fresh interpreter and runs a list of steps, each some number of
times and the whole list some number of times.
-/

namespace FieldCalculus

variable {α : Type} [Scalar α]

/-- A field that a scenario begins with. -/
structure Seed (α : Type) where
  name : String
  energy : α
  frequency : α
  position : Vector3 α

/-- A seed with the standard frequency at the origin. -/
def Seed.plain (name : String) (energy : α) : Seed α :=
  ⟨name, energy, EnergyField.defaultFrequency, Vector3.origin⟩

/-- A seed at the origin. -/
def Seed.tuned (name : String) (energy frequency : α) : Seed α :=
  ⟨name, energy, frequency, Vector3.origin⟩

/-- A seed with the standard frequency. -/
def Seed.placed (name : String) (energy : α) (position : Vector3 α) : Seed α :=
  ⟨name, energy, EnergyField.defaultFrequency, position⟩

/-- A script and how often it is run in a row, once if that is not said. -/
structure ScenarioStep (α : Type) where
  script : String
  times : Option α := none

/-- A script that is run once. -/
def ScenarioStep.once (script : String) : ScenarioStep α := { script }

/-- Seeds, steps, and how often the list of steps is run, once if that is not said. -/
structure Scenario (α : Type) where
  id : String
  title : String
  seeds : List (Seed α)
  steps : List (ScenarioStep α)
  cycles : Option α := none

/-- A scenario that has been run: the interpreter it ends in, the result log of each script
in order, and what it printed. -/
structure ScenarioRun (α : Type) where
  interpreter : Interpreter α
  results : List (ResultLog α)
  messages : List Message

/-- Runs one more script. -/
def ScenarioRun.advance (run : ScenarioRun α) (script : String) : ScenarioRun α :=
  let e := run.interpreter.execute script
  { interpreter := e.interpreter
    results := run.results ++ [e.results]
    messages := run.messages ++ e.warnings.map .warning }

namespace Scenario

/-- How often something is run that is run once if nothing else is said. -/
def rounds (count : Option α) : Nat := Scalar.rounds (count.getD 1.0)

/-- A fresh interpreter with the seeds of a scenario. -/
def seeded (s : Scenario α) (options : Options α) : Interpreter α :=
  s.seeds.foldl
    (fun i seed => i.createField seed.name seed.energy seed.frequency seed.position)
    (.new options)

/-- What every line about a scenario begins with. -/
def label (s : Scenario α) : String := "[Ecosystem] " ++ s.id ++ ": "

/-- The line that opens a run. -/
def opening (s : Scenario α) : String :=
  s.label ++ "seeded " ++ toString s.seeds.length ++ " field(s)"

/-- The line that closes a run. -/
def closing (s : Scenario α) (run : ScenarioRun α) : String :=
  s.label ++ toString run.results.length ++ " script(s) run, total energy " ++
    Scalar.fixed 4 run.interpreter.snapshot.totalEnergy ++ " J"

/-- Runs a scenario: every step as often as it says, and the list of steps in every cycle. -/
def run (s : Scenario α) (options : Options α := Options.standard) : ScenarioRun α := Id.run do
  let mut run : ScenarioRun α := ⟨s.seeded options, [], [.log s.opening]⟩
  for _ in List.range (rounds s.cycles) do
    for step in s.steps do
      for _ in List.range (rounds step.times) do
        run := run.advance step.script
  return { run with messages := run.messages ++ [.log (s.closing run)] }

end Scenario

end FieldCalculus
