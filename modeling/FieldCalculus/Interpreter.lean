import FieldCalculus.Evaluation
import FieldCalculus.Grammar.Rules
import FieldCalculus.Journal
import FieldCalculus.SystemState
/-!
# The interpreter

Runs scripts line by line on one registry.  Each line stands alone: a line that fails
is logged and the lines after it still run.  Every line that is not skipped adds an
outcome to the result log, and every line is journaled.
-/

namespace FieldCalculus

variable {α : Type} [Scalar α]

/-- What an interpreter is set up with. -/
structure Options (α : Type) where
  energyBudget : α
  maxFractalDepth : α
  journalCapacity : α

namespace Options

/-- The energy budget when none is given. -/
def defaultEnergyBudget : α := 1000.0

/-- The greatest depth of a split when none is given. -/
def defaultMaxFractalDepth : α := 12.0

/-- The options when none are given. -/
def standard : Options α where
  energyBudget := defaultEnergyBudget
  maxFractalDepth := defaultMaxFractalDepth
  journalCapacity := Journal.defaultCapacity

end Options

/-- An interpreter between two scripts. -/
structure Interpreter (α : Type) where
  registry : Registry α
  journal : Journal α
  budget : Budget α
  maxFractalDepth : α

/-- The outcomes of a script under their keys, in order. -/
abbrev ResultLog (α : Type) := List (String × Outcome α)

/-- A script under way: the interpreter, the results so far and the warnings so far. -/
structure Execution (α : Type) where
  interpreter : Interpreter α
  results : ResultLog α
  warnings : List String

/-- The warning that a failed line gives. -/
def Fault.warning (fault : Fault α) (key : String) : String :=
  "[FieldInterpreter] " ++ key ++ " (" ++ fault.code ++ "): " ++ fault.message

namespace Execution

/-- The key of the next outcome. -/
def nextKey (e : Execution α) (outcome : Outcome α) : String :=
  outcome.key e.results.length

/-- The interpreter with the registry that a line leaves and the line journaled. -/
def note (e : Execution α) (after : Registry α) (line : String) (status : Status)
    (key reason : Option String) : Interpreter α :=
  { e.interpreter with
    registry := after
    journal := (e.interpreter.journal.record line status key reason).2 }

/-- Runs one line. -/
def step (e : Execution α) (line : String) : Execution α :=
  match (recognize line).apply e.interpreter.registry e.interpreter.maxFractalDepth with
  | (after, .applied outcome) =>
    let key := e.nextKey outcome
    { e with
      interpreter := e.note after line .applied (some key) none
      results := e.results ++ [(key, outcome)] }
  | (after, .skipped reason) =>
    { e with interpreter := e.note after line .skipped none (some reason.reason) }
  | (after, .failed fault) =>
    let outcome := Outcome.ofFault fault
    let key := e.nextKey outcome
    { interpreter := e.note after line .failed (some key) (some fault.message)
      results := e.results ++ [(key, outcome)]
      warnings := e.warnings ++ [fault.warning key] }

/-- Runs some lines. -/
def run (e : Execution α) (lines : List String) : Execution α :=
  lines.foldl step e

end Execution

namespace Interpreter

/-- An interpreter without fields. -/
def new (options : Options α := Options.standard) : Interpreter α where
  registry := .empty
  journal := .empty options.journalCapacity
  budget := .full options.energyBudget
  maxFractalDepth := options.maxFractalDepth

/-- Stores a field. -/
def put (i : Interpreter α) (f : EnergyField α) : Interpreter α :=
  { i with registry := i.registry.put f }

/-- Creates and stores a field. -/
def createField (i : Interpreter α) (name : String) (energy : α := EnergyField.defaultEnergy)
    (frequency : α := EnergyField.defaultFrequency) (position : Vector3 α := Vector3.origin) :
    Interpreter α :=
  i.put (EnergyField.create name energy frequency position)

/-- Removes a field.  Its partner keeps its name. -/
def removeField (i : Interpreter α) (name : String) : Interpreter α :=
  { i with registry := i.registry.remove name }

/-- Runs a script. -/
def execute (i : Interpreter α) (script : String) : Execution α :=
  Execution.run ⟨i, [], []⟩ (Text.splitLines script)

/-- The state of the system. -/
def snapshot (i : Interpreter α) : SystemState α :=
  .ofRegistry i.registry i.budget

end Interpreter

end FieldCalculus
