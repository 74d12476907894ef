import FieldCalculus.Snapshot
/-!
# Outcomes and faults

What applying an operation comes to: an outcome that reports what was done, a reason
why nothing was to be done, or a fault.
-/

namespace FieldCalculus

/-- Why an operation fails. -/
inductive Fault (α : Type)
  /-- An interaction of other than two fields. -/
  | interactionCount (count : Nat)
  /-- A network of fewer than two fields. -/
  | networkCount (count : Nat)
  | emptyName (names : List String)
  | unknownPhase (target : String)
  | depthLimit (depth limit : α)
  /-- The total energy before and after an exact operation differ. -/
  | unbalanced (before after : α)
  /-- A split has more parts than a list can hold. -/
  | tooManySpawns
  deriving Repr

namespace Fault

variable {α : Type} [Scalar α]

/-- The class of a fault, as a log names it. -/
def code : Fault α → String
  | interactionCount _ | networkCount _ => "FIELD_COUNT"
  | emptyName _ => "EMPTY_FIELD_NAME"
  | unknownPhase _ => "UNKNOWN_PHASE"
  | depthLimit .. => "DEPTH_LIMIT"
  | unbalanced .. => "CONSERVATION_VIOLATION"
  | tooManySpawns => "INTERNAL"

/-- The text of a fault. -/
def message : Fault α → String
  | interactionCount _ => "Bidirectional interaction requires exactly 2 fields"
  | networkCount _ => "Multi-field network requires at least 2 fields"
  | emptyName _ => "Field name must not be empty"
  | unknownPhase target => "Unknown phase state: " ++ target
  | depthLimit depth limit =>
    "Fractal depth " ++ Scalar.text depth ++ " exceeds limit " ++ Scalar.text limit
  | unbalanced before after =>
    "Energy not conserved: " ++ Scalar.text before ++ " → " ++ Scalar.text after ++
      ", difference: " ++ Scalar.text (Scalar.abs (before - after))
  | tooManySpawns => "Invalid array length"

end Fault

/-- Why an operation does nothing. -/
inductive Skip
  | resonance (a b : String)
  | phaseTransition (field : String)
  | fractalSpawn (field : String)
  | spatialFlow (a b : String)
  | decay (field : String)
  | unidirectionalFlow
  deriving Repr, DecidableEq

/-- The text of a reason to do nothing. -/
def Skip.reason : Skip → String
  | resonance a b => "resonance needs existing fields " ++ a ++ ", " ++ b
  | phaseTransition field => "phase transition needs existing field " ++ field
  | fractalSpawn field => "fractal spawn needs existing field " ++ field
  | spatialFlow a b => "spatial flow needs existing fields " ++ a ++ ", " ++ b
  | decay field => "decay needs existing field " ++ field
  | unidirectionalFlow => "unidirectional flow has no transition"

/-- What an applied operation reports. -/
inductive Outcome (α : Type)
  | created (field : String) (energy : α)
  /-- What both fields are afterwards, under their names and in key order. -/
  | interacted (fields : List (String × Snapshot α))
  | regenerated (field : String) (capacityGrowth newCapacity : α)
  | decayed (field : String) (energyLost entropyIncrease : α)
  /-- The growth of each capacity, in key order. -/
  | symbiotic (a b : String) (capacityGrowth : List (String × α))
  | entangled (a b : String) (coherence : α)
  | resonated (a b : String) (amplification : α) (phaseLocked : Bool)
  | phaseChanged (field : String) (oldPhase newPhase : Phase) (energyCost : α)
  | fractal (parent : String) (depth : α) (spawnsCreated : Nat) (spawnNames : List String)
  | flowed (a b : String) (gradient : Vector3 α)
  | networked (fields : List String) (interactions : List (String × String)) (size : Nat)
  | unknown (expression : String)
  /-- The operation broke conservation. -/
  | violation (error : String)
  /-- The operation failed for another reason. -/
  | failure (error : String)
  deriving Repr

namespace Outcome

variable {α : Type}

/-- The name of an outcome's type. -/
def typeName : Outcome α → String
  | created .. => "field_created"
  | interacted .. => "bidirectional"
  | regenerated .. => "regenerative"
  | decayed .. => "decay"
  | symbiotic .. => "symbiotic"
  | entangled .. => "quantum_entanglement"
  | resonated .. => "resonance"
  | phaseChanged .. => "phase_transition"
  | fractal .. => "fractal_generation"
  | flowed .. => "spatial_gradient_flow"
  | networked .. => "multi_field_network"
  | unknown .. => "unknown"
  | violation .. => "conservation_violation"
  | failure .. => "execution_error"

/-- The word that begins the key of an outcome in a result log. -/
def keyWord : Outcome α → String
  | created .. => "creation"
  | interacted .. => "interaction"
  | regenerated .. => "regenerate"
  | decayed .. => "decay"
  | symbiotic .. => "symbiosis"
  | entangled .. => "quantum"
  | resonated .. => "resonance"
  | phaseChanged .. => "phase"
  | fractal .. => "fractal"
  | flowed .. => "spatial"
  | networked .. => "network"
  | unknown .. => "unknown"
  | violation .. => "error"
  | failure .. => "error"

/-- The key of an outcome that has `number` outcomes before it. -/
def key (o : Outcome α) (number : Nat) : String :=
  o.keyWord ++ "_" ++ toString number

/-- The outcome that reports a fault. -/
def ofFault [Scalar α] (fault : Fault α) : Outcome α :=
  match fault with
  | .unbalanced .. => .violation fault.message
  | _ => .failure fault.message

end Outcome

/-- What applying an operation comes to. -/
inductive Verdict (α : Type)
  | applied (outcome : Outcome α)
  | skipped (reason : Skip)
  | failed (fault : Fault α)
  deriving Repr

end FieldCalculus
