import FieldCalculus.Number.Numeral
/-!
# Operations

What a line of a script asks for, and how each kind of operation treats energy.
-/

namespace FieldCalculus

/-- One recognised line. -/
inductive Operation (α : Type)
  | entangle (a b : String)
  | resonance (a b : String)
  | phaseTransition (field target : String)
  | fractalSpawn (field : String) (iterations depth : α)
  | spatialFlow (a b : String)
  | network (fields : List String) (constraints : String)
  | regenerate (field : String) (energy : α)
  | decay (field : String) (rate : α)
  | symbiosis (a b : String)
  | interaction (fields : List String) (constraints : String)
  | unidirectionalFlow (fields : List String) (constraints : String)
  | creation (name : String) (energy : α)
  /-- A line that no rule recognises. -/
  | unknown (expression : String)
  deriving Repr, DecidableEq

namespace Operation

/-- The kinds of operations. -/
inductive Kind
  | entangle
  | resonance
  | phaseTransition
  | fractalSpawn
  | spatialFlow
  | network
  | regenerate
  | decay
  | symbiosis
  | interaction
  | unidirectionalFlow
  | creation
  | unknown
  deriving Repr, DecidableEq

/-- How an operation treats the total energy of the fields it names. -/
inductive Conservation
  /-- The total stays the same, and the operation is checked for it. -/
  | exact
  /-- The total is pumped up from outside. -/
  | amplifying
  /-- The total grows by a harvest from outside. -/
  | growing
  /-- The total falls. -/
  | lossy
  /-- The parts add up to the whole. -/
  | split
  /-- The total is not touched. -/
  | neutral
  deriving Repr, DecidableEq

variable {α : Type}

/-- The kind of an operation. -/
def kind : Operation α → Kind
  | entangle .. => .entangle
  | resonance .. => .resonance
  | phaseTransition .. => .phaseTransition
  | fractalSpawn .. => .fractalSpawn
  | spatialFlow .. => .spatialFlow
  | network .. => .network
  | regenerate .. => .regenerate
  | decay .. => .decay
  | symbiosis .. => .symbiosis
  | interaction .. => .interaction
  | unidirectionalFlow .. => .unidirectionalFlow
  | creation .. => .creation
  | unknown _ => .unknown

/-- The fields that an operation names. -/
def fields : Operation α → List String
  | entangle a b | resonance a b | spatialFlow a b | symbiosis a b => [a, b]
  | phaseTransition field _ | fractalSpawn field _ _ | regenerate field _ | decay field _ => [field]
  | network fields _ | interaction fields _ | unidirectionalFlow fields _ => fields
  | creation name _ => [name]
  | unknown _ => []

namespace Kind

/-- All kinds, in the order of their conservation classes. -/
def all : List Kind :=
  [interaction, spatialFlow, network, unidirectionalFlow, entangle, creation, unknown, resonance,
   regenerate, symbiosis, phaseTransition, decay, fractalSpawn]

/-- The name a kind is written with. -/
def name : Kind → String
  | entangle => "quantum_entangle"
  | resonance => "resonance"
  | phaseTransition => "phase_transition"
  | fractalSpawn => "fractal_spawn"
  | spatialFlow => "spatial_gradient"
  | network => "multi_field_network"
  | regenerate => "regenerate"
  | decay => "decay"
  | symbiosis => "symbiosis"
  | interaction => "bidirectional_interaction"
  | unidirectionalFlow => "unidirectional_flow"
  | creation => "field_creation"
  | unknown => "unknown"

/-- How a kind of operation treats energy. -/
def conservation : Kind → Conservation
  | interaction | spatialFlow | network => .exact
  | unidirectionalFlow | entangle | creation | unknown => .neutral
  | resonance => .amplifying
  | regenerate | symbiosis => .growing
  | phaseTransition | decay => .lossy
  | fractalSpawn => .split

end Kind

/-- The name a conservation class is written with. -/
def Conservation.name : Conservation → String
  | exact => "EXACT"
  | amplifying => "AMPLIFYING"
  | growing => "GROWING"
  | lossy => "LOSSY"
  | split => "SPLIT"
  | neutral => "NEUTRAL"

end Operation

end FieldCalculus
