import FieldCalculus.Energy
import FieldCalculus.Phase
/-!
# Fields

A field is a named energy state with a place in space.  Every change of a field is a
function that returns the field as it is afterwards.
-/

namespace FieldCalculus

/-- A named field. -/
structure EnergyField (α : Type) where
  name : String
  energy : Energy α
  position : Vector3 α
  gradient : Vector3 α
  /-- How strongly the field regenerates. -/
  capacity : α
  /-- How many transitions the field has gone through. -/
  age : α
  phase : Phase
  /-- The frequency of its oscillation, which decides resonance. -/
  frequency : α
  /-- The depth of the split it came from, zero for a field that was created. -/
  fractalDepth : α
  /-- The name of its entangled partner, which need not exist any more. -/
  partner : Option String
  deriving Repr, BEq

namespace EnergyField

variable {α : Type} [Scalar α]

/-- The energy a field is created with when none is given. -/
def defaultEnergy : α := 10.0

/-- The frequency of a field when none is given. -/
def defaultFrequency : α := 1.0

/-- The entropy of a new field. -/
def genesisEntropy : α := 1.0

/-- A new field: it holds its energy as a bare total. -/
def create (name : String) (energy : α := defaultEnergy) (frequency : α := defaultFrequency)
    (position : Vector3 α := Vector3.origin) : EnergyField α where
  name := name
  energy := { Energy.zero with total := energy, entropy := genesisEntropy }
  position := position
  gradient := Vector3.origin
  capacity := 1.0
  age := 0.0
  phase := .normal
  frequency := frequency
  fractalDepth := 0.0
  partner := none

/-- The field with another energy state, one transition older. -/
def aged (f : EnergyField α) (energy : Energy α) : EnergyField α :=
  { f with energy := energy, age := f.age + 1.0 }

/-- The total energy of a pair of fields. -/
def pairTotal (a b : EnergyField α) : α :=
  a.energy.total + b.energy.total

end EnergyField

end FieldCalculus
