/-!
# Phases

The five phases of a field, in order of falling regularity.  Changing phase costs
energy in proportion to the steps between two places of this order.
-/

namespace FieldCalculus

/-- The phase a field is in. -/
inductive Phase
  | crystalline
  | normal
  | liquid
  | gas
  | plasma
  deriving Repr, DecidableEq

namespace Phase

/-- All phases in their order. -/
def all : List Phase :=
  [crystalline, normal, liquid, gas, plasma]

/-- The name a phase is written with. -/
def name : Phase → String
  | crystalline => "crystalline"
  | normal => "normal"
  | liquid => "liquid"
  | gas => "gas"
  | plasma => "plasma"

/-- The place of a phase in the order. -/
def index : Phase → Nat
  | crystalline => 0
  | normal => 1
  | liquid => 2
  | gas => 3
  | plasma => 4

/-- The phase with a given name. -/
def ofName? (name : String) : Option Phase :=
  all.find? (·.name = name)

/-- The number of steps between two phases. -/
def steps (p q : Phase) : Nat :=
  (p.index - q.index) + (q.index - p.index)

theorem ofName?_name (p : Phase) : ofName? p.name = some p := by
  cases p <;> decide

end Phase

end FieldCalculus
