import FieldCalculus.KeyOrder
import FieldCalculus.Registry
import FieldCalculus.Snapshot
/-!
# System state

A view of the whole registry: a snapshot of every field under its name, in key order, with
the totals and means over all fields.
-/

namespace FieldCalculus

/-- The state of a system at one moment. -/
structure SystemState (α : Type) where
  fields : List (String × Snapshot α)
  totalEnergy : α
  totalEntropy : α
  averageCapacity : α
  averageCoherence : α
  budgetRemaining : α

namespace SystemState

variable {α : Type} [Scalar α]

/-- The state of a registry under a budget. -/
def ofRegistry (r : Registry α) (budget : Budget α) : SystemState α where
  fields := KeyOrder.ordered Prod.fst (r.fields.map EnergyField.entry)
  totalEnergy := Scalar.sum (r.fields.map (·.energy.total))
  totalEntropy := Scalar.sum (r.fields.map (·.energy.entropy))
  averageCapacity := Scalar.mean (r.fields.map EnergyField.capacity)
  averageCoherence := Scalar.mean (r.fields.map (·.energy.coherence))
  budgetRemaining := budget.remaining

end SystemState

end FieldCalculus
