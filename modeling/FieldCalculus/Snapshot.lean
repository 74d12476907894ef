import FieldCalculus.EnergyField
/-!
# Snapshots

What readers are shown of a field: its attributes side by side, without the parts that the
field itself is made of and without its name, under which a snapshot is listed.
-/

namespace FieldCalculus

/-- The attributes of a field at one moment. -/
structure Snapshot (α : Type) where
  energy : α
  kinetic : α
  potential : α
  entropy : α
  coherence : α
  angle : α
  capacity : α
  age : α
  phase : Phase
  frequency : α
  fractalDepth : α
  partner : Option String
  position : Vector3 α
  gradient : Vector3 α
  deriving Repr

namespace EnergyField

variable {α : Type}

/-- The snapshot of a field. -/
def snapshot (f : EnergyField α) : Snapshot α where
  energy := f.energy.total
  kinetic := f.energy.kinetic
  potential := f.energy.potential
  entropy := f.energy.entropy
  coherence := f.energy.coherence
  angle := f.energy.angle
  capacity := f.capacity
  age := f.age
  phase := f.phase
  frequency := f.frequency
  fractalDepth := f.fractalDepth
  partner := f.partner
  position := f.position
  gradient := f.gradient

/-- The entry of a field in a record of snapshots. -/
def entry (f : EnergyField α) : String × Snapshot α :=
  (f.name, f.snapshot)

end EnergyField

end FieldCalculus
