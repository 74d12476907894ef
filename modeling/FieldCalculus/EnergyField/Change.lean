import FieldCalculus.EnergyField
/-!
# Changes of one field

Phase transitions, decay, and the split of a field into smaller copies of itself.
-/

namespace FieldCalculus.EnergyField

variable {α : Type} [Scalar α]

/-- What one step between two phases costs. -/
def phaseStepCost : α := 10.0

/-- What a transition to a phase costs the field. -/
def transitionCost (f : EnergyField α) (target : Phase) : α :=
  (f.phase.steps target : α) * phaseStepCost

/-- Moves the field to another phase.  A field that cannot pay for it stays as it is. -/
def transition (f : EnergyField α) (target : Phase) : EnergyField α :=
  let cost := f.transitionCost target
  let e := f.energy
  if e.total < cost then f
  else
    let heating := f.phase.index < target.index
    { f.aged { e with
        total := e.total - cost
        kinetic := if heating then e.kinetic + cost else e.kinetic - cost
        potential := if heating then e.potential - cost else e.potential + cost
        entropy := e.entropy + (f.phase.steps target : α) * 2.0
        coherence := e.coherence * (if target = .plasma then 0.5 else 1.0) } with
      phase := target }

/-- The rate of decay when none is given. -/
def defaultDecayRate : α := 0.05

/-- Loses a share of its energy and a little capacity; a tenth of the loss becomes entropy. -/
def decay (f : EnergyField α) (rate : α := defaultDecayRate) : EnergyField α :=
  let e := f.energy
  let loss := e.total * rate
  { f.aged { e with
      total := e.total - loss
      kinetic := e.kinetic * (1.0 - rate)
      potential := e.potential * (1.0 - rate)
      entropy := e.entropy + loss * 0.1
      coherence := e.coherence * 0.95 } with
    capacity := f.capacity * 0.99 }

/-- The distance between neighbouring spawns. -/
def latticeStep : α := 0.1

/-- The name of a spawn: its parent's name, the depth of the split and its place in it. -/
def spawnName (parent : String) (depth : α) (i : Nat) : String :=
  parent ++ "_fractal_" ++ Scalar.text depth ++ "_" ++ toString i

/-- The spawn at place `i` of a split into `count` parts.  The angles of the spawns are
spread over the full turn and their positions over a lattice two cells wide and high. -/
def spawn (f : EnergyField α) (depth count : α) (i : Nat) : EnergyField α where
  name := spawnName f.name depth i
  energy :=
    { total := f.energy.total / count
      kinetic := f.energy.kinetic / count
      potential := f.energy.potential / count
      entropy := f.energy.entropy / count
      coherence := f.energy.coherence
      angle := wrapAngle (f.energy.angle + (i : α) * (Scalar.tau / count)) }
  position :=
    ⟨f.position.x + ((i % 2 : Nat) : α) * latticeStep,
     f.position.y + ((i / 2 % 2 : Nat) : α) * latticeStep,
     f.position.z + ((i / 4 : Nat) : α) * latticeStep⟩
  gradient := f.gradient
  capacity := f.capacity * 0.8
  age := 0.0
  phase := f.phase
  frequency := f.frequency * count
  fractalDepth := depth
  partner := none

/-- The greatest number of spawns of one split. -/
def maxSpawns : Nat := 4294967295

/-- How many spawns a split of some depth has; `none` if they are too many. -/
def spawnCount? (depth : α) : Option Nat :=
  (Scalar.units? (Scalar.exp2 depth)).filter (· ≤ maxSpawns)

/-- Splits the field into `2 ^ depth` smaller and faster copies.  The field itself stays.
A split into too many parts fails. -/
def spawns? (f : EnergyField α) (depth : α) : Option (List (EnergyField α)) :=
  (spawnCount? depth).map fun n =>
    (List.range n).map (f.spawn depth (Scalar.exp2 depth))

end FieldCalculus.EnergyField
