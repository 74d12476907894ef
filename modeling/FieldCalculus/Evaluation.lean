import FieldCalculus.EnergyField.Change
import FieldCalculus.EnergyField.Coupling
import FieldCalculus.KeyOrder
import FieldCalculus.Operation
import FieldCalculus.Outcome
import FieldCalculus.Registry
/-!
# Evaluating operations

Each kind of operation has a handler, which reads fields of the registry, computes what
becomes of them and stores the result.  A handler stores last: whatever makes it skip the
operation or fail is found before, on fields that are not stored yet.  Exact operations must
keep the total energy of the fields they couple.
-/

namespace FieldCalculus

variable {α : Type} [Scalar α]

/-- The energies that fields are created with when an operation names them first. -/
structure DefaultEnergies (α : Type) where
  interaction : α
  regenerate : α
  entanglement : α
  network : α
  symbiosis : α

/-- The energies of fields that an operation creates. -/
def defaultEnergies : DefaultEnergies α where
  interaction := 50.0
  regenerate := 50.0
  entanglement := 60.0
  network := 70.0
  symbiosis := 80.0

/-- Two totals balance if both are finite and differ by no more than the tolerance. -/
def balanced (before after : α) (tolerance : α := Energy.conservationTolerance) : Bool :=
  Scalar.isFinite before && Scalar.isFinite after &&
    decide (Scalar.abs (before - after) ≤ tolerance)

/-- The fault of a coupling that does not keep the total of its pair.  Only exact kinds of
operations are held to that. -/
def gate (kind : Operation.Kind) (before after : EnergyField α × EnergyField α) :
    Option (Fault α) :=
  let totalBefore := before.1.pairTotal before.2
  let totalAfter := after.1.pairTotal after.2
  if kind.conservation = .exact ∧ balanced totalBefore totalAfter = false then
    some (.unbalanced totalBefore totalAfter)
  else none

/-- Computations that read and change the registry. -/
abbrev RegistryM (α : Type) := StateM (Registry α)

namespace Evaluation

/-! ## Access to the registry -/

/-- The registered field with a name. -/
def find (name : String) : RegistryM α (Option (EnergyField α)) := do
  return (← get).get? name

/-- The field with a name, or a new one with the given energy, which is not stored yet. -/
def resolve (name : String) (energy : α) : RegistryM α (EnergyField α) := do
  return (← get).resolve name energy

/-- Stores fields. -/
def commit (fields : List (EnergyField α)) : RegistryM α Unit :=
  modify (·.commit fields)

/-! ## Handlers -/

/-- Two fields interact. -/
def interaction (names : List String) : RegistryM α (Verdict α) := do
  match names with
  | [a, b] =>
    if a = "" ∨ b = "" then
      return .failed (.emptyName names)
    else
      let f ← resolve a defaultEnergies.interaction
      let g ← resolve b defaultEnergies.interaction
      let after := f.interact g
      match gate .interaction (f, g) after with
      | some fault => return .failed fault
      | none =>
        commit [after.1, after.2]
        let entries := [(a, after.1.snapshot), (b, after.2.snapshot)]
        return .applied (.interacted (KeyOrder.ordered Prod.fst entries))
  | _ => return .failed (.interactionCount names.length)

/-- Two fields are entangled. -/
def entanglement (a b : String) : RegistryM α (Verdict α) := do
  if a = "" ∨ b = "" then
    return .failed (.emptyName [a, b])
  else
    let f ← resolve a defaultEnergies.entanglement
    let g ← resolve b defaultEnergies.entanglement
    let after := f.entangle g
    commit [after.1, after.2]
    return .applied (.entangled a b after.1.energy.coherence)

/-- Two registered fields resonate. -/
def resonance (a b : String) : RegistryM α (Verdict α) := do
  match ← find a, ← find b with
  | some f, some g =>
    let after := f.resonate g
    let totalBefore := f.pairTotal g
    let totalAfter := after.1.pairTotal after.2
    commit [after.1, after.2]
    let amplification := if 0.0 < totalBefore then totalAfter / totalBefore else 1.0
    return .applied
      (.resonated a b amplification (after.1.energy.inPhaseWith after.2.energy))
  | _, _ => return .skipped (.resonance a b)

/-- A registered field changes phase. -/
def phaseTransition (name target : String) : RegistryM α (Verdict α) := do
  match ← find name with
  | none => return .skipped (.phaseTransition name)
  | some f =>
    match Phase.ofName? target with
    | none => return .failed (.unknownPhase target)
    | some phase =>
      let after := f.transition phase
      commit [after]
      return .applied
        (.phaseChanged name f.phase after.phase (f.energy.total - after.energy.total))

/-- A registered field splits. -/
def fractalSpawn (maxDepth : α) (name : String) (depth : α) : RegistryM α (Verdict α) := do
  match ← find name with
  | none => return .skipped (.fractalSpawn name)
  | some f =>
    if maxDepth < depth then
      return .failed (.depthLimit depth maxDepth)
    else
      match f.spawns? depth with
      | none => return .failed .tooManySpawns
      | some spawns =>
        commit spawns
        return .applied (.fractal name depth spawns.length (spawns.map EnergyField.name))

/-- Energy flows between two registered fields. -/
def spatialFlow (a b : String) : RegistryM α (Verdict α) := do
  match ← find a, ← find b with
  | some f, some g =>
    let after := f.flow g
    match gate .spatialFlow (f, g) after with
    | some fault => return .failed fault
    | none =>
      commit [after.1, after.2]
      return .applied (.flowed a b after.1.gradient)
  | _, _ => return .skipped (.spatialFlow a b)

/-- All pairs of a list in the order of their positions. -/
def indexPairs : List String → List (String × String)
  | [] => []
  | a :: rest => rest.map (a, ·) ++ indexPairs rest

/-- The member of a network as it is now: as an earlier pair left it, else as registered. -/
def current (staged : Registry α) (name : String) : RegistryM α (EnergyField α) := do
  match staged.get? name with
  | some f => return f
  | none => resolve name defaultEnergies.network

/-- Stages all members of a network as they are before the first pair. -/
def stageMembers (names : List String) : RegistryM α (Registry α) :=
  names.foldlM (fun staged name => return staged.put (← current staged name)) .empty

/-- Runs the pairs of a network, each on what the one before left.  The first pair that does
not balance ends the run. -/
def stagePairs (staged : Registry α) :
    List (String × String) → RegistryM α (Except (Fault α) (Registry α))
  | [] => return .ok staged
  | (a, b) :: rest => do
    let f ← current staged a
    let g ← current staged b
    let after := f.interact g
    match gate .network (f, g) after with
    | some fault => return .error fault
    | none => stagePairs ((staged.put after.1).put after.2) rest

/-- Every two members of a network interact, in the order of the list.  What the pairs leave
is staged and stored when all of them have balanced. -/
def network (names : List String) : RegistryM α (Verdict α) := do
  if names.length < 2 then
    return .failed (.networkCount names.length)
  else if "" ∈ names then
    return .failed (.emptyName names)
  else
    match ← stagePairs (← stageMembers names) (indexPairs names) with
    | .error fault => return .failed fault
    | .ok staged =>
      commit staged.fields
      return .applied (.networked names (indexPairs names) names.length)

/-- A field harvests energy. -/
def regenerate (name : String) (input : α) : RegistryM α (Verdict α) := do
  if name = "" then
    return .failed (.emptyName [name])
  else
    let f ← resolve name defaultEnergies.regenerate
    let after := f.regenerate input
    commit [after]
    return .applied (.regenerated name (after.capacity - f.capacity) after.capacity)

/-- A registered field decays. -/
def decay (name : String) (rate : α) : RegistryM α (Verdict α) := do
  match ← find name with
  | none => return .skipped (.decay name)
  | some f =>
    let after := f.decay rate
    commit [after]
    return .applied
      (.decayed name (f.energy.total - after.energy.total)
        (after.energy.entropy - f.energy.entropy))

/-- Two fields grow on each other. -/
def symbiosis (a b : String) : RegistryM α (Verdict α) := do
  if a = "" ∨ b = "" then
    return .failed (.emptyName [a, b])
  else
    let f ← resolve a defaultEnergies.symbiosis
    let g ← resolve b defaultEnergies.symbiosis
    let after := f.symbiosis g
    commit [after.1, after.2]
    let growth := [(a, after.1.capacity - f.capacity), (b, after.2.capacity - g.capacity)]
    return .applied (.symbiotic a b (KeyOrder.ordered Prod.fst growth))

/-- A field is created, in the place of its namesake if there is one. -/
def creation (name : String) (energy : α) : RegistryM α (Verdict α) := do
  commit [EnergyField.create name energy]
  return .applied (.created name energy)

end Evaluation

/-- The handler of an operation.  Splits deeper than `maxDepth` fail. -/
def Operation.handler (maxDepth : α) : Operation α → RegistryM α (Verdict α)
  | .entangle a b => Evaluation.entanglement a b
  | .resonance a b => Evaluation.resonance a b
  | .phaseTransition field target => Evaluation.phaseTransition field target
  | .fractalSpawn field _ depth => Evaluation.fractalSpawn maxDepth field depth
  | .spatialFlow a b => Evaluation.spatialFlow a b
  | .network fields _ => Evaluation.network fields
  | .regenerate field energy => Evaluation.regenerate field energy
  | .decay field rate => Evaluation.decay field rate
  | .symbiosis a b => Evaluation.symbiosis a b
  | .interaction fields _ => Evaluation.interaction fields
  | .unidirectionalFlow .. => return .skipped .unidirectionalFlow
  | .creation name energy => Evaluation.creation name energy
  | .unknown expression => return .applied (.unknown expression)

/-- Applies an operation: the registry afterwards and the verdict. -/
def Operation.apply (r : Registry α) (maxDepth : α) (op : Operation α) :
    Registry α × Verdict α :=
  let (verdict, after) := Id.run ((op.handler maxDepth).run r)
  (after, verdict)

end FieldCalculus
