import FieldCalculus.Interpreter
import FieldCalculus.Json.Basic
import FieldCalculus.Number.FloatScalar
/-!
# Responses as JSON

How snapshots, system states, outcomes and journal entries look in the bodies of
responses.
-/

namespace FieldCalculus.Console

open Json

/-- A vector as an array of its coordinates. -/
def encodeVector (v : Vector3 Float) : Json :=
  array [number v.x, number v.y, number v.z]

/-- A list of names. -/
def encodeNames (names : List String) : Json :=
  array (names.map string)

/-- A snapshot of a field. -/
def encodeSnapshot (s : Snapshot Float) : Json :=
  object
    [("energy", number s.energy),
     ("kinetic", number s.kinetic),
     ("potential", number s.potential),
     ("entropy", number s.entropy),
     ("quantumCoherence", number s.coherence),
     ("phaseAngle", number s.angle),
     ("capacity", number s.capacity),
     ("age", number s.age),
     ("phaseState", string s.phase.name),
     ("frequency", number s.frequency),
     ("fractalDepth", number s.fractalDepth),
     ("entangledWith", Json.ofOption string s.partner),
     ("position", encodeVector s.position),
     ("gradient", encodeVector s.gradient)]

/-- Snapshots under the names of their fields. -/
def encodeSnapshots (fields : List (String × Snapshot Float)) : Json :=
  object (fields.map fun (name, s) => (name, encodeSnapshot s))

/-- A system state. -/
def encodeState (s : SystemState Float) : Json :=
  object
    [("fields", encodeSnapshots s.fields),
     ("totalSystemEnergy", number s.totalEnergy),
     ("totalSystemEntropy", number s.totalEntropy),
     ("averageCapacity", number s.averageCapacity),
     ("averageCoherence", number s.averageCoherence),
     ("energyBudgetRemaining", number s.budgetRemaining)]

/-- What an outcome reports besides its type. -/
def outcomeMembers : Outcome Float → List (String × Json)
  | .created field energy => [("field", string field), ("energy", number energy)]
  | .interacted fields => [("fields", encodeSnapshots fields), ("energyConserved", bool true)]
  | .regenerated field growth capacity =>
    [("field", string field), ("capacityGrowth", number growth), ("newCapacity", number capacity)]
  | .decayed field lost increase =>
    [("field", string field), ("energyLost", number lost), ("entropyIncrease", number increase)]
  | .symbiotic a b growth =>
    [("fields", encodeNames [a, b]), ("mutualBenefit", bool true),
     ("capacityGrowth", object (growth.map fun (name, x) => (name, number x)))]
  | .entangled a b coherence =>
    [("fields", encodeNames [a, b]), ("coherence", number coherence), ("entangled", bool true)]
  | .resonated a b amplification locked =>
    [("fields", encodeNames [a, b]), ("amplification", number amplification),
     ("phaseLocked", bool locked)]
  | .phaseChanged field oldPhase newPhase cost =>
    [("field", string field), ("oldPhase", string oldPhase.name),
     ("newPhase", string newPhase.name), ("energyCost", number cost)]
  | .fractal parent depth created names =>
    [("parent", string parent), ("depth", number depth), ("spawnsCreated", Json.ofNat created),
     ("spawnNames", encodeNames names)]
  | .flowed a b gradient =>
    [("fields", encodeNames [a, b]), ("gradientStrength", encodeVector gradient)]
  | .networked fields interactions size =>
    [("fields", encodeNames fields),
     ("interactions", array (interactions.map fun (a, b) => encodeNames [a, b])),
     ("networkSize", Json.ofNat size)]
  | .unknown expression => [("expression", string expression)]
  | .violation error => [("error", string error)]
  | .failure error => [("error", string error)]

/-- An outcome. -/
def encodeOutcome (o : Outcome Float) : Json :=
  object (("type", string o.typeName) :: outcomeMembers o)

/-- A member that is left out when there is nothing to say. -/
def optionalMember (key : String) : Option String → List (String × Json)
  | none => []
  | some text => [(key, string text)]

/-- A journal entry. -/
def encodeEntry (e : JournalEntry) : Json :=
  object
    ([("seq", Json.ofNat e.seq), ("line", string e.line), ("status", string e.status.name)]
      ++ optionalMember "key" e.key ++ optionalMember "reason" e.reason)

end FieldCalculus.Console
