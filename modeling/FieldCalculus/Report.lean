import FieldCalculus.SystemState
/-!
# The report

A system state as a text for people: the totals, then a block for every field.  A large
system can be reported by its number of fields alone.
-/

namespace FieldCalculus.Report

variable {α : Type} [Scalar α]

/-- The line around the head and under the whole report. -/
def rule : String := String.ofList (List.replicate 70 '=')

/-- The line above the fields. -/
def thinRule : String := String.ofList (List.replicate 70 '-')

/-- Systems with more fields than this can be summarised. -/
def summaryThreshold : Nat := 10

/-- Amounts have four decimal places. -/
def amount (x : α) : String := Scalar.fixed 4 x

/-- The line that gives the depth of a spawn. -/
def depthLine (s : Snapshot α) : List String :=
  if 0.0 < s.fractalDepth then ["    Fractal Depth:    " ++ Scalar.text s.fractalDepth] else []

/-- The line that names the partner of a field, if its name is not empty. -/
def partnerLine (s : Snapshot α) : List String :=
  match s.partner with
  | none => []
  | some partner => if partner = "" then [] else ["    Entangled with:   " ++ partner]

/-- The block of one field. -/
def block (name : String) (s : Snapshot α) : List String :=
  ["",
   "  Field: " ++ name,
   "    Energy:           " ++ amount s.energy ++ " J",
   "    Phase State:      " ++ s.phase.name,
   "    Frequency:        " ++ Scalar.fixed 2 s.frequency ++ " Hz",
   "    Capacity:         " ++ amount s.capacity,
   "    Entropy:          " ++ amount s.entropy,
   "    Coherence:        " ++ amount s.coherence,
   "    Phase Angle:      " ++ amount s.angle ++ " rad",
   "    Age:              " ++ Scalar.text s.age ++ " cycles"]
  ++ depthLine s ++ partnerLine s

/-- The head of a report. -/
def head (s : SystemState α) : List String :=
  [rule,
   "SYSTEM STATE",
   rule,
   "Total System Energy:   " ++ amount s.totalEnergy ++ " J",
   "Total System Entropy:  " ++ amount s.totalEntropy,
   "Average Capacity:      " ++ amount s.averageCapacity,
   "Average Coherence:     " ++ amount s.averageCoherence,
   "Energy Budget:         " ++ amount s.budgetRemaining ++ " J"]

/-- The part of a report about the fields: a block for each, or their number if blocks are
not wanted and there are too many. -/
def body (s : SystemState α) (showAll : Bool) : List String :=
  if showAll || s.fields.length ≤ summaryThreshold then
    ["", "Fields:", thinRule] ++ s.fields.flatMap fun (name, field) => block name field
  else
    ["", toString s.fields.length ++ " fields in system (showing summary only)"]

/-- The lines of a report. -/
def lines (s : SystemState α) (showAll : Bool := true) : List String :=
  head s ++ body s showAll ++ [rule]

/-- The text of a report. -/
def text (s : SystemState α) (showAll : Bool := true) : String :=
  "\n".intercalate (lines s showAll)

end FieldCalculus.Report
