import FieldCalculus.Number.Numeric
import FieldCalculus.Interpreter
import FieldCalculus.Number.FloatScalar
/-!
# Settings

How the program is configured from environment variables.  A variable that is unset or
blank falls back to its default.  All settings are checked, and every fault is reported.
-/

namespace FieldCalculus

/-- What the program runs with. -/
structure Settings where
  tcpPort : Float
  host : String
  energyBudget : Float
  maxFractalDepth : Float

namespace Settings

/-- What can be wrong with a numeric setting. -/
inductive Fault
  | notNumber
  | notInteger
  | below (bound : Nat)
  | above (bound : Nat)
  | notFinite
  deriving Repr, DecidableEq

/-- The text of a fault. -/
def Fault.message : Fault → String
  | notNumber => "Expected number, received nan"
  | notInteger => "Expected integer, received float"
  | below bound => "Number must be greater than or equal to " ++ toString bound
  | above bound => "Number must be less than or equal to " ++ toString bound
  | notFinite => "Number must be finite"

/-- A fault of one setting. -/
structure Issue where
  setting : String
  fault : Fault
  deriving Repr, DecidableEq

/-- The text of an issue. -/
def Issue.text (i : Issue) : String :=
  i.setting ++ ": " ++ i.fault.message

/-- The text that reports some issues together. -/
def report (issues : List Issue) : String :=
  "Invalid configuration: " ++ "; ".intercalate (issues.map Issue.text)

/-- A finite number without a fractional part. -/
def isInteger (x : Float) : Bool :=
  x.isFinite && Binary64.remainder x 1.0 == 0.0

/-- A check of a number: the fault it finds, if any. -/
abbrev Check := Float → Option Fault

/-- The number is an integer. -/
def integer : Check := fun x => if isInteger x then none else some .notInteger

/-- The number is finite. -/
def finite : Check := fun x => if x.isFinite then none else some .notFinite

/-- The number is not below a bound. -/
def atLeast (bound : Nat) : Check := fun x =>
  if x < Float.ofNat bound then some (.below bound) else none

/-- The number is not above a bound. -/
def atMost (bound : Nat) : Check := fun x =>
  if Float.ofNat bound < x then some (.above bound) else none

/-- All faults of a number, in the order of the checks.  An undefined number has only that
fault. -/
def faults (checks : List Check) (x : Float) : List Fault :=
  if x.isNaN then [.notNumber] else checks.filterMap (· x)

/-- A setting that is a number. -/
structure Entry where
  name : String
  variableName : String
  checks : List Check
  default : Float

/-- The TCP port of the console; zero lets the system choose. -/
def tcpPortSetting : Entry :=
  ⟨"port", "FIELD_PORT", [integer, atLeast 0, atMost 65535], 3000.0⟩

/-- The energy budget of the system. -/
def energyBudgetSetting : Entry :=
  ⟨"energyBudget", "FIELD_ENERGY_BUDGET", [finite, atLeast 0], Options.defaultEnergyBudget⟩

/-- The greatest depth of a split. -/
def maxFractalDepthSetting : Entry :=
  ⟨"maxFractalDepth", "FIELD_MAX_FRACTAL_DEPTH", [integer, atLeast 0, atMost 20],
    Options.defaultMaxFractalDepth⟩

/-- The variable that names the host. -/
def hostVariable : String := "FIELD_HOST"

/-- The host when none is given. -/
def defaultHost : String := "0.0.0.0"

/-- The variables of an environment. -/
abbrev Environment := String → Option String

/-- The trimmed text of a variable, if it is set and not blank. -/
def read? (env : Environment) (name : String) : Option String :=
  ((env name).map Text.trim).filter (· ≠ "")

/-- The number a setting takes, before any check. -/
def Entry.value (n : Entry) (env : Environment) : Float :=
  match read? env n.variableName with
  | none => n.default
  | some text => Numeric.read text

/-- The issues of a setting.  A default has none. -/
def Entry.issues (n : Entry) (env : Environment) : List Issue :=
  match read? env n.variableName with
  | none => []
  | some text => (faults n.checks (Numeric.read text)).map (⟨n.name, ·⟩)

/-- The issues of an environment, setting by setting. -/
def issues (env : Environment) : List Issue :=
  tcpPortSetting.issues env ++ energyBudgetSetting.issues env ++ maxFractalDepthSetting.issues env

/-- The settings of an environment, or all that is wrong with it. -/
def load (env : Environment) : Except (List Issue) Settings :=
  match issues env with
  | [] => .ok
    { tcpPort := tcpPortSetting.value env
      host := (read? env hostVariable).getD defaultHost
      energyBudget := energyBudgetSetting.value env
      maxFractalDepth := maxFractalDepthSetting.value env }
  | found => .error found

end Settings

end FieldCalculus
