import FieldCalculus.Grammar.Pattern
import FieldCalculus.Number.Numeral
import FieldCalculus.Operation
import FieldCalculus.Text.Blank
import FieldCalculus.Text.Word
/-!
# The rules of the grammar

One rule for each form of line.  A rule matches its pattern at the start of a trimmed line,
ignores what follows, and builds an operation from what the groups of the pattern have
captured.
-/

namespace FieldCalculus

open Pattern Text

/-! ## What groups capture -/

/-- The name that a piece of text gives: the piece without the blanks around it. -/
def nameOf (piece : List Char) : String :=
  String.ofList (trimmed piece)

/-- The names of a list, between the occurrences of an operator. -/
def splitNames (operator : Char) (list : List Char) : List String :=
  (parts operator list).map nameOf

namespace Match

/-- What a group has captured, and nothing if it took no part.  Groups are counted from zero. -/
def text (m : Match) (group : Nat) : List Char :=
  m[group]?.join.getD []

/-- The name that a group has captured. -/
def name (m : Match) (group : Nat) : String :=
  nameOf (m.text group)

/-- The number that a group has captured. -/
def number {α : Type} [OfScientific α] (m : Match) (group : Nat) : α :=
  (Numeral.ofText (trimmed (m.text group))).value

end Match

/-! ## Pieces of patterns -/

namespace Pattern

/-- Some blanks, or none. -/
def blanks : Pattern := run isBlank 0

/-- An operand: a captured piece that does not hold a character. -/
def operand (stop : Char) : Pattern := group (run (· ≠ stop) 1)

/-- Decimal digits. -/
def digits : Pattern := run Char.isDigit 1

/-- Decimal digits, with a point and more digits behind them or without. -/
def decimal : Pattern := digits ++ maybe (literal "." ++ digits)

/-- The rest of a line. -/
def lineRun : Pattern := run (!isLineEnd ·) 1

/-- The bracketed list of an interaction, captured, and the constraints behind it. -/
def constrained : Pattern :=
  maybe (literal "F") ++ literal "(" ++ operand ')' ++ literal ")|" ++ group lineRun

end Pattern

/-- A rule of the grammar.  It declines a match of its pattern of which it builds nothing. -/
structure Rule (α : Type) where
  id : String
  pattern : Pattern
  build : Match → Option (Operation α)

namespace Rule

variable {α : Type}

/-- The operation that a rule recognises at the start of a text. -/
def recognize (rule : Rule α) (text : List Char) : Option (Operation α) :=
  (rule.pattern.exec text).bind rule.build

/-- A rule for two operands behind a fixed beginning, with a comma between them and a closing
bracket behind them. -/
def pair (id beginning : String) (make : String → String → Operation α) : Rule α where
  id := id
  pattern := literal beginning ++ operand ',' ++ literal "," ++ blanks ++ operand ')' ++ literal ")"
  build m := some (make (m.name 0) (m.name 1))

/-- The form `⊗(a, b)`. -/
def entangle : Rule α := pair "ENTANGLE" "⊗(" .entangle

/-- The form `~(a ≈ b)`. -/
def resonance : Rule α where
  id := "RESONANCE"
  pattern := literal "~(" ++ operand '≈' ++ blanks ++ literal "≈" ++ blanks ++ operand ')' ++
    literal ")"
  build m := some (.resonance (m.name 0) (m.name 1))

/-- The form `∂phase(a, gas)`. -/
def phase : Rule α := pair "PHASE" "∂phase(" .phaseTransition

/-- The form `∇spatial(a, b)`. -/
def spatial : Rule α := pair "SPATIAL" "∇spatial(" .spatialFlow

/-- The form `∇∇(a⇄b)`. -/
def symbiosis : Rule α where
  id := "SYMBIOSIS"
  pattern := literal "∇∇(" ++ operand '⇄' ++ literal "⇄" ++ operand ')' ++ literal ")"
  build m := some (.symbiosis (m.name 0) (m.name 1))

variable [OfScientific α]

/-- The form `∮^3(a, 2)`. -/
def fractal : Rule α where
  id := "FRACTAL"
  pattern := literal "∮^" ++ group digits ++ literal "(" ++ operand ',' ++ literal "," ++ blanks ++
    group digits ++ literal ")"
  build m := some (.fractalSpawn (m.name 1) (m.number 0) (m.number 2))

/-- The form `∇³F(a↔b↔c)|constraints`. -/
def network : Rule α where
  id := "NETWORK"
  pattern := literal "∇³" ++ constrained
  build m := some (.network (splitNames '↔' (trimmed (m.text 0))) (String.ofList (m.text 1)))

/-- The form `∮regenerate(a, 20)`. -/
def regenerate : Rule α where
  id := "REGENERATE"
  pattern := literal "∮regenerate(" ++ operand ',' ++ literal "," ++ blanks ++ group decimal ++
    literal ")"
  build m := some (.regenerate (m.name 0) (m.number 1))

/-- The rate of a decay when the line gives none. -/
def defaultRate : α := 0.05

/-- The forms `∂decay(a)` and `∂decay(a, 0.1)`. -/
def decay : Rule α where
  id := "DECAY"
  pattern := literal "∂decay(" ++ operand ',' ++
    maybe (literal "," ++ blanks ++ group decimal) ++ literal ")"
  build m :=
    let rate := match m[1]?.join with
      | some rate => (Numeral.ofText rate).value
      | none => defaultRate
    some (.decay (m.name 0) rate)

/-- The form `∇F(a↔b)|constraints`, or with `→` for a flow in one direction.  A list without
either operator is declined. -/
def interaction : Rule α where
  id := "INTERACTION"
  pattern := literal "∇" ++ maybe (literal "²") ++ constrained
  build m :=
    let body := m.text 0
    let constraints := String.ofList (m.text 1)
    if '↔' ∈ body then some (.interaction (splitNames '↔' body) constraints)
    else if '→' ∈ body then some (.unidirectionalFlow (splitNames '→' body) constraints)
    else none

/-- The form `plant = 100`. -/
def creation : Rule α where
  id := "CREATE"
  pattern := group (run isWordChar 1) ++ blanks ++ literal "=" ++ blanks ++ group decimal
  build m := some (.creation (m.name 0) (m.number 1))

omit [OfScientific α] in
/-- A rule that matches every nonempty line without line ends, and declines it. -/
def declining (id : String) : Rule α where
  id := id
  pattern := lineRun ++ ending
  build _ := none

omit [OfScientific α] in
/-- A rule that makes the same operation of every nonempty line without line ends. -/
def catching (id : String) (operation : Operation α) : Rule α where
  id := id
  pattern := lineRun ++ ending
  build _ := some operation

/-- The grammar: the rules in the order in which they are tried. -/
def all : List (Rule α) :=
  [entangle, resonance, phase, fractal, spatial, network, regenerate, decay, symbiosis,
   interaction, creation]

end Rule

/-- The operation that a line asks for: what the first rule that recognises the trimmed line
makes of it.  A line that no rule recognises is handed back as it is. -/
def recognize {α : Type} [OfScientific α] (line : String) (rules : List (Rule α) := Rule.all) :
    Operation α :=
  let text := Text.trimmed line.toList
  (rules.findSome? (·.recognize text)).getD (.unknown (String.ofList text))

end FieldCalculus
