import FieldCalculus.Space
/-!
# Energy states

The physical state of a field: its total energy, how that splits, its entropy, its
coherence and the phase angle of its oscillation.
-/

namespace FieldCalculus

/-- The physical state of a field. -/
structure Energy (α : Type) where
  total : α
  kinetic : α
  potential : α
  entropy : α
  coherence : α
  angle : α
  deriving Repr, BEq

namespace Energy

variable {α : Type} [Scalar α]

/-- Two totals closer than this count as equal. -/
def conservationTolerance : α := 1e-10

/-- Two angles closer than this count as locked. -/
def lockTolerance : α := 0.1

/-- The state with nothing in it. -/
def zero : Energy α := ⟨0.0, 0.0, 0.0, 0.0, 0.0, 0.0⟩

/-- The joint state of two fields.  Amounts add, coherence is averaged because the pair
shares one state, and the angles add on the circle. -/
def combine (a b : Energy α) : Energy α where
  total := a.total + b.total
  kinetic := a.kinetic + b.kinetic
  potential := a.potential + b.potential
  entropy := a.entropy + b.entropy
  coherence := (a.coherence + b.coherence) / 2.0
  angle := wrapAngle (a.angle + b.angle)

/-- The state with its energies multiplied by a factor. -/
def scaled (e : Energy α) (factor : α) : Energy α :=
  { e with
    total := e.total * factor
    kinetic := e.kinetic * factor
    potential := e.potential * factor }

/-- The state after `amount` of energy has left it, six tenths of it kinetic. -/
def drained (e : Energy α) (amount : α) : Energy α :=
  { e with
    total := e.total - amount
    kinetic := e.kinetic - amount * 0.6
    potential := e.potential - amount * 0.4 }

/-- The totals differ by less than the tolerance. -/
def conservedWith (a b : Energy α) (tolerance : α := conservationTolerance) : Bool :=
  decide (Scalar.abs (a.total - b.total) < tolerance)

/-- The later state has not lost entropy, up to the tolerance. -/
def entropyIncreased (earlier later : Energy α) : Bool :=
  decide (earlier.entropy - conservationTolerance ≤ later.entropy)

/-- The angles are closer than the tolerance, directly or across the full turn. -/
def inPhaseWith (a b : Energy α) (tolerance : α := lockTolerance) : Bool :=
  let difference := Scalar.abs (a.angle - b.angle)
  decide (difference < tolerance) ||
    decide (Scalar.abs (difference - Scalar.tau) < tolerance)

/-- The sum of the totals of some states. -/
def totalOf (states : List (Energy α)) : α :=
  Scalar.sum (states.map Energy.total)

/-- Every state of the first list has a later one at its place in the second, and that one
has not lost entropy. -/
def entropyNonDecreasing : List (Energy α) → List (Energy α) → Bool
  | [], _ => true
  | _ :: _, [] => false
  | earlier :: before, later :: after =>
    earlier.entropyIncreased later && entropyNonDecreasing before after

end Energy

/-- An energy allowance and what has been used of it. -/
structure Budget (α : Type) where
  limit : α
  consumed : α

namespace Budget

variable {α : Type} [Scalar α]

/-- A budget of which nothing has been used. -/
def full (limit : α) : Budget α := ⟨limit, 0.0⟩

/-- What is left of a budget. -/
def remaining (b : Budget α) : α := b.limit - b.consumed

end Budget

end FieldCalculus
