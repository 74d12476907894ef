/-!
# Scalars

The quantities of a field (energies, angles, positions, ages) are scalars.  The
calculus is written once over this interface, so the same definitions run on
binary64 numbers and can be read in exact arithmetic.  Constants are written as
decimals and reach a scalar type through its `OfScientific` instance.
-/

namespace FieldCalculus

/-- The arithmetic that fields, operations and reports compute with. -/
class Scalar (α : Type) extends Add α, Sub α, Mul α, Div α, Neg α, OfScientific α,
    NatCast α, LT α, LE α, BEq α where
  decLt : DecidableLT α
  decLe : DecidableLE α
  /-- One full turn. -/
  tau : α
  /-- Magnitude. -/
  abs : α → α
  /-- Square root. -/
  sqrt : α → α
  /-- Natural exponential. -/
  exp : α → α
  /-- Two to the given power. -/
  exp2 : α → α
  /-- The lesser of two scalars. -/
  least : α → α → α
  /-- The greater of two scalars. -/
  greatest : α → α → α
  /-- Remainder of a division that rounds toward zero. -/
  rem : α → α → α
  /-- Neither infinite nor undefined. -/
  isFinite : α → Bool
  /-- The whole units in a scalar, none of them when it is negative or undefined;
  `none` when it is infinite. -/
  units? : α → Option Nat
  /-- The scalar in its shortest notation. -/
  text : α → String
  /-- The scalar with a fixed number of decimal places. -/
  fixed : Nat → α → String

attribute [reducible, instance] Scalar.decLt Scalar.decLe

namespace Scalar

variable {α : Type} [Scalar α]

/-- A repetition count `n` runs the rounds `0, 1, …` that lie below `n`.  An infinite count
has no finite run, so it stands for none. -/
def rounds (n : α) : Nat :=
  match units? n with
  | none => 0
  | some whole => if (whole : α) < n then whole + 1 else whole

/-- The sum of a list, taken from the left. -/
def sum (values : List α) : α :=
  values.foldl (· + ·) 0.0

/-- The arithmetic mean of a list, zero for an empty one. -/
def mean (values : List α) : α :=
  if values.isEmpty then 0.0 else sum values / (values.length : α)

end Scalar

end FieldCalculus
