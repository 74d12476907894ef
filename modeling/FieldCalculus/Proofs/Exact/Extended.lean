import FieldCalculus.Proofs.Exact
/-!
# Exact arithmetic with infinite and undefined numbers

Exact scalars together with two infinite numbers and an undefined one.  Finite numbers
compute exactly, and everything else follows the rules of binary floating point: opposite
infinite numbers have no sum, zero times an infinite number and zero by zero are undefined,
and an undefined operand makes the result undefined and every comparison false.  There is
one zero, and a positive number divided by it is positive infinite.
-/

namespace FieldCalculus

/-- Exact scalars, infinite numbers and the undefined number. -/
inductive Extended (α : Type)
  | finite (x : α)
  | infinite (negative : Bool)
  | undefined

namespace Extended

variable {α : Type} [ExactScalar α]

/-- The sign of a number: zero and the undefined number have none. -/
def isNegative : Extended α → Bool
  | finite x => decide (x < 0)
  | infinite negative => negative
  | undefined => false

def isZero : Extended α → Bool
  | finite x => decide (x = 0)
  | _ => false

def neg : Extended α → Extended α
  | finite x => finite (-x)
  | infinite negative => infinite (!negative)
  | undefined => undefined

def add : Extended α → Extended α → Extended α
  | finite x, finite y => finite (x + y)
  | infinite s, infinite t => if s = t then infinite s else undefined
  | infinite s, finite _ | finite _, infinite s => infinite s
  | undefined, _ | _, undefined => undefined

/-- An infinite result with the sign of a product or a quotient. -/
def infiniteOf (x y : Extended α) : Extended α :=
  infinite (x.isNegative != y.isNegative)

def mul : Extended α → Extended α → Extended α
  | finite x, finite y => finite (x * y)
  | undefined, _ | _, undefined => undefined
  | x, y => if x.isZero || y.isZero then undefined else infiniteOf x y

def div : Extended α → Extended α → Extended α
  | finite x, finite y =>
    if y ≠ 0 then finite (x / y) else if x = 0 then undefined else infinite (decide (x < 0))
  | undefined, _ | _, undefined => undefined
  | infinite _, infinite _ => undefined
  | finite _, infinite _ => finite 0
  | x, y => infiniteOf x y

def less : Extended α → Extended α → Bool
  | finite x, finite y => decide (x < y)
  | infinite s, infinite t => s && !t
  | infinite negative, finite _ => negative
  | finite _, infinite negative => !negative
  | undefined, _ | _, undefined => false

def equal : Extended α → Extended α → Bool
  | finite x, finite y => decide (x = y)
  | infinite s, infinite t => s == t
  | _, _ => false

def least : Extended α → Extended α → Extended α
  | undefined, _ | _, undefined => undefined
  | x, y => if less y x then y else x

def greatest : Extended α → Extended α → Extended α
  | undefined, _ | _, undefined => undefined
  | x, y => if less x y then y else x

def abs : Extended α → Extended α
  | finite x => finite (Scalar.abs x)
  | infinite _ => infinite false
  | undefined => undefined

def sqrt : Extended α → Extended α
  | finite x => if x < 0 then undefined else finite (Scalar.sqrt x)
  | infinite false => infinite false
  | infinite true | undefined => undefined

/-- An exponential function with this value on finite numbers. -/
def power (onFinite : α → α) : Extended α → Extended α
  | finite x => finite (onFinite x)
  | infinite negative => if negative then finite 0 else infinite false
  | undefined => undefined

def rem : Extended α → Extended α → Extended α
  | finite x, finite y => if y = 0 then undefined else finite (Scalar.rem x y)
  | finite x, infinite _ => finite x
  | _, _ => undefined

def isFinite : Extended α → Bool
  | finite _ => true
  | _ => false

def units? : Extended α → Option Nat
  | finite x => Scalar.units? x
  | infinite negative => if negative then some 0 else none
  | undefined => some 0

/-- The text of a number, with this text on finite numbers. -/
def textOf (onFinite : α → String) : Extended α → String
  | finite x => onFinite x
  | infinite negative => if negative then "-Infinity" else "Infinity"
  | undefined => "NaN"

instance : Scalar (Extended α) where
  add := add
  sub x y := add x (neg y)
  mul := mul
  div := div
  neg := neg
  ofScientific digits divided places := finite (OfScientific.ofScientific digits divided places)
  natCast n := finite n
  lt x y := less x y = true
  le x y := less x y = true ∨ equal x y = true
  beq := equal
  decLt x y := inferInstanceAs (Decidable (less x y = true))
  decLe x y := inferInstanceAs (Decidable (less x y = true ∨ equal x y = true))
  tau := finite Scalar.tau
  abs := abs
  sqrt := sqrt
  exp := power Scalar.exp
  exp2 := power Scalar.exp2
  least := least
  greatest := greatest
  rem := rem
  isFinite := isFinite
  units? := units?
  text := textOf Scalar.text
  fixed places := textOf (Scalar.fixed places)

theorem isFinite_of_add {x y : Extended α} (h : Scalar.isFinite (x + y) = true) :
    Scalar.isFinite x = true ∧ Scalar.isFinite y = true := by
  change (add x y).isFinite = true at h
  cases x with
  | finite x =>
      cases y with
      | finite y => exact ⟨rfl, rfl⟩
      | _ => cases h
  | infinite s =>
      cases y with
      | infinite t =>
          rw [add] at h
          split at h <;> cases h
      | _ => cases h
  | undefined => cases h

end Extended

end FieldCalculus
