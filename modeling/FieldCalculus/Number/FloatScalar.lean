import FieldCalculus.Number.Scalar
import FieldCalculus.Number.Notation
/-!
# Binary64 scalars

The arithmetic the program runs with.  The lesser and the greater of two numbers are
undefined as soon as one of them is.
-/

namespace FieldCalculus.Binary64

/-- The lesser of two numbers. -/
def least (x y : Float) : Float :=
  if x.isNaN || y.isNaN then 0.0 / 0.0 else if y < x then y else x

/-- The greater of two numbers. -/
def greatest (x y : Float) : Float :=
  if x.isNaN || y.isNaN then 0.0 / 0.0 else if x < y then y else x

instance : Scalar Float where
  natCast := Float.ofNat
  decLt := inferInstance
  decLe := inferInstance
  tau := 6.283185307179586
  abs := Float.abs
  sqrt := Float.sqrt
  exp := Float.exp
  exp2 := Float.pow 2.0
  least := least
  greatest := greatest
  rem := remainder
  isFinite := Float.isFinite
  units? := units?
  text := Notation.shortest
  fixed := Notation.fixed

end FieldCalculus.Binary64
