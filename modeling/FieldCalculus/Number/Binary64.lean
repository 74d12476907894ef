import FieldCalculus.Number.Power
/-!
# Binary64 numbers as scaled integers

A finite binary64 number is a signed integer times a power of two.  Working on that
form gives the exact remainder and the whole part without rounding, and it is the
starting point of both decimal notations.
-/

namespace FieldCalculus.Binary64

/-- What a binary64 number stands for. -/
inductive Parts
  | undefined
  | infinite (negative : Bool)
  /-- The value is `mantissa * 2 ^ exponent`, with the given sign. -/
  | finite (negative : Bool) (mantissa : Nat) (exponent : Int)
  deriving Repr, DecidableEq

/-- Exponent of the last place of the smallest numbers. -/
def minExponent : Int := -1074

/-- Splits a number into sign, integer mantissa and binary exponent. -/
def parts (x : Float) : Parts :=
  let bits := x.toBits.toNat
  let negative := decide (twoTo 63 ≤ bits)
  let biased : Nat := bits / twoTo 52 % twoTo 11
  let fraction : Nat := bits % twoTo 52
  if biased = 2047 then
    if fraction = 0 then .infinite negative else .undefined
  else if biased = 0 then .finite negative fraction minExponent
  else .finite negative (fraction + twoTo 52) ((biased : Int) - 1075)

/-- The number `mantissa * 2 ^ exponent` for a mantissa below `2 ^ 53` and an exponent not
below `minExponent`, which needs no rounding. -/
def ofParts (negative : Bool) (mantissa : Nat) (exponent : Int) : Float :=
  let room := (exponent - minExponent).toNat
  let shift := min room (52 - mantissa.log2)
  let scaled := mantissa * twoTo shift
  let biased := if scaled < twoTo 52 then 0 else (exponent - shift + 1075).toNat
  let sign := if negative then twoTo 63 else 0
  Float.ofBits (.ofNat (sign + biased * twoTo 52 + scaled % twoTo 52))

/-- Remainder of the division that rounds toward zero, computed exactly.  It has the sign of
the dividend and is undefined for an infinite dividend or a zero divisor. -/
def remainder (x y : Float) : Float :=
  match parts x, parts y with
  | .finite negative m e, .finite _ n k =>
    if n = 0 then 0.0 / 0.0
    else
      let low := min e k
      let dividend := m * twoTo (e - low).toNat
      let divisor := n * twoTo (k - low).toNat
      ofParts negative (dividend % divisor) low
  | .finite .., .infinite _ => x
  | _, _ => 0.0 / 0.0

/-- The whole units in a number: its integer part when that is positive, else zero.  An
infinite number has no last unit. -/
def units? (x : Float) : Option Nat :=
  match parts x with
  | .undefined => some 0
  | .infinite negative => if negative then some 0 else none
  | .finite true _ _ => some 0
  | .finite false m e => some (if 0 ≤ e then m * twoTo e.toNat else m / twoTo (-e).toNat)

end FieldCalculus.Binary64
