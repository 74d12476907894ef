import FieldCalculus.Number.Shortest
/-!
# Notations of binary64 numbers

Two ways to write a number: the shortest one that reads back, and one with a fixed
number of decimal places.  Both write zero without a sign.
-/

namespace FieldCalculus.Notation

open Binary64

/-- Where the decimal point may stand in positional notation. -/
structure Layout where
  /-- The greatest number of digits before the point. -/
  maxWhole : Int
  /-- The greatest number of zeros between the point and the first digit. -/
  maxLeadingZeros : Int

/-- Numbers below `10 ^ 21` and not below `10 ^ -6` are written without an exponent. -/
def layout : Layout := ⟨21, 5⟩

private def zeros (n : Nat) : String :=
  String.ofList (List.replicate n '0')

/-- Exponents carry their sign, also when it is positive. -/
def exponentText (e : Int) : String :=
  if e < 0 then "e-" ++ toString e.natAbs else "e+" ++ toString e.natAbs

/-- Writes the decimal `0.d₁d₂… * 10 ^ point`. -/
def place (digits : List Char) (point : Int) : String :=
  let count : Int := digits.length
  if count ≤ point ∧ point ≤ layout.maxWhole then
    String.ofList digits ++ zeros (point - count).toNat
  else if 0 < point ∧ point ≤ layout.maxWhole then
    String.ofList (digits.take point.toNat) ++ "." ++ String.ofList (digits.drop point.toNat)
  else if -layout.maxLeadingZeros ≤ point ∧ point ≤ 0 then
    "0." ++ zeros (-point).toNat ++ String.ofList digits
  else
    match digits with
    | [] => "0"
    | [d] => String.ofList [d] ++ exponentText (point - 1)
    | d :: rest => String.ofList (d :: '.' :: rest) ++ exponentText (point - 1)

/-- The text of a positive finite number. -/
def positive (mantissa : Nat) (exponent : Int) : String :=
  let d := Shortest.ofParts mantissa exponent
  let digits := Nat.toDigits 10 d.digits
  place digits (digits.length + d.exponent)

/-- The shortest text that reads back as the number. -/
def shortest (x : Float) : String :=
  match parts x with
  | .undefined => "NaN"
  | .infinite negative => if negative then "-Infinity" else "Infinity"
  | .finite negative m e =>
    if m = 0 then "0"
    else if negative then "-" ++ positive m e else positive m e

/-- The nearest whole number to `mantissa * 2 ^ exponent * 10 ^ places`; a half goes up. -/
def nearestUnits (places mantissa : Nat) (exponent : Int) : Nat :=
  let num := mantissa * tenTo places * twoTo exponent.toNat
  let den := twoTo (-exponent).toNat
  (2 * num + den) / (2 * den)

/-- Writes `units` of size `10 ^ -places`, with at least one digit before the point. -/
def fixedUnits (places units : Nat) : String :=
  let digits := Nat.toDigits 10 units
  let padded := List.replicate (places + 1 - digits.length) '0' ++ digits
  let whole := padded.length - places
  if places = 0 then String.ofList padded
  else String.ofList (padded.take whole) ++ "." ++ String.ofList (padded.drop whole)

/-- Whether `mantissa * 2 ^ exponent` has more digits before the point than positional
notation allows. -/
def isHuge (mantissa : Nat) (exponent : Int) : Bool :=
  tenTo layout.maxWhole.toNat * twoTo (-exponent).toNat ≤ mantissa * twoTo exponent.toNat

/-- The number rounded to `places` decimals.  A half goes to the larger magnitude, and a
negative number that rounds to zero keeps its sign.  Huge numbers are written in their
shortest notation. -/
def fixed (places : Nat) (x : Float) : String :=
  match parts x with
  | .finite negative m e =>
    if isHuge m e then shortest x
    else
      let body := fixedUnits places (nearestUnits places m e)
      if negative && m ≠ 0 then "-" ++ body else body
  | _ => shortest x

end FieldCalculus.Notation
