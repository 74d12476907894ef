import FieldCalculus.Number.Binary64
/-!
# Shortest decimals

Every binary64 number is the nearest one to an interval of reals.  Its shortest decimal
is the point of that interval with the fewest digits, and of those the nearest to the
number.  On the grid of `n` significant digits only the two neighbours of the number
need a test: if any grid point lies in the interval, one of them does.
-/

namespace FieldCalculus.Shortest

open Binary64

/-- The positive decimal `digits * 10 ^ exponent`. -/
structure Decimal where
  digits : Nat
  exponent : Int
  deriving Repr, DecidableEq

/-- How many decimal digits a positive natural number is written with.  A bit is worth a
little more than 1233/4096 of a digit, so `low` is the count less one or less two. -/
def digitCount (n : Nat) : Nat :=
  let low := n.log2 * 1233 / 4096
  if n < tenTo (low + 1) then low + 1 else low + 2

/-- The position of the decimal point: the least `p` for which the number is below `10 ^ p`.
The factor `10 ^ 342` makes every positive number a whole one without losing its first digit. -/
def pointPosition (mantissa : Nat) (exponent : Int) : Int :=
  let scaled := mantissa * tenTo 342
  let whole :=
    if 0 ≤ exponent then scaled * twoTo exponent.toNat else scaled / twoTo (-exponent).toNat
  digitCount whole - 342

/-- Removes the zeros at the end of a digit string; `fuel` bounds their number. -/
def dropTrailingZeros : Nat → Decimal → Decimal
  | 0, d => d
  | fuel + 1, d =>
    if d.digits ≠ 0 ∧ d.digits % 10 = 0 then
      dropTrailingZeros fuel ⟨d.digits / 10, d.exponent + 1⟩
    else d

/-- Scaled to quarters of the last place: the number, the ends of its interval, and whether
the ends belong to it.  Below a power of two the numbers are twice as dense. -/
structure Interval where
  value : Nat
  low : Nat
  high : Nat
  closed : Bool

/-- The reals that round to `mantissa * 2 ^ exponent`, in units of `2 ^ (exponent - 2)`. -/
def interval (mantissa : Nat) (exponent : Int) : Interval where
  value := 4 * mantissa
  low := 4 * mantissa - (if mantissa = twoTo 52 ∧ minExponent < exponent then 1 else 2)
  high := 4 * mantissa + 2
  closed := mantissa % 2 = 0

/-- The nearest of the two neighbours on the grid of `10 ^ gridExponent` that lie in the
interval.  Of two equally near ones the even one is taken. -/
def onGrid? (i : Interval) (exponent : Int) (gridExponent : Int) : Option Decimal :=
  let unit := exponent - 2
  let scale := twoTo unit.toNat * tenTo (-gridExponent).toNat
  let step := twoTo (-unit).toNat * tenTo gridExponent.toNat
  let value := i.value * scale
  let inside (point : Nat) : Bool :=
    if i.closed then i.low * scale ≤ point && point ≤ i.high * scale
    else i.low * scale < point && point < i.high * scale
  let below := value / step
  let above := below + 1
  let belowInside := inside (below * step)
  let aboveInside := inside (above * step)
  let belowGap := value - below * step
  let aboveGap := above * step - value
  let belowNearer := belowGap < aboveGap || (belowGap = aboveGap && below % 2 = 0)
  if belowInside && (!aboveInside || belowNearer) then some ⟨below, gridExponent⟩
  else if aboveInside then some ⟨above, gridExponent⟩
  else none

/-- The shortest decimal of the positive number `mantissa * 2 ^ exponent`.  Seventeen digits
always suffice. -/
def ofParts (mantissa : Nat) (exponent : Int) : Decimal :=
  let point := pointPosition mantissa exponent
  let i := interval mantissa exponent
  let found := (List.range 17).findSome? fun (n : Nat) => onGrid? i exponent (point - (n + 1))
  dropTrailingZeros 17 (found.getD ⟨0, 0⟩)

end FieldCalculus.Shortest
