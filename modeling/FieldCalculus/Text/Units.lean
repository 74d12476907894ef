/-!
# Code units

Texts given by units of sixteen bits.  A character beyond the first 65536 takes two units,
a high surrogate and a low one behind it.
-/

namespace FieldCalculus.Text

/-- How many units write a text. -/
def unitCount (text : List Char) : Nat :=
  text.length + text.countP (0x10000 ≤ ·.toNat)

/-- The character of a unit that stands alone, unless it is a surrogate. -/
def unitChar? (unit : Nat) : Option Char :=
  if 0xD800 ≤ unit ∧ unit < 0xE000 then none else some (Char.ofNat unit)

/-- The characters that units write, after those in `done`, which are in reverse.  Units with
a surrogate that has no partner write no text. -/
def joinUnits? (done : List Char) : List Nat → Option (List Char)
  | high :: low :: rest =>
    if 0xD800 ≤ high ∧ high < 0xDC00 ∧ 0xDC00 ≤ low ∧ low < 0xE000 then
      joinUnits? (Char.ofNat (0x10000 + (high - 0xD800) * 0x400 + (low - 0xDC00)) :: done) rest
    else (unitChar? high).bind fun c => joinUnits? (c :: done) (low :: rest)
  | [unit] => (unitChar? unit).map fun c => (c :: done).reverse
  | [] => some done.reverse

/-- The text that units write. -/
def ofUnits? (units : List Nat) : Option String :=
  (joinUnits? [] units).map String.ofList

end FieldCalculus.Text
