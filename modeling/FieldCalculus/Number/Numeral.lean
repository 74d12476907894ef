/-!
# Numerals

Decimal numerals as they stand at the front of a text, and their values.  A numeral
keeps every digit it was written with; rounding happens once, when it becomes a scalar.
-/

namespace FieldCalculus

/-- The decimal numeral `digits * 10 ^ -places`. -/
structure Numeral where
  digits : Nat
  places : Nat
  deriving Repr, DecidableEq

namespace Numeral

/-- The value of one decimal digit. -/
def digitValue (c : Char) : Nat :=
  c.toNat - '0'.toNat

/-- The number that a run of decimal digits writes. -/
def ofDigits (digits : List Char) : Nat :=
  digits.foldl (fun n c => 10 * n + digitValue c) 0

/-- The digits at the front of a text and what follows them; `none` if there are none. -/
def digitRun? (text : List Char) : Option (List Char × List Char) :=
  match text.takeWhile Char.isDigit with
  | [] => none
  | digits => some (digits, text.dropWhile Char.isDigit)

/-- The numeral that a text begins with: its digits, with a point and more digits behind them or
without. -/
def ofText (text : List Char) : Numeral :=
  let whole := text.takeWhile Char.isDigit
  match text.dropWhile Char.isDigit with
  | '.' :: behind =>
    let fraction := behind.takeWhile Char.isDigit
    ⟨ofDigits (whole ++ fraction), fraction.length⟩
  | _ => ⟨ofDigits whole, 0⟩

/-- The scalar that a numeral names. -/
def value {α : Type} [OfScientific α] (n : Numeral) : α :=
  OfScientific.ofScientific n.digits true n.places

end Numeral

end FieldCalculus
