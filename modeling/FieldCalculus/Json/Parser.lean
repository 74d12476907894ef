import FieldCalculus.Json.Basic
import FieldCalculus.Number.Numeric
import FieldCalculus.Text.Units
/-!
# Reading JSON

A parser for the strict grammar: no comments, no trailing commas, no leading zeros, no
bare controls inside strings.  Strings are texts of whole characters, so an escape of half a
character must have its other half behind it.  A nested value costs one unit of fuel, and the
length of the text is fuel enough.
-/

namespace FieldCalculus.Json

/-- What follows the spaces that may stand between tokens. -/
def skipSpace (text : List Char) : List Char :=
  text.dropWhile fun c => c = ' ' || c = '\t' || c = '\n' || c = '\r'

/-- The code unit that four hexadecimal digits write. -/
def hexUnit? (a b c d : Char) : Option Nat :=
  Numeric.inBase? 16 [a, b, c, d]

/-- The code units of a string up to its closing quote, and what follows that.  Characters
outside escapes count as one unit; `done` holds the units read so far in reverse. -/
def stringUnits (done : List Nat) : List Char → Option (List Nat × List Char)
  | '"' :: rest => some (done.reverse, rest)
  | '\\' :: 'u' :: a :: b :: c :: d :: rest =>
    match hexUnit? a b c d with
    | some unit => stringUnits (unit :: done) rest
    | none => none
  | '\\' :: '"' :: rest => stringUnits (0x22 :: done) rest
  | '\\' :: '\\' :: rest => stringUnits (0x5C :: done) rest
  | '\\' :: '/' :: rest => stringUnits (0x2F :: done) rest
  | '\\' :: 'b' :: rest => stringUnits (0x08 :: done) rest
  | '\\' :: 'f' :: rest => stringUnits (0x0C :: done) rest
  | '\\' :: 'n' :: rest => stringUnits (0x0A :: done) rest
  | '\\' :: 'r' :: rest => stringUnits (0x0D :: done) rest
  | '\\' :: 't' :: rest => stringUnits (0x09 :: done) rest
  | '\\' :: _ => none
  | c :: rest => if c.toNat < 0x20 then none else stringUnits (c.toNat :: done) rest
  | [] => none

/-- A string after its opening quote. -/
def stringBody? (text : List Char) : Option (String × List Char) :=
  (stringUnits [] text).bind fun (units, rest) => (Text.ofUnits? units).map (·, rest)

/-- The digits before the point: a single zero, or a run that does not begin with one. -/
def wholePart? (text : List Char) : Option (List Char × List Char) :=
  match text with
  | '0' :: rest => some (['0'], rest)
  | _ => Numeral.digitRun? text

/-- The digits after a point, if there is one. -/
def fraction? (text : List Char) : Option (List Char × List Char) :=
  match text with
  | '.' :: rest => Numeral.digitRun? rest
  | _ => some ([], text)

/-- The exponent, zero if there is none. -/
def exponent? (text : List Char) : Option (Int × List Char) :=
  match text with
  | c :: rest =>
    if c = 'e' ∨ c = 'E' then
      let (negative, digits) := Numeric.sign rest
      (Numeral.digitRun? digits).map fun (run, rest) =>
        (if negative then -(Numeral.ofDigits run : Int) else Numeral.ofDigits run, rest)
    else some (0, text)
  | [] => some (0, [])

/-- A number at the front of a text. -/
def number? (text : List Char) : Option (Float × List Char) := do
  let (negative, rest) :=
    match text with
    | '-' :: rest => (true, rest)
    | _ => (false, text)
  let (whole, rest) ← wholePart? rest
  let (fraction, rest) ← fraction? rest
  let (exponent, rest) ← exponent? rest
  return (Numeric.scaled negative (Numeral.ofDigits (whole ++ fraction))
    (exponent - fraction.length), rest)

mutual

/-- A value at the front of a text, and what follows it. -/
def value? : Nat → List Char → Option (Json × List Char)
  | 0, _ => none
  | fuel + 1, text =>
    match skipSpace text with
    | 'n' :: 'u' :: 'l' :: 'l' :: rest => some (null, rest)
    | 't' :: 'r' :: 'u' :: 'e' :: rest => some (bool true, rest)
    | 'f' :: 'a' :: 'l' :: 's' :: 'e' :: rest => some (bool false, rest)
    | '"' :: rest => (stringBody? rest).map fun (s, rest) => (string s, rest)
    | '[' :: rest =>
      match skipSpace rest with
      | ']' :: rest => some (array [], rest)
      | rest => (items? fuel [] rest).map fun (items, rest) => (array items, rest)
    | '\x7b' :: rest =>
      match skipSpace rest with
      | '\x7d' :: rest => some (object [], rest)
      | rest => (members? fuel [] rest).map fun (members, rest) => (object members, rest)
    | rest => (number? rest).map fun (x, rest) => (number x, rest)

/-- The items of an array up to its closing bracket; `done` holds those already read in
reverse. -/
def items? : Nat → List Json → List Char → Option (List Json × List Char)
  | 0, _, _ => none
  | fuel + 1, done, text =>
    match value? fuel text with
    | none => none
    | some (item, rest) =>
      match skipSpace rest with
      | ',' :: rest => items? fuel (item :: done) rest
      | ']' :: rest => some ((item :: done).reverse, rest)
      | _ => none

/-- The members of an object up to its closing brace; `done` holds those already read in
reverse. -/
def members? : Nat → List (String × Json) → List Char →
    Option (List (String × Json) × List Char)
  | 0, _, _ => none
  | fuel + 1, done, text =>
    match skipSpace text with
    | '"' :: rest =>
      match stringBody? rest with
      | none => none
      | some (key, rest) =>
        match skipSpace rest with
        | ':' :: rest =>
          match value? fuel rest with
          | none => none
          | some (value, rest) =>
            match skipSpace rest with
            | ',' :: rest => members? fuel ((key, value) :: done) rest
            | '\x7d' :: rest => some (((key, value) :: done).reverse, rest)
            | _ => none
        | _ => none
    | _ => none

end

/-- Reads a whole text as one value. -/
def parse? (text : String) : Option Json :=
  let cs := text.toList
  match value? (cs.length + 1) cs with
  | some (value, rest) => if (skipSpace rest).isEmpty then some value else none
  | none => none

end FieldCalculus.Json
