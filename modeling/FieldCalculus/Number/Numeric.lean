import FieldCalculus.Number.Numeral
import FieldCalculus.Text.Blank
/-!
# Numeric text

Reading a whole text as a binary64 number, as a setting or a query parameter gives it.
Accepted are decimals with an optional sign and exponent, a signed `Infinity`, and
unsigned whole numbers in base 16, 8 and 2.  A blank text is zero and any other text
is undefined.
-/

namespace FieldCalculus.Numeric

open Numeral

/-- The number nearest to `digits * 10 ^ exponent`.  An exponent that puts the value beyond
every finite number, or below half of the smallest one, needs no power of ten. -/
def scaled (negative : Bool) (digits : Nat) (exponent : Int) : Float :=
  let size : Int := (Nat.toDigits 10 digits).length + exponent
  let magnitude : Float :=
    if digits = 0 ∨ size < -400 then 0.0
    else if 400 < size then 1.0 / 0.0
    else OfScientific.ofScientific digits (decide (exponent < 0)) exponent.natAbs
  if negative then -magnitude else magnitude

/-- A sign at the front of a text. -/
def sign (text : List Char) : Bool × List Char :=
  match text with
  | '-' :: rest => (true, rest)
  | '+' :: rest => (false, rest)
  | _ => (false, text)

/-- An exponent that fills the text. -/
def exponent? (text : List Char) : Option Int :=
  match text with
  | [] => some 0
  | c :: rest =>
    if c = 'e' ∨ c = 'E' then
      let (negative, digits) := sign rest
      match digitRun? digits with
      | some (run, []) => some (if negative then -(ofDigits run : Int) else ofDigits run)
      | _ => none
    else none

/-- A decimal that fills the text, without its sign: digits on at least one side of the
point, then an exponent. -/
def decimal? (text : List Char) : Option (Nat × Int) :=
  let whole := text.takeWhile Char.isDigit
  let rest := text.dropWhile Char.isDigit
  let (fraction, rest) :=
    match rest with
    | '.' :: afterPoint => (afterPoint.takeWhile Char.isDigit, afterPoint.dropWhile Char.isDigit)
    | _ => ([], rest)
  if whole.isEmpty && fraction.isEmpty then none
  else (exponent? rest).map fun e => (ofDigits (whole ++ fraction), e - fraction.length)

/-- The value of a digit in bases up to sixteen. -/
def digit? (c : Char) : Option Nat :=
  if c.isDigit then some (c.toNat - '0'.toNat)
  else if 'a' ≤ c ∧ c ≤ 'f' then some (c.toNat - 'a'.toNat + 10)
  else if 'A' ≤ c ∧ c ≤ 'F' then some (c.toNat - 'A'.toNat + 10)
  else none

/-- A nonempty run of digits of one base that fills the text. -/
def inBase? (base : Nat) (text : List Char) : Option Nat :=
  if text.isEmpty then none
  else text.foldlM (fun n c =>
    match digit? c with
    | some d => if d < base then some (base * n + d) else none
    | none => none) 0

/-- The base that a text announces at its front. -/
def base? (text : List Char) : Option (Nat × List Char) :=
  match text with
  | '0' :: c :: rest =>
    if c = 'x' ∨ c = 'X' then some (16, rest)
    else if c = 'o' ∨ c = 'O' then some (8, rest)
    else if c = 'b' ∨ c = 'B' then some (2, rest)
    else none
  | _ => none

/-- Reads a whole text as a number. -/
def read (text : String) : Float :=
  let cs := Text.trimmed text.toList
  let undefined : Float := 0.0 / 0.0
  if cs.isEmpty then 0.0
  else
    match base? cs with
    | some (base, digits) =>
      match inBase? base digits with
      | some n => Float.ofNat n
      | none => undefined
    | none =>
      let (negative, body) := sign cs
      if body = "Infinity".toList then
        if negative then -(1.0 / 0.0) else 1.0 / 0.0
      else
        match decimal? body with
        | some (digits, exponent) => scaled negative digits exponent
        | none => undefined

end FieldCalculus.Numeric
