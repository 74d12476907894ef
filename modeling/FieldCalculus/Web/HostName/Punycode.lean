import FieldCalculus.Text.Blank
/-!
# Punycode

Texts of any characters written with letters, digits and hyphens.  What stands in front of the
last hyphen is text as it is.  The digits behind it write numbers, one for each further
character: how far to go through the places of the text, once for every code point, before the
character is put in.
-/

namespace FieldCalculus.Web.Punycode

/-- The value of a digit.  Letters come before decimal digits. -/
def digit? (c : Char) : Option Nat :=
  if 'a' ≤ c && c ≤ 'z' then some (c.toNat - 'a'.toNat)
  else if c.isDigit then some (c.toNat - '0'.toNat + 26)
  else none

/-- The greatest number that is followed. -/
def maxNumber : Nat := 0x7FFFFFFF

/-- How many digits there are. -/
def base : Nat := 36

/-- The least digit that does not end a number.  The places of a number are `base`, two times
`base`, and so on. -/
def threshold (bias place : Nat) : Nat :=
  if place ≤ bias then 1 else if bias + 26 ≤ place then 26 else place - bias

/-- The bias that suits numbers like `delta`; `offset` is that of the digits cut from it. -/
def biasFrom (offset delta : Nat) : Nat :=
  if 455 < delta then biasFrom (offset + base) (delta / 35)
  else offset + base * delta / (delta + 38)
termination_by delta
decreasing_by exact Nat.div_lt_self (by omega) (by omega)

/-- The bias for the number behind `delta`, when the text has `count` characters.  The first
number tends to be greater than the others. -/
def adapted (isFirst : Bool) (delta count : Nat) : Nat :=
  let scaled := if isFirst then delta / 700 else delta / 2
  biasFrom 0 (scaled + scaled / count)

/-- A text that is being decoded, between two digits. -/
structure Decoder where
  text : List Char
  /-- The code point of the next character. -/
  code : Nat
  bias : Nat
  /-- The place in the text behind the last character that was put in. -/
  start : Nat
  /-- How far the digits read so far lead, from the front of the text. -/
  index : Nat
  /-- The weight of the next digit. -/
  weight : Nat
  /-- The place of the next digit in its number. -/
  place : Nat

namespace Decoder

/-- The decoder of a text in front of the first number. -/
def begin (text : List Char) : Decoder where
  text := text
  code := 0x80
  bias := 72
  start := 0
  index := 0
  weight := 1
  place := base

/-- Puts a character in when its number is complete. -/
def insert? (d : Decoder) : Option Decoder :=
  let count := d.text.length + 1
  let code := d.code + d.index / count
  let index := d.index % count
  if code.isValidChar then
    some {
      text := d.text.insertIdx index (Char.ofNat code)
      code := code
      bias := adapted (d.start = 0) (d.index - d.start) count
      start := index + 1
      index := index + 1
      weight := 1
      place := base }
  else none

/-- Reads a digit. -/
def read? (d : Decoder) (c : Char) : Option Decoder :=
  match digit? c with
  | none => none
  | some digit =>
    let index := d.index + digit * d.weight
    let least := threshold d.bias d.place
    let weight := d.weight * (base - least)
    if maxNumber < index then none
    else if digit < least then { d with index := index }.insert?
    else if maxNumber < weight then none
    else some { d with index := index, weight := weight, place := d.place + base }

end Decoder

/-- The text that a text stands for, if its last number is complete. -/
def decode? (text : List Char) : Option (List Char) :=
  let (plain, digits) := (Text.cutLast? '-' text).getD ([], text)
  match digits.foldlM Decoder.read? (.begin plain) with
  | some d => if d.place = base then some d.text else none
  | none => none

end FieldCalculus.Web.Punycode
