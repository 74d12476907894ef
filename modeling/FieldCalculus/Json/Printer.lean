import FieldCalculus.Json.Basic
import FieldCalculus.Number.Notation
/-!
# Writing JSON

Values are written without spaces.  Numbers take their shortest notation, and a number
that is not finite is written as null.
-/

namespace FieldCalculus.Json

private def hexDigit (n : Nat) : Char :=
  (Nat.toDigits 16 n).headD '0'

/-- The escape of a character by its code, which has at most four hexadecimal digits. -/
def unicodeEscape (n : Nat) : List Char :=
  ['\\', 'u', hexDigit (n / 4096 % 16), hexDigit (n / 256 % 16), hexDigit (n / 16 % 16),
   hexDigit (n % 16)]

/-- A character inside a string.  Quotes, backslashes, controls and line separators are
escaped. -/
def escape (c : Char) : List Char :=
  if c = '"' then ['\\', '"']
  else if c = '\\' then ['\\', '\\']
  else if c = '\n' then ['\\', 'n']
  else if c = '\r' then ['\\', 'r']
  else if c = '\t' then ['\\', 't']
  else if c.toNat < 0x20 || c.toNat = 0x85 || c.toNat = 0x2028 || c.toNat = 0x2029 then
    unicodeEscape c.toNat
  else [c]

/-- A string between quotes. -/
def quoted (s : String) : String :=
  String.ofList ('"' :: s.toList.flatMap escape ++ ['"'])

/-- A number, or null if it is not finite. -/
def numberText (x : Float) : String :=
  if x.isFinite then Notation.shortest x else "null"

mutual

/-- The text of a value. -/
def render : Json → String
  | null => "null"
  | bool b => if b then "true" else "false"
  | number x => numberText x
  | string s => quoted s
  | array items => "[" ++ ",".intercalate (renderItems items) ++ "]"
  | object members => "\x7b" ++ ",".intercalate (renderMembers members) ++ "\x7d"

/-- The texts of the items of an array. -/
def renderItems : List Json → List String
  | [] => []
  | item :: rest => item.render :: renderItems rest

/-- The texts of the members of an object. -/
def renderMembers : List (String × Json) → List String
  | [] => []
  | (key, value) :: rest => (quoted key ++ ":" ++ value.render) :: renderMembers rest

end

end FieldCalculus.Json
