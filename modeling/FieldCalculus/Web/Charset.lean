import FieldCalculus.Text.Units
/-!
# Charsets

The Unicode encodings in which the body of a request may be written, their names, and the
text that some bytes write in each.
-/

namespace FieldCalculus.Web

/-- A Unicode encoding. -/
inductive Charset
  | utf8
  /-- Pairs of bytes whose order the bytes themselves tell. -/
  | utf16
  | utf16Little
  | utf16Big
  /-- Printable bytes, with runs of base 64 behind a plus sign. -/
  | utf7
  /-- Printable bytes, with runs of base 64 behind an ampersand. -/
  | utf7Mailbox
  deriving Repr, DecidableEq

namespace Charset

/-- A name without a year at its end, which is a colon and four digits. -/
def withoutYear (name : List Char) : List Char :=
  match name.reverse with
  | a :: b :: c :: d :: ':' :: front =>
    if [a, b, c, d].all Char.isDigit then front.reverse else name
  | _ => name

/-- The letters and digits of a name in lower case. -/
def bareName (name : String) : String :=
  String.ofList (((withoutYear name.toList).filter Char.isAlphanum).map Char.toLower)

/-- The encoding with a name, of which only letters and digits matter. -/
def ofName? (name : String) : Option Charset :=
  match bareName name with
  | "utf8" => some utf8
  | "utf16" => some utf16
  | "utf16le" => some utf16Little
  | "utf16be" => some utf16Big
  | "utf7" => some utf7
  | "utf7imap" => some utf7Mailbox
  | _ => none

/-- The units that pairs of bytes write; a byte without a partner writes none. -/
def pairUnits (bigFirst : Bool) : List UInt8 → List Nat
  | a :: b :: rest =>
    let (high, low) := if bigFirst then (a, b) else (b, a)
    (high.toNat * 256 + low.toNat) :: pairUnits bigFirst rest
  | _ => []

/-- How many pairs of bytes are a zero and another byte behind it, and how many the other
way round. -/
def zeroCounts : List UInt8 → Nat × Nat
  | a :: b :: rest =>
    let (before, after) := zeroCounts rest
    (if a = 0 ∧ b ≠ 0 then before + 1 else before, if a ≠ 0 ∧ b = 0 then after + 1 else after)
  | _ => (0, 0)

/-- Whether the greater byte of each pair comes first, as far as the first 64 bytes tell. -/
def isBigFirst (bytes : List UInt8) : Bool :=
  let (before, after) := zeroCounts (bytes.take 64)
  after < before

/-- The value of a digit of base 64. -/
def digit64? (b : UInt8) : Option Nat :=
  let c := Char.ofNat b.toNat
  if c.isUpper then some (b.toNat - 'A'.toNat)
  else if c.isLower then some (b.toNat - 'a'.toNat + 26)
  else if c.isDigit then some (b.toNat - '0'.toNat + 52)
  else if c = '+' then some 62
  else if c = '/' then some 63
  else none

/-- The bits of a digit of base 64, the greatest first. -/
def bits64 (digit : Nat) : List Nat :=
  [digit / 32 % 2, digit / 16 % 2, digit / 8 % 2, digit / 4 % 2, digit / 2 % 2, digit % 2]

/-- The units that bits write, after `count` bits of the first unit that make `value`; bits
that do not fill a unit write none. -/
def bitUnits (count value : Nat) : List Nat → List Nat
  | [] => []
  | bit :: rest =>
    if count = 15 then (2 * value + bit) :: bitUnits 0 0 rest
    else bitUnits (count + 1) (2 * value + bit) rest

/-- Units without the byte order mark at their front. -/
def withoutMark (units : List Nat) : List Nat :=
  match units with
  | 0xFEFF :: rest => rest
  | _ => units

/-- The units that a run of base 64 writes; its digits are in reverse. -/
def runUnits (run : List Nat) : List Nat :=
  withoutMark (bitUnits 0 0 (run.reverse.flatMap bits64))

/-- The unit of a byte outside runs of base 64. -/
def plainUnit (b : UInt8) : Nat :=
  if b < 128 then b.toNat else 0xFFFD

/-- The units that bytes with runs of base 64 write.  A run begins behind the byte `shift` and
ends at the first byte that is no digit of it; a hyphen there belongs to the run, and an empty
run with a hyphen writes the shift itself.  `run` holds the digits of the run that is being
read, in reverse. -/
def shiftedUnits (shift : UInt8) (digit? : UInt8 → Option Nat) (run : Option (List Nat)) :
    List UInt8 → List Nat
  | [] => (run.map runUnits).getD []
  | b :: rest =>
    match run with
    | none =>
      if b = shift then shiftedUnits shift digit? (some []) rest
      else plainUnit b :: shiftedUnits shift digit? none rest
    | some digits =>
      match digit? b with
      | some d => shiftedUnits shift digit? (some (d :: digits)) rest
      | none =>
        if b = 45 then
          (if digits.isEmpty then [shift.toNat] else runUnits digits) ++
            shiftedUnits shift digit? none rest
        else if b = shift then
          runUnits digits ++ shiftedUnits shift digit? (some []) rest
        else runUnits digits ++ plainUnit b :: shiftedUnits shift digit? none rest

/-- A digit of base 64 in mailbox names, where a comma may stand for the slash. -/
def mailboxDigit? (b : UInt8) : Option Nat :=
  if b = 44 then some 63 else digit64? b

/-- The units that bytes write, for an encoding other than UTF-8. -/
def units (charset : Charset) (bytes : List UInt8) : List Nat :=
  match charset with
  | utf16 => pairUnits (isBigFirst bytes) bytes
  | utf16Little => pairUnits false bytes
  | utf16Big => pairUnits true bytes
  | utf7Mailbox => shiftedUnits 38 mailboxDigit? none bytes
  | _ => shiftedUnits 43 digit64? none bytes

/-- A text without the byte order mark at its front. -/
def dropMark (text : String) : String :=
  match text.toList with
  | c :: rest => if c.toNat = 0xFEFF then String.ofList rest else text
  | [] => text

/-- What a body says in an encoding, if it is a text there.  The body is given as the text that
its bytes write in UTF-8. -/
def read? (charset : Charset) (body : String) : Option String :=
  match charset with
  | utf8 => some (dropMark body)
  | _ => Text.ofUnits? (withoutMark (charset.units body.toUTF8.toList))

end Charset

end FieldCalculus.Web
