import FieldCalculus.Number.Numeric
/-!
# Percent encoding

Texts in which any byte may be written as a percent sign and two hexadecimal digits.
-/

namespace FieldCalculus.Web.Percent

/-- The bytes that a text stands for; a percent sign without two digits stands for none. -/
def bytes? : List Char → Option (List UInt8)
  | [] => some []
  | '%' :: a :: b :: rest =>
    match Numeric.inBase? 16 [a, b] with
    | some n => (bytes? rest).map (UInt8.ofNat n :: ·)
    | none => none
  | c :: rest => if c = '%' then none else (bytes? rest).map (String.utf8EncodeChar c ++ ·)

/-- The decoded text, if its bytes are the encoding of one. -/
def decode? (text : List Char) : Option String :=
  (bytes? text).bind fun bytes => String.fromUTF8? ⟨bytes.toArray⟩

/-- A part of a query: a plus sign is a space, and a malformed text stands for itself. -/
def decodeQuery (text : List Char) : String :=
  let spaced := text.map fun c => if c = '+' then ' ' else c
  (decode? spaced).getD (String.ofList spaced)

end FieldCalculus.Web.Percent
