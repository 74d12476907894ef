import FieldCalculus.Number.Numeric
import FieldCalculus.Text.Blank
/-!
# Tables of characters

Two forms for the data of a character property.  A set of characters is a list of runs of code
points.  A table that gives a text to each of many characters is itself a text, of words in
hexadecimal.
-/

namespace FieldCalculus.Text

/-- Whether a character is in one of some runs, which are given by their first and last code
points. -/
def inRanges (ranges : List (Nat × Nat)) (c : Char) : Bool :=
  ranges.any fun (first, last) => first ≤ c.toNat && c.toNat ≤ last

/-- The characters of code points that are written in hexadecimal. -/
def hexChars (codes : List (List Char)) : List Char :=
  codes.filterMap fun code => (Numeric.inBase? 16 code).map Char.ofNat

/-- The entries of a table whose next word is for the code point at a position.  A word that
ends in a colon writes the next position and a hyphen passes over one.  Any other word is the
entry at its position: code points with plus signs between them. -/
def entriesFrom (position : Nat) : List (List Char) → List (Nat × List Char)
  | [] => []
  | word :: rest =>
    if word.getLast? = some ':' then
      entriesFrom ((Numeric.inBase? 16 word.dropLast).getD position) rest
    else if word = ['-'] then entriesFrom (position + 1) rest
    else (position, hexChars (parts '+' word)) :: entriesFrom (position + 1) rest

/-- The entries of a table. -/
def entries (table : String) : List (Nat × List Char) :=
  entriesFrom 0 (words table.toList)

end FieldCalculus.Text
