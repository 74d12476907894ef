/-!
# Blanks and lines

Which characters are blank, how a text is trimmed, and how a script falls into lines.
-/

namespace FieldCalculus.Text

/-- The characters that trimming removes: the space separators of Unicode, the controls from
tab to carriage return, the line and paragraph separators, and the byte order mark. -/
def isBlank (c : Char) : Bool :=
  let n := c.toNat
  (9 ≤ n && n ≤ 13) || n = 0x20 || n = 0xA0 || n = 0x1680 || (0x2000 ≤ n && n ≤ 0x200A) ||
    n = 0x2028 || n = 0x2029 || n = 0x202F || n = 0x205F || n = 0x3000 || n = 0xFEFF

/-- The characters that end a line for the constraints of an interaction. -/
def isLineEnd (c : Char) : Bool :=
  c = '\n' || c = '\r' || c.toNat = 0x2028 || c.toNat = 0x2029

/-- A text without the blanks at its ends. -/
def trimmed (text : List Char) : List Char :=
  ((text.dropWhile isBlank).reverse.dropWhile isBlank).reverse

/-- A string without the blanks at its ends. -/
def trim (text : String) : String :=
  String.ofList (trimmed text.toList)

/-- The nonempty trimmed lines of a script, in order. -/
def splitLines (script : String) : List String :=
  (((script.toList.splitOn '\n').map trimmed).filter (!·.isEmpty)).map String.ofList

/-- The parts of a text between the occurrences of a separator. -/
def parts (separator : Char) (text : List Char) : List (List Char) :=
  text.splitOn separator

/-- The nonempty parts of a text between its blanks. -/
def words (text : List Char) : List (List Char) :=
  (parts ' ' (text.map fun c => if isBlank c then ' ' else c)).filter (!·.isEmpty)

/-- A text cut at the last occurrence of a separator, if it has one. -/
def cutLast? (separator : Char) (text : List Char) : Option (List Char × List Char) :=
  let back := (text.reverse.takeWhile (· ≠ separator)).reverse
  if back.length = text.length then none
  else some (text.take (text.length - back.length - 1), back)

/-- The lines of a text, blank ones included. -/
def lines (text : String) : List String :=
  (text.toList.splitOn '\n').map String.ofList

end FieldCalculus.Text
