import FieldCalculus.Text.Letter
import FieldCalculus.Text.NumeralSign
/-!
# Words

The characters that a bare field name is made of.
-/

namespace FieldCalculus.Text

/-- A letter or numeral of any script, or a low line. -/
def isWordChar (c : Char) : Bool :=
  isLetter c || isNumeral c || c = '_'

end FieldCalculus.Text
