import FieldCalculus.Web.HostName.Mapping
import FieldCalculus.Web.HostName.Composition
import FieldCalculus.Web.HostName.Direction
import FieldCalculus.Web.HostName.Joining
import FieldCalculus.Web.HostName.Punycode
/-!
# Host names

Which texts name a host.  A name is read as what its characters stand for, and falls into labels
at its points.  A label of other characters than those of ASCII keeps some rules: no mark begins
it, joiners stand where they have an effect, and letters from the right do not mix with letters
from the left.  A label may be written in Punycode behind the mark `xn--`.
-/

namespace FieldCalculus.Web.HostName

/-- The sign that keeps two letters from being joined. -/
def nonJoiner : Char := '\u200C'

/-- The sign that joins two letters. -/
def joiner : Char := '\u200D'

/-- Whether a label is good by its first joiner, if it has one; `before` is what stands in front
of the text, in reverse.  A joiner may follow the sign that silences a vowel, and a sign against
joining may also stand between letters that join. -/
def joinerRule? (before : List Char) : List Char → Option Bool
  | [] => none
  | c :: rest =>
    if c = joiner || c = nonJoiner then
      some (before.head?.any isVirama ||
        (c = nonJoiner && before.any joinsNext && rest.any joinsPrevious))
    else joinerRule? (c :: before) rest

/-- Whether the directions of a label go together.  A label without letters from the right is
good.  One that begins from the left may hold such a letter only at its end, and any other holds
no letters from the left and one kind of numbers.  Marks at the end do not count. -/
def keepsDirection (label : List Char) : Bool :=
  let all := label.map Direction.ofChar
  let core := (all.reverse.dropWhile (· = .nonspacing)).reverse
  if !all.any [.right, .arabicNumber].contains then true
  else if all.head? = some .left then
    core.dropLast.all [.left, .europeanNumber, .neutral, .nonspacing].contains
  else
    !core.any [.left, .unclassed].contains &&
      !(core.contains .europeanNumber && core.contains .arabicNumber) &&
      core.getLast?.any [.right, .arabicNumber, .europeanNumber].contains

/-- Whether a label keeps the rules for other characters than those of ASCII. -/
def isInternational (label : List Char) : Bool :=
  !label.head?.any isMark && (joinerRule? [] label).getD (keepsDirection label)

/-- A character of ASCII. -/
def isAscii (c : Char) : Bool :=
  c.toNat < 0x80

/-- Whether a label written in Punycode is good: it stands for a label that is kept as it is. -/
def isEncoded (code : List Char) : Bool :=
  code.all isAscii &&
    (Punycode.decode? code).any fun label =>
      !label.isEmpty && mapAll? label = some label && normalized label = label &&
        isInternational label

/-- Whether a part of a name between points is good. -/
def isLabel : List Char → Bool
  | 'x' :: 'n' :: '-' :: '-' :: code => isEncoded code
  | label => label.all isAscii || isInternational label

/-- The characters of ASCII that no name holds. -/
def isForbidden (c : Char) : Bool :=
  "\x00\t\n\r #%/:<>?@[\\]^|".toList.contains c

/-- Whether a text names a host. -/
def isValid (name : List Char) : Bool :=
  (mapAll? name).any fun mapped =>
    let text := normalized mapped
    !text.isEmpty && !text.any isForbidden && (Text.parts '.' text).all isLabel

end FieldCalculus.Web.HostName
