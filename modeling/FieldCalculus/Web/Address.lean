import FieldCalculus.Text.Blank
import FieldCalculus.Text.Units
import FieldCalculus.Web.HostName
import FieldCalculus.Web.Percent
/-!
# Addresses

The target of a request gives a path and a query.  A target that begins with a slash and holds
neither a blank nor a number sign is cut at its first question mark.  Any other target is read
as a reference, which may name a scheme and a host in front of the path and a fragment behind
the query.
-/

namespace FieldCalculus.Web

/-- A path, and the query behind it without its question mark. -/
structure Address where
  path : List Char
  query : List Char
  deriving Repr, DecidableEq

namespace Address

/-- A text cut at its first question mark. -/
def cut (text : List Char) : Address :=
  ⟨text.takeWhile (· ≠ '?'), (text.dropWhile (· ≠ '?')).drop 1⟩

/-- The characters that are removed at the ends of a reference: controls, the space, the
no-break space and the byte order mark. -/
def isEdge (c : Char) : Bool :=
  c.toNat < 33 || c.toNat = 0xA0 || c.toNat = 0xFEFF

/-- The characters behind which a target is not plain any more. -/
def isSpecial (c : Char) : Bool :=
  "\t\n\x0c\r #".toList.contains c || c.toNat = 0xA0 || c.toNat = 0xFEFF

/-- The characters that end the host of a reference. -/
def endsHost (c : Char) : Bool :=
  c = '/' || c = '?' || c = '#'

/-- A text with slashes for the backslashes in front of its query and its fragment. -/
def withSlashes (text : List Char) : List Char :=
  let begins (c : Char) : Bool := c ≠ '?' && c ≠ '#'
  (text.takeWhile begins).map (fun c => if c = '\\' then '/' else c) ++ text.dropWhile begins

/-- A reference that is a path and a query alone: it begins with one slash or two, and it
holds no blank, no number sign, and no at sign in front of its query. -/
def isPlain (text : List Char) : Bool :=
  text.head? = some '/' && text.take 3 ≠ ['/', '/', '/'] &&
    !text.any (fun c => Text.isBlank c || c = '#') && !(cut text).path.contains '@'

/-- The characters of a scheme. -/
def isSchemeChar (c : Char) : Bool :=
  c.isAlphanum || c = '.' || c = '+' || c = '-'

/-- The scheme of a reference, and what follows its colon. -/
def scheme? (text : List Char) : Option (String × List Char) :=
  match text.takeWhile isSchemeChar, text.dropWhile isSchemeChar with
  | [], _ => none
  | name, ':' :: rest => some (String.ofList name, rest)
  | _, _ => none

/-- A scheme in lower case. -/
def lowerScheme (scheme : String) : String :=
  String.ofList (scheme.toList.map Char.toLower)

/-- The scheme whose references name no host. -/
def hostlessScheme : String := "javascript"

/-- The schemes whose references name a host only behind two slashes. -/
def webSchemes : List String :=
  ["http", "https", "ftp", "gopher", "file", "ws", "wss"]

/-- Two slashes, a nonempty name, an at sign, and another character of a host follow. -/
def namesUser (text : List Char) : Bool :=
  let inName (c : Char) : Bool := c ≠ '@' && c ≠ '/'
  match text with
  | '/' :: '/' :: c :: rest =>
    inName c &&
      match rest.dropWhile inName with
      | '@' :: d :: _ => inName d
      | _ => false
  | _ => false

/-- Whether a reference names a host behind its scheme. -/
def namesHost (scheme : Option String) (rest : List Char) : Bool :=
  match scheme with
  | none => namesUser rest
  | some name =>
    lowerScheme name ≠ hostlessScheme &&
      (rest.take 2 = ['/', '/'] || !webSchemes.contains name)

/-- The characters that stand in no host; a host ends in front of them. -/
def isForeign (c : Char) : Bool :=
  " \"%';<>\\^`\x7b|\x7d".toList.contains c

/-- The name of a host, without the colon and the digits that may end it. -/
def hostName (host : List Char) : List Char :=
  match host.reverse.dropWhile Char.isDigit with
  | ':' :: front => front.reverse
  | _ => host

/-- The greatest length of a host, in units. -/
def maxHostLength : Nat := 255

/-- Whether a host has a name, and what follows it.  A host in square brackets is kept whole
and any other one ends at a colon.  A name that is too long counts as none, and a bad one is
refused. -/
def host? (host rest : List Char) : Option (Bool × List Char) :=
  if host.head? = some '[' && host.getLast? = some ']' then
    if host.contains '\x00' then none
    else some (2 < host.length, if rest.head? = some '/' then rest else '/' :: rest)
  else
    let name := host.takeWhile (· ≠ ':')
    let left := host.dropWhile (· ≠ ':')
    let rest := if left.isEmpty then rest else '/' :: left ++ rest
    if name.isEmpty || maxHostLength < Text.unitCount name then some (false, rest)
    else if HostName.isValid name then some (true, rest)
    else none

/-- Reads a user and a host at the front of a text: whether the host has a name, and what
follows it.  Tabs and line ends in front of that do not count. -/
def authority? (text : List Char) : Option (Bool × List Char) :=
  let region := (text.takeWhile (!endsHost ·)).filter (!"\t\n\r".toList.contains ·)
  let rest := text.dropWhile (!endsHost ·)
  let read (region : List Char) : Option (Bool × List Char) :=
    host? (hostName (region.takeWhile (!isForeign ·)))
      (region.dropWhile (!isForeign ·) ++ rest)
  match Text.cutLast? '@' region with
  | none => read region
  | some (user, region) => (Percent.decode? user).bind fun _ => read region

/-- The path and the query of a reference that is not plain.  A host of a web scheme has the
root for a path when none is given; otherwise a reference without a path has no address. -/
def ofReference? (text : List Char) : Option Address := do
  let (scheme, rest) :=
    match scheme? text with
    | some (name, rest) => (some name, rest)
    | none => (none, text)
  let (hosted, rest) ←
    if namesHost scheme rest then
      authority? (if rest.take 2 = ['/', '/'] then rest.drop 2 else rest)
    else some (false, rest)
  let address := cut (rest.takeWhile (· ≠ '#'))
  if !address.path.isEmpty then some address
  else if hosted && (scheme.map lowerScheme).any webSchemes.contains then
    some { address with path := ['/'] }
  else none

/-- The address that a target gives. -/
def ofTarget? (target : String) : Option Address :=
  let text := target.toList
  if text.head? = some '/' && !(text.drop 1).any isSpecial then some (cut text)
  else
    let front := (text.dropWhile isEdge).reverse.dropWhile isEdge
    let reference := withSlashes front.reverse
    if isPlain reference then some (cut reference) else ofReference? reference

/-- The segments of the path, without the empty one that a slash at the end leaves. -/
def segments (a : Address) : List (List Char) :=
  match Text.parts '/' a.path with
  | [] => []
  | first :: rest => first :: (if rest.getLast? = some [] then rest.dropLast else rest)

end Address

end FieldCalculus.Web
