import FieldCalculus.Text.Blank
/-!
# Media types

What kind of content a body holds: a type with named parameters behind semicolons, whose
values are tokens or quoted texts.
-/

namespace FieldCalculus.Web

/-- A media type: its type and subtype around a slash, in lower case, and its parameters,
whose names are in lower case. -/
structure MediaType where
  essence : String
  parameters : List (String × String)
  deriving Repr, DecidableEq

namespace MediaType

/-- The characters of a token. -/
def isToken (c : Char) : Bool :=
  c.isAlphanum || "!#$%&'*+-.^_`|~".toList.contains c

/-- The characters that a quoted text may hold as they are. -/
def isQuotable (c : Char) : Bool :=
  let n := c.toNat
  (0x20 ≤ n && n < 0x7F || 0x80 ≤ n && n < 0x100) && c ≠ '"' && c ≠ '\\'

/-- The content of a quoted text, and what follows its closing quote.  A backslash takes the
character behind it as it is. -/
def quoted? : List Char → Option (List Char × List Char)
  | '"' :: rest => some ([], rest)
  | '\\' :: c :: rest =>
    if 0x20 ≤ c.toNat ∧ c.toNat < 0x7F then
      (quoted? rest).map fun (content, rest) => (c :: content, rest)
    else none
  | c :: rest =>
    if isQuotable c then (quoted? rest).map fun (content, rest) => (c :: content, rest)
    else none
  | [] => none

/-- A text without the spaces at its front. -/
def skipSpaces (text : List Char) : List Char :=
  text.dropWhile (· = ' ')

/-- A nonempty token, and what follows it. -/
def token? (text : List Char) : Option (List Char × List Char) :=
  match text.takeWhile isToken with
  | [] => none
  | token => some (token, text.dropWhile isToken)

/-- The value of a parameter, and what follows it. -/
def value? : List Char → Option (List Char × List Char)
  | '"' :: rest => quoted? rest
  | text => token? text

/-- Characters in lower case. -/
def lower (text : List Char) : String :=
  String.ofList (text.map Char.toLower)

/-- A parameter without the semicolon in front of it, and what follows it.  Spaces may stand
around the name and the value. -/
def parameter? (text : List Char) : Option ((String × String) × List Char) := do
  let (name, rest) ← token? (skipSpaces text)
  match skipSpaces rest with
  | '=' :: rest =>
    let (value, rest) ← value? (skipSpaces rest)
    return ((lower name, String.ofList value), skipSpaces rest)
  | _ => none

/-- The parameters that fill a text, each behind a semicolon.  A parameter costs one unit of
fuel. -/
def parameters? : Nat → List Char → Option (List (String × String))
  | _, [] => some []
  | fuel + 1, ';' :: rest => do
    let (parameter, rest) ← parameter? rest
    return parameter :: (← parameters? fuel rest)
  | _, _ => none

/-- Reads a whole text as a media type. -/
def parse? (text : String) : Option MediaType :=
  let essence := text.toList.takeWhile (· ≠ ';')
  let rest := text.toList.dropWhile (· ≠ ';')
  (parameters? rest.length rest).map fun parameters =>
    { essence := lower ((skipSpaces (skipSpaces essence).reverse).reverse)
      parameters := parameters }

/-- The value of a parameter; of several with one name, the last. -/
def parameter (name : String) (m : MediaType) : Option String :=
  (m.parameters.reverse.find? (·.1 = name)).map Prod.snd

/-- The charset that a media type names, in lower case. -/
def charset (m : MediaType) : String :=
  match m.parameter "charset" with
  | none | some "" => "utf-8"
  | some name => lower name.toList

end MediaType

end FieldCalculus.Web
