import FieldCalculus.Json.Parser
import FieldCalculus.Web.Charset
import FieldCalculus.Web.MediaType
/-!
# Requests

A request names a method and a target and may carry a body.  A body is read as JSON if its
content type says so, in the charset that the content type names.
-/

namespace FieldCalculus.Web

/-- A request. -/
structure Request where
  method : String
  target : String
  body : Option String
  contentType : String
  deriving DecidableEq

/-- Why a body cannot be read. -/
inductive BodyFault
  | malformed
  | tooLarge
  | unsupportedCharset
  deriving Repr, DecidableEq

namespace BodyFault

/-- The status that answers a request with such a body. -/
def status : BodyFault → Nat
  | malformed => 400
  | tooLarge => 413
  | unsupportedCharset => 415

end BodyFault

namespace Request

/-- The content type of a body when none is named. -/
def defaultContentType : String := "application/json"

/-- A character in capitals, where the dotless i and the long s are letters too. -/
def capital (c : Char) : Char :=
  if c.toNat = 0x131 then 'I' else if c.toNat = 0x17F then 'S' else c.toUpper

/-- Whether a request only asks what requests are allowed. -/
def isPreflight (r : Request) : Bool :=
  String.ofList (r.method.toList.map capital) = "OPTIONS"

/-- Whether a request asks for the headers of its response alone. -/
def wantsHeaders (r : Request) : Bool :=
  r.method = "HEAD"

/-- The greatest size of a body in bytes. -/
def maxBodySize : Nat := 100 * 1024

/-- How the name of a charset begins that a body may be written in. -/
def charsetFront : String := "utf-"

/-- Reads the text of a body as JSON.  It must be an object or an array; an empty text stands
for the empty object. -/
def parseBody (text : String) : Except BodyFault Json :=
  if text = "" then .ok (.object [])
  else
    match Json.parse? text with
    | some (.object members) => .ok (.object members)
    | some (.array items) => .ok (.array items)
    | _ => .error .malformed

/-- Reads a body that is written in a charset. -/
def readBody (charset body : String) : Except BodyFault Json :=
  if !charsetFront.toList.isPrefixOf charset.toList then .error .unsupportedCharset
  else if maxBodySize < body.utf8ByteSize then .error .tooLarge
  else
    match Charset.ofName? charset with
    | some known => (known.read? body).elim (.error .malformed) parseBody
    | none => .error .unsupportedCharset

/-- The JSON value that a request carries.  A request without a body of JSON type carries the
empty object. -/
def json (r : Request) : Except BodyFault Json :=
  match r.body, MediaType.parse? r.contentType with
  | some body, some media =>
    if media.essence = "application/json" then readBody media.charset body
    else .ok (.object [])
  | _, _ => .ok (.object [])

end Request

end FieldCalculus.Web
