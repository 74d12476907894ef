import FieldCalculus.Console.QueryValue
import FieldCalculus.Json.Basic
/-!
# Web frameworks

The console does not take requests by itself.  A web framework reads their bodies and their
queries, chooses one of the routes that the console has registered, and sends what the console
answers.  How it does that is its own matter; what the console relies on is stated here.  Texts
are Unicode texts: what a request holds besides, such as half of a surrogate pair, does not get
to the console.
-/

namespace FieldCalculus.Console

/-! ## Responses -/

/-- The content of a response. -/
inductive Content
  | json (value : Json)
  | plain (text : String)
  /-- A page of the framework that describes an error. -/
  | page
  /-- Headers alone. -/
  | bare (mediaType : String)

/-- The media type of a content. -/
def Content.mediaType : Content → String
  | json _ => "application/json"
  | plain _ => "text/plain"
  | page => "text/html"
  | bare mediaType => mediaType

/-- A response. -/
structure Response where
  status : Nat
  content : Content

/-! ## Routes -/

/-- The methods for which routes are registered. -/
inductive Verb
  | get
  | post
  | delete
  deriving Repr, DecidableEq

/-- A verb in capitals. -/
def Verb.name : Verb → String
  | get => "GET"
  | post => "POST"
  | delete => "DELETE"

/-- Whether a route for the verb takes requests of a method.  Letter case does not matter, and
routes that get something take requests for its headers alone. -/
def Verb.takes (verb : Verb) (method : String) : Bool :=
  let capitals := String.ofList (method.toList.map Char.toUpper)
  capitals = verb.name || verb = get && capitals = "HEAD"

/-- The handlers of the console. -/
inductive Handler
  | showStatus
  | execute
  | showSnapshot
  | showReport
  | showField
  | removeField
  | showJournal
  deriving Repr, DecidableEq

/-- A route: requests with a verb whose path has a pattern go to a handler.  A segment of a
pattern behind a colon is a parameter. -/
structure Route where
  verb : Verb
  pattern : String
  handler : Handler
  deriving Repr, DecidableEq

/-- A route that takes a request, and the values that its path gives to parameters. -/
structure RouteMatch where
  route : Route
  parameter : String → String

/-! ## What a framework does -/

/-- A web framework whose requests are of type `ρ`. -/
structure Framework (ρ : Type) where
  method : ρ → String
  target : ρ → String
  /-- The value that the body of a request is read as.  Requests that ask what is allowed, and
  those whose body cannot be read, are answered at once. -/
  receive : ρ → Except Response Json
  /-- The route of a table that takes a request, or the answer when there is none. -/
  route : List Route → ρ → Except Response RouteMatch
  /-- What the query of a request gives to a name. -/
  query : ρ → String → Option QueryValue
  /-- The answer to a request whose handler breaks off. -/
  fault : ρ → Response
  /-- What is sent when a handler answers a request. -/
  send : ρ → Response → Response

end FieldCalculus.Console
