import FieldCalculus.Console.Framework
import FieldCalculus.Web.Address
import FieldCalculus.Web.Query
import FieldCalculus.Web.Request
/-!
# A web framework

A framework that tries the routes of a table in their order.  A pattern has the segments of a
path, in which letter case does not matter, and a parameter takes a segment of any text.
-/

namespace FieldCalculus.Web

open Console (Content Response Route RouteMatch Framework)

/-! ## Responses of its own -/

/-- The response to a malformed request. -/
def badRequest : Response := ⟨400, .page⟩

/-- The response to a request that no route takes. -/
def notFound : Response := ⟨404, .page⟩

/-- The response to a request that could not be answered. -/
def failure : Response := ⟨500, .page⟩

/-- The response to a preflight request. -/
def preflight : Response := ⟨204, .bare ""⟩

/-- A response to a request that asks for headers alone leaves its content out. -/
def send (r : Request) (response : Response) : Response :=
  if r.wantsHeaders then { response with content := .bare response.content.mediaType }
  else response

/-! ## Routes -/

/-- Whether a segment of a path is one of a pattern. -/
def isSegment (expected found : List Char) : Bool :=
  expected.map Char.toLower = found.map Char.toLower

/-- The segments that a path has at the places of parameters, under their names. -/
def captures? : List (List Char) → List (List Char) → Option (List (String × List Char))
  | [], [] => some []
  | (':' :: name) :: pattern, segment :: path =>
    if segment.isEmpty then none
    else (captures? pattern path).map ((String.ofList name, segment) :: ·)
  | expected :: pattern, found :: path =>
    if isSegment expected found then captures? pattern path else none
  | _, _ => none

/-- The first route with this path that takes the method.  A path that has a pattern must be
free of malformed escapes where the pattern has parameters, whatever the method. -/
def findRoute (method : String) (path : List (List Char)) :
    List Route → Except Response RouteMatch
  | [] => .error notFound
  | route :: rest =>
    match captures? (Text.parts '/' route.pattern.toList) path with
    | none => findRoute method path rest
    | some captured =>
      if captured.all fun (_, segment) => (Percent.decode? segment).isSome then
        if route.verb.takes method then
          .ok ⟨route, fun name => ((captured.lookup name).bind Percent.decode?).getD ""⟩
        else findRoute method path rest
      else .error badRequest

/-! ## The framework -/

/-- Reads the body of a request.  A target without an address is not found, and preflight
requests are answered at once. -/
def receive (r : Request) : Except Response Json :=
  match Address.ofTarget? r.target with
  | none => .error notFound
  | some _ =>
    if r.isPreflight then .error preflight
    else
      match r.json with
      | .error fault => .error ⟨fault.status, .page⟩
      | .ok body => .ok body

/-- Finds the route of a request. -/
def route (table : List Route) (r : Request) : Except Response RouteMatch :=
  match Address.ofTarget? r.target with
  | none => .error notFound
  | some address => findRoute r.method address.segments table

/-- The value that the query of a request gives to a name. -/
def query (r : Request) (name : String) : Option Console.QueryValue :=
  (Address.ofTarget? r.target).bind fun address => QueryTree.get? address.query name

/-- The framework. -/
def framework : Framework Request where
  method := Request.method
  target := Request.target
  receive := receive
  route := route
  query := query
  fault _ := failure
  send := send

end FieldCalculus.Web
