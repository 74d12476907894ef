import FieldCalculus.Console.Framework
import FieldCalculus.Console.Script
import FieldCalculus.Message
import FieldCalculus.Number.Numeric
import FieldCalculus.Report
/-!
# The console

Serves one interpreter over requests: scripts are executed, the state and the journal
are read, and fields are removed.  Only an executed script and a removed field change
the interpreter.
-/

namespace FieldCalculus.Console

open Json

/-- The routes of the console. -/
def routes : List Route :=
  [⟨.get, "/api/status", .showStatus⟩,
   ⟨.post, "/api/execute", .execute⟩,
   ⟨.get, "/api/state/snapshot", .showSnapshot⟩,
   ⟨.get, "/api/state/report", .showReport⟩,
   ⟨.get, "/api/state/field/:name", .showField⟩,
   ⟨.delete, "/api/state/field/:name", .removeField⟩,
   ⟨.get, "/api/journal/recent", .showJournal⟩]

/-- The parameter that names a field. -/
def nameParameter : String := "name"

namespace Response

/-- A successful response with the given members. -/
def ok (members : List (String × Json)) : Response :=
  ⟨200, .json (object (("ok", bool true) :: members))⟩

/-- The response about a field that is not registered. -/
def unknownField (name : String) : Response :=
  ⟨404, .json (object [("ok", bool false), ("error", string ("Unknown field: " ++ name))])⟩

/-- The response to a body that holds no script. -/
def noScript (fault : ScriptFault) : Response :=
  ⟨400, .json (object [("ok", bool false), ("errors", array [fault.issue])])⟩

end Response

/-- How many journal entries are shown when the query does not say. -/
def defaultJournalLimit : Float := 50.0

/-- A limit that a query sets; zero and undefined ones stand for the default. -/
def effectiveLimit (limit : Float) : Float :=
  if limit.isNaN || limit == 0.0 then defaultJournalLimit else limit

/-- The limit that a query sets, unless its value has no text. -/
def journalLimit? : Option QueryValue → Option Float
  | none => some defaultJournalLimit
  | some value => value.text?.map fun s => effectiveLimit (Numeric.read s)

/-- Whether a query asks for a report with all fields, which it does unless it says no. -/
def showsAll (value : Option QueryValue) : Bool :=
  !value.any (·.isText "false")

/-- A request as its handler sees it. -/
structure Incoming where
  body : Json
  parameter : String → String
  query : String → Option QueryValue

/-- What a handler makes of a request: the interpreter afterwards, the response unless the
handler breaks off, and the warnings that it prints. -/
structure Answer where
  interpreter : Interpreter Float
  response : Option Response
  warnings : List String

/-- The outcomes of a script as they are answered. -/
def encodeResults (results : ResultLog Float) : Json :=
  array (results.map fun (key, outcome) =>
    object [("key", string key), ("outcome", encodeOutcome outcome)])

/-- Handles a request. -/
def answer (i : Interpreter Float) (handler : Handler) (request : Incoming) : Answer :=
  match handler with
  | .showStatus =>
    ⟨i, some (.ok [("fields", Json.ofNat i.registry.size),
      ("journalSize", Json.ofNat i.journal.size)]), []⟩
  | .execute =>
    match script request.body with
    | .error fault => ⟨i, some (.noScript fault), []⟩
    | .ok text =>
      let e := i.execute text
      ⟨e.interpreter, some (.ok [("results", encodeResults e.results)]), e.warnings⟩
  | .showSnapshot => ⟨i, some (.ok [("data", encodeState i.snapshot)]), []⟩
  | .showReport =>
    ⟨i, some ⟨200, .plain (Report.text i.snapshot (showsAll (request.query "all")))⟩, []⟩
  | .showField =>
    let name := request.parameter nameParameter
    match i.registry.get? name with
    | none => ⟨i, some (.unknownField name), []⟩
    | some f =>
      let partner := (i.registry.partner? f.name).map EnergyField.name
      ⟨i, some (.ok [("data", encodeSnapshot f.snapshot),
        ("partner", Json.ofOption string partner)]), []⟩
  | .removeField =>
    let name := request.parameter nameParameter
    if i.registry.contains name then
      ⟨i.removeField name, some (.ok [("removed", string name)]), []⟩
    else ⟨i, some (.unknownField name), []⟩
  | .showJournal =>
    match journalLimit? (request.query "limit") with
    | none => ⟨i, none, []⟩
    | some limit =>
      let entries := i.journal.recent limit
      ⟨i, some (.ok [("count", Json.ofNat entries.length),
        ("data", array (entries.map encodeEntry))]), []⟩

/-- What a request gives: the interpreter afterwards, the response, and what is printed. -/
structure Reply where
  interpreter : Interpreter Float
  response : Response
  messages : List Message

section Serving

variable {ρ : Type} (F : Framework ρ)

/-- The line that is printed for a request whose body has been read. -/
def requestLine (r : ρ) : Message :=
  .log ("[Console] " ++ F.method r ++ " " ++ F.target r)

/-- Serves a request.  What the framework answers before it has read the body is not printed. -/
def handle (i : Interpreter Float) (r : ρ) : Reply :=
  match F.receive r with
  | .error response => ⟨i, response, []⟩
  | .ok body =>
    match F.route routes r with
    | .error response => ⟨i, response, [requestLine F r]⟩
    | .ok m =>
      let a := answer i m.route.handler ⟨body, m.parameter, F.query r⟩
      ⟨a.interpreter, a.response.elim (F.fault r) (F.send r),
        requestLine F r :: a.warnings.map .warning⟩

/-- Serves some requests one after the other. -/
def serve (i : Interpreter Float) : List ρ → List Reply
  | [] => []
  | r :: rest =>
    let reply := handle F i r
    reply :: serve reply.interpreter rest

end Serving

end FieldCalculus.Console
