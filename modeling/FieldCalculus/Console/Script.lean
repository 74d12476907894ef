import FieldCalculus.Console.Encoding
/-!
# Execution requests

The body of a request to execute a script is an object whose member `script` is a
nonempty string.  A body of another shape is reported by one issue.
-/

namespace FieldCalculus.Console

open Json

/-- Why the body of an execution request does not hold a script. -/
inductive ScriptFault
  | notObject (found : String)
  /-- The script is missing or is not a string. -/
  | notString (found : Option String)
  | tooShort
  deriving Repr, DecidableEq

/-- The issue that reports a fault. -/
def ScriptFault.issue : ScriptFault → Json
  | notObject found => mismatch "object" found ("Expected object, received " ++ found) []
  | notString none => mismatch "string" "undefined" "Required" ["script"]
  | notString (some found) =>
    mismatch "string" found ("Expected string, received " ++ found) ["script"]
  | tooShort =>
    object
      [("code", string "too_small"), ("minimum", Json.ofNat 1), ("type", string "string"),
       ("inclusive", bool true), ("exact", bool false),
       ("message", string "String must contain at least 1 character(s)"),
       ("path", encodeNames ["script"])]
where
  mismatch (expected received message : String) (path : List String) : Json :=
    object
      [("code", string "invalid_type"), ("expected", string expected),
       ("received", string received), ("path", encodeNames path), ("message", string message)]

/-- The script that a body asks to execute. -/
def script (body : Json) : Except ScriptFault String :=
  match body with
  | .object _ =>
    match body.member? "script" with
    | none => .error (.notString none)
    | some (.string text) => if text = "" then .error .tooShort else .ok text
    | some other => .error (.notString (some other.typeName))
  | other => .error (.notObject other.typeName)

end FieldCalculus.Console
