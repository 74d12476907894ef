/-!
# JSON values

The values that requests and responses of the console carry.  Objects keep their members
in the order in which they were written.
-/

namespace FieldCalculus

/-- A JSON value. -/
inductive Json
  | null
  | bool (b : Bool)
  | number (x : Float)
  | string (s : String)
  | array (items : List Json)
  | object (members : List (String × Json))

namespace Json

/-- The member of an object; of several with one key, the last. -/
def member? (key : String) : Json → Option Json
  | object members => (members.reverse.find? (·.1 = key)).map Prod.snd
  | _ => none

/-- What kind of value this is. -/
def typeName : Json → String
  | null => "null"
  | bool _ => "boolean"
  | number _ => "number"
  | string _ => "string"
  | array _ => "array"
  | object _ => "object"

/-- The number that counts something. -/
def ofNat (n : Nat) : Json := number (Float.ofNat n)

/-- The value of an option, null for none. -/
def ofOption {β : Type} (encode : β → Json) : Option β → Json
  | none => null
  | some x => encode x

end Json

end FieldCalculus
