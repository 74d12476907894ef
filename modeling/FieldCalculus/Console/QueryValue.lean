/-!
# Values in queries

What the query of a request gives to a name: a text, a list or a record.  A list is written
with commas between its items, and a record in one way whatever it holds.
-/

namespace FieldCalculus.Console

/-- A value in a query. -/
inductive QueryValue
  | text (s : String)
  | list (items : List QueryValue)
  | record (members : List (String × QueryValue))

namespace QueryValue

/-- The name of the member that writes a record.  No value in a query can write. -/
def writerName : String := "toString"

/-- How a record is written. -/
def recordText : String := "[object Object]"

mutual

/-- The text of a value.  A record that is given a writer has none. -/
def text? : QueryValue → Option String
  | text s => some s
  | list items => (texts? items).map (String.intercalate ",")
  | record members => if members.any (·.1 = writerName) then none else some recordText

/-- The texts of the items of a list. -/
def texts? : List QueryValue → Option (List String)
  | [] => some []
  | item :: rest => (text? item).bind fun s => (texts? rest).map (s :: ·)

end

/-- Whether a value is this text, and not a list of it. -/
def isText (s : String) : QueryValue → Bool
  | text t => t = s
  | _ => false

end QueryValue

end FieldCalculus.Console
