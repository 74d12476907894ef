import FieldCalculus.Console.QueryValue
import FieldCalculus.KeyOrder
import FieldCalculus.Number.Notation
import FieldCalculus.Number.Numeric
import FieldCalculus.Text.Blank
import FieldCalculus.Web.Percent
/-!
# Queries

A query gives values to keys.  A key may go on with groups in square brackets, which lead into
the value: an empty group to a new item of a list, a small index to an item of a list, and any
other group to a member of a record.  Values that several parts give to one key are merged.
A list that grows too long turns into a record, which goes on taking items.
-/

namespace FieldCalculus.Web

/-- A query that is being read, or a value in one. -/
inductive QueryTree
  | text (s : String)
  /-- A list, with the items that have been given so far at their places. -/
  | list (items : List (Option QueryTree))
  /-- A record.  One that stands for a list that grew too long has an index for its next
  item. -/
  | record (members : List (String × QueryTree)) (next : Option Nat)

namespace QueryTree

/-- How many parts of a query are read. -/
def maxParts : Nat := 1000

/-- The greatest length of a list; what goes beyond it is a record. -/
def maxItems : Nat := 1000

/-- How many groups of a key are followed. -/
def maxDepth : Nat := 5

/-- A step from a value to a part of it. -/
inductive Step
  | next
  | item (index : Nat)
  | member (name : String)
  deriving Repr, DecidableEq

/-- The index that a name writes: the digits of a number that is written with them again. -/
def index? (name : String) : Option Nat :=
  if name.toList.all Char.isDigit && Notation.shortest (Numeric.read name) = name then
    some (Numeral.ofDigits name.toList)
  else none

/-- The step that a group stands for. -/
def Step.ofGroup (group : List Char) : Step :=
  let name := String.ofList group
  if group.isEmpty then next else (index? name).elim (member name) item

/-- The content of a group behind its opening bracket, and what follows its closing one.
`depth` counts the brackets that are open inside it. -/
def group? (depth : Nat) : List Char → Option (List Char × List Char)
  | [] => none
  | '[' :: rest => (group? (depth + 1) rest).map fun (group, rest) => ('[' :: group, rest)
  | ']' :: rest =>
    match depth with
    | 0 => some ([], rest)
    | depth + 1 => (group? depth rest).map fun (group, rest) => (']' :: group, rest)
  | c :: rest => (group? depth rest).map fun (group, rest) => (c :: group, rest)

/-- The steps that a key takes behind its front, at most `fuel` of them by groups.  Text behind
a group is passed over.  What is left, or a group that does not end, is one member. -/
def stepsFrom (fuel : Nat) (text : List Char) : List Step :=
  match fuel, text.dropWhile (· ≠ '[') with
  | _, [] => []
  | 0, rest => [.member (String.ofList rest)]
  | fuel + 1, '[' :: inner =>
    match group? 0 inner with
    | some (group, rest) => .ofGroup group :: stepsFrom fuel rest
    | none => [.member (String.ofList ('[' :: inner))]
  | _ + 1, rest => [.member (String.ofList rest)]

/-- The steps that a key takes. -/
def steps (key : List Char) : List Step :=
  let front := key.takeWhile (· ≠ '[')
  (if front.isEmpty then [] else [.member (String.ofList front)]) ++ stepsFrom maxDepth key

/-- The name that no record takes as a member. -/
def reservedName : String := "__proto__"

/-- The value that has a leaf behind one step.  A list behind an empty group is the list of
its items, whatever its length, and an item beyond the longest list is one of a list that grew
too long. -/
def under (step : Step) (leaf : QueryTree) : QueryTree :=
  match step, leaf with
  | .next, list items => list items
  | .next, record members (some next) => record members (some next)
  | .next, leaf => list [some leaf]
  | .item index, leaf =>
    if index < maxItems then list (List.replicate index none ++ [some leaf])
    else record [(toString index, leaf)] (some (index + 1))
  | .member name, leaf =>
    record (if name = reservedName then [] else [(name, leaf)]) none

/-- The items of a list as members, each under its index. -/
def indexed (index : Nat) : List (Option QueryTree) → List (String × QueryTree)
  | [] => []
  | none :: rest => indexed (index + 1) rest
  | some item :: rest => (toString index, item) :: indexed (index + 1) rest

/-- A list of items, or the record of them if they are too many. -/
def ofItems (items : List (Option QueryTree)) : QueryTree :=
  if maxItems < items.length then record (indexed 0 items) (some items.length) else list items

/-- A value that is not a text. -/
def isNested : QueryTree → Bool
  | text _ => false
  | _ => true

/-- The value of a member. -/
def lookup (name : String) (members : List (String × QueryTree)) : Option QueryTree :=
  (members.find? (·.1 = name)).map Prod.snd

/-- A member with its index raised by one. -/
def raised (member : String × QueryTree) : String × QueryTree :=
  ((index? member.1).elim member.1 fun index => toString (index + 1), member.2)

/-- The value of a member that a text names by itself. -/
def flag : QueryTree := text "true"

/-- A value with a nonempty text added: one more item of a list, or of the record of a list
that grew too long, and the name of a member of any other record. -/
def add (s : String) : QueryTree → QueryTree
  | text earlier => list [some (text earlier), some (text s)]
  | list items => ofItems (items ++ [some (text s)])
  | record members (some next) =>
    record (KeyOrder.insert Prod.fst (toString next, text s) members) (some (next + 1))
  | record members none =>
    record (if s = reservedName then members else KeyOrder.insert Prod.fst (s, flag) members)
      none

mutual

/-- The value of a key to which two are given.  Empty texts add nothing, lists are joined, and
a record takes the members of both. -/
def merge (earlier : QueryTree) : QueryTree → QueryTree
  | text s => if s = "" then earlier else earlier.add s
  | list later =>
    match earlier with
    | text s => ofItems (some (text s) :: later)
    | list items => ofItems (mergeItems items 0 later)
    | record members next =>
      record (mergeIndexed members 0 later) (next.map (max · later.length))
  | record later laterNext =>
    match earlier, laterNext with
    | text s, some next => record (("0", text s) :: later.map raised) (some (next + 1))
    | text s, none => list [some (text s), some (record later none)]
    | list items, next => record (mergeMembers (indexed 0 items) later) next
    | record members next, laterNext =>
      record (mergeMembers members later) (Option.merge max next laterNext)
termination_by structural later => later

/-- Adds the items of a list from a place on.  An item whose place is taken is merged if both
are nested, and goes to the end otherwise. -/
def mergeItems (items : List (Option QueryTree)) (index : Nat) :
    List (Option QueryTree) → List (Option QueryTree)
  | [] => items
  | none :: rest => mergeItems items (index + 1) rest
  | some item :: rest =>
    let items :=
      match items[index]?.join with
      | some earlier =>
        if earlier.isNested && item.isNested then items.set index (some (merge earlier item))
        else items ++ [some item]
      | none =>
        (items ++ List.replicate (index + 1 - items.length) none).set index (some item)
    mergeItems items (index + 1) rest
termination_by structural later => later

/-- Adds the items of a list to a record, each under its index. -/
def mergeIndexed (members : List (String × QueryTree)) (index : Nat) :
    List (Option QueryTree) → List (String × QueryTree)
  | [] => members
  | none :: rest => mergeIndexed members (index + 1) rest
  | some item :: rest =>
    let name := toString index
    let merged := match lookup name members with
      | some earlier => merge earlier item
      | none => item
    mergeIndexed (KeyOrder.insert Prod.fst (name, merged) members) (index + 1) rest
termination_by structural later => later

/-- Adds the members of a record to those of another. -/
def mergeMembers (members : List (String × QueryTree)) :
    List (String × QueryTree) → List (String × QueryTree)
  | [] => members
  | (name, value) :: rest =>
    let merged := match lookup name members with
      | some earlier => merge earlier value
      | none => value
    mergeMembers (KeyOrder.insert Prod.fst (name, merged) members) rest
termination_by structural later => later

end

/-- A query with brackets for their escapes. -/
def withBrackets : List Char → List Char
  | '%' :: '5' :: 'B' :: rest => '[' :: withBrackets rest
  | '%' :: '5' :: 'b' :: rest => '[' :: withBrackets rest
  | '%' :: '5' :: 'D' :: rest => ']' :: withBrackets rest
  | '%' :: '5' :: 'd' :: rest => ']' :: withBrackets rest
  | c :: rest => c :: withBrackets rest
  | [] => []

/-- A text cut behind the first closing bracket that an equals sign follows. -/
def cutBehindGroup? : List Char → Option (List Char × List Char)
  | ']' :: '=' :: rest => some ([']'], rest)
  | c :: rest => (cutBehindGroup? rest).map fun (key, value) => (c :: key, value)
  | [] => none

/-- The key and the value of a part.  The equals sign behind a group goes before any other, and
a part without one has an empty value. -/
def ofPart (part : List Char) : String × String :=
  let (key, value) := (cutBehindGroup? part).getD
    (part.takeWhile (· ≠ '='), (part.dropWhile (· ≠ '=')).drop 1)
  (Percent.decodeQuery key, Percent.decodeQuery value)

/-- The value that a key with two values has before its groups are followed. -/
def together (earlier : QueryTree) (s : String) : QueryTree :=
  match earlier with
  | list items => list (items ++ [some (text s)])
  | other => list [some other, some (text s)]

/-- The values of each key, at the place of its first one. -/
def gather (parts : List (String × String)) : List (String × QueryTree) :=
  parts.foldl (fun done (key, value) =>
    let given := match lookup key done with
      | some earlier => together earlier value
      | none => text value
    KeyOrder.insert Prod.fst (key, given) done) []

/-- The value of a query. -/
def ofQuery (query : List Char) : QueryTree :=
  let parts := (Text.parts '&' (withBrackets query)).take maxParts
  (gather (parts.map ofPart)).foldl (fun done (key, value) =>
    match steps key.toList with
    | [] => done
    | path => merge done (path.foldr under value)) (record [] none)

mutual

/-- The value that has been read.  A list closes up where it has no items. -/
def value : QueryTree → Console.QueryValue
  | text s => .text s
  | list items => .list (values items)
  | record members _ => .record (memberValues members)
termination_by structural tree => tree

/-- The values of the items that have been given. -/
def values : List (Option QueryTree) → List Console.QueryValue
  | [] => []
  | none :: rest => values rest
  | some item :: rest => value item :: values rest
termination_by structural items => items

/-- The values of members under their names. -/
def memberValues : List (String × QueryTree) → List (String × Console.QueryValue)
  | [] => []
  | (name, item) :: rest => (name, value item) :: memberValues rest
termination_by structural members => members

end

/-- The value that a query gives to a name. -/
def get? (query : List Char) (name : String) : Option Console.QueryValue :=
  match ofQuery query with
  | record members _ => (lookup name members).map value
  | _ => none

end QueryTree

end FieldCalculus.Web
