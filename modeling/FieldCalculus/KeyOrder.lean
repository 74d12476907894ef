import FieldCalculus.Number.Numeral
/-!
# Key order

Records keyed by name list their entries in this order: first the keys that write an
array index, ascending, then the others as they were first given.  A repeated key
keeps its place and takes the last entry.
-/

namespace FieldCalculus.KeyOrder

/-- The greatest array index. -/
def maxIndex : Nat := 4294967294

/-- The array index that a key writes: decimal digits without leading zeros, not above
`maxIndex`. -/
def index? (key : String) : Option Nat :=
  let digits := key.toList
  let n := Numeral.ofDigits digits
  if digits.all Char.isDigit && Nat.toDigits 10 n = digits && n ≤ maxIndex then some n else none

variable {β : Type}

/-- Adds an entry, in the place of the entry with its key if there is one. -/
def insert (key : β → String) (entry : β) : List β → List β
  | [] => [entry]
  | e :: rest => if key e = key entry then entry :: rest else e :: insert key entry rest

/-- The last entry of each key, at the place of its first one. -/
def distinct (key : β → String) (entries : List β) : List β :=
  entries.foldl (fun done e => insert key e done) []

/-- Distinct entries with array indices first. -/
def sorted (key : β → String) (entries : List β) : List β :=
  let indexed := entries.filterMap fun e => (index? (key e)).map (·, e)
  let others := entries.filter fun e => (index? (key e)).isNone
  (indexed.mergeSort fun a b => a.1 ≤ b.1).map Prod.snd ++ others

/-- Entries in the order of their record. -/
def ordered (key : β → String) (entries : List β) : List β :=
  sorted key (distinct key entries)

end FieldCalculus.KeyOrder
