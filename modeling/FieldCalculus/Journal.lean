import FieldCalculus.Number.Scalar
/-!
# The journal

A numbered record of every executed line.  Only the latest entries are kept, as many as
the capacity allows, and the numbers keep counting past the ones that are gone.
-/

namespace FieldCalculus

/-- What became of a line. -/
inductive Status
  | applied
  | skipped
  | failed
  deriving Repr, DecidableEq

/-- The name a status is written with. -/
def Status.name : Status → String
  | applied => "APPLIED"
  | skipped => "SKIPPED"
  | failed => "FAILED"

/-- One executed line. -/
structure JournalEntry where
  seq : Nat
  line : String
  status : Status
  /-- The key of its outcome in the result log. -/
  key : Option String
  /-- Why it was skipped or failed. -/
  reason : Option String
  deriving Repr, DecidableEq

/-- The latest entries, oldest first. -/
structure Journal (α : Type) where
  capacity : α
  entries : List JournalEntry
  nextSeq : Nat

namespace Journal

variable {α : Type} [Scalar α]

/-- How many entries are kept when nothing else is said. -/
def defaultCapacity : α := 10000.0

/-- A journal without entries. -/
def empty (capacity : α := defaultCapacity) : Journal α := ⟨capacity, [], 0⟩

/-- The number of entries kept. -/
def size (j : Journal α) : Nat := j.entries.length

/-- Drops the oldest entries of a list that is longer than the capacity: as many as there
are whole units in the excess. -/
def retain (capacity : α) (entries : List JournalEntry) : List JournalEntry :=
  let length : α := (entries.length : α)
  if capacity < length then
    match Scalar.units? (length - capacity) with
    | none => []
    | some excess => entries.drop excess
  else entries

/-- Records a line.  The entry is returned even if there is no room to keep it.  An empty
key or reason counts as none. -/
def record (j : Journal α) (line : String) (status : Status) (key reason : Option String) :
    JournalEntry × Journal α :=
  let entry : JournalEntry :=
    { seq := j.nextSeq
      line := line
      status := status
      key := key.filter (· ≠ "")
      reason := reason.filter (· ≠ "") }
  (entry, ⟨j.capacity, retain j.capacity (j.entries ++ [entry]), j.nextSeq + 1⟩)

/-- The latest entries, as many as there are whole units in a positive limit.  A positive
limit without a whole unit cuts nothing off. -/
def recent (j : Journal α) (limit : α) : List JournalEntry :=
  if 0.0 < limit then
    match Scalar.units? limit with
    | none => j.entries
    | some 0 => j.entries
    | some n => j.entries.drop (j.entries.length - n)
  else []

/-- The entries of failed lines. -/
def failures (j : Journal α) : List JournalEntry :=
  j.entries.filter (·.status = .failed)

end Journal

end FieldCalculus
