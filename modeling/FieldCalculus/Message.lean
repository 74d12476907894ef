/-!
# Messages

What a run prints, line by line.
-/

namespace FieldCalculus

/-- A line of console output. -/
inductive Message
  | log (text : String)
  | warning (text : String)
  deriving Repr, DecidableEq

end FieldCalculus
