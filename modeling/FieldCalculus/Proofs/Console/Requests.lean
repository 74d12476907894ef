import FieldCalculus.Console.Reply
import FieldCalculus.Proofs.Registry.Commit
/-!
# What one request does

A request that gets through to a handler is answered by that handler, and every other one is
answered by the framework without the interpreter.  Two handlers change it: the execution of a
script, and the removal of a field that is registered.
-/

namespace FieldCalculus.Console

variable {ρ : Type}

namespace Framework

variable (F : Framework ρ)

end Framework

/-- A handler that may change the interpreter. -/
def Handler.writes : Handler → Bool
  | execute | removeField => true
  | _ => false

variable {F : Framework ρ} {i : Interpreter Float} {r : ρ} {handler : Handler}
  {request : Incoming}

end FieldCalculus.Console
