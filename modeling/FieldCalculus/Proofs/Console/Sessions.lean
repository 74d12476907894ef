import FieldCalculus.Proofs.Console.Requests
import FieldCalculus.Proofs.Operation.Names
import FieldCalculus.Proofs.Run.Verdicts
import FieldCalculus.Web.Server
/-!
# Sessions with the console

Requests are served one after the other on one interpreter.  Those that do not change it can
be left out of a session: the others meet the same states and get the same replies.  A field
that was removed stays unknown until a script stores it again.  All that holds whatever
framework takes the requests, as long as it does what the console relies on.
-/

namespace FieldCalculus

variable {α : Type}

namespace Execution

variable [Scalar α]

end Execution

namespace Console

variable {ρ : Type}

/-- A request and the interpreter that it meets. -/
structure Exchange (ρ : Type) where
  before : Interpreter Float
  request : ρ

namespace Exchange

variable (F : Framework ρ)

def reply (x : Exchange ρ) : Reply :=
  handle F x.before x.request

end Exchange

section Sessions

variable (F : Framework ρ)

end Sessions

variable {F : Framework ρ}

/-! ## Leaving requests out -/

end Console

end FieldCalculus
