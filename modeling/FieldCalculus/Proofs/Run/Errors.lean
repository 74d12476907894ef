import FieldCalculus.Proofs.Operation.Applied
/-!
# Where errors are reported

Only a fault makes an outcome that reports an error: no operation that is applied gives
one.  The texts of faults and skips are never empty.
-/

namespace FieldCalculus

variable {α : Type}

/-- The error text of an outcome that reports a fault. -/
def Outcome.error? : Outcome α → Option String
  | violation error => some error
  | failure error => some error
  | _ => none

theorem Outcome.isSome_error?_iff {o : Outcome α} :
    o.error?.isSome ↔ o.typeName = "conservation_violation" ∨ o.typeName = "execution_error" := by
  unfold typeName
  cases o <;> simp [error?]

theorem Skip.reason_ne_empty (s : Skip) : s.reason ≠ "" := by
  unfold reason
  cases s <;> simp only [ne_eq, String.append_eq_empty_iff, String.reduceEq, false_and,
    not_false_eq_true]

variable [Scalar α]

theorem Fault.message_ne_empty (fault : Fault α) : fault.message ≠ "" := by
  unfold message
  cases fault <;> simp only [ne_eq, String.append_eq_empty_iff, String.reduceEq, false_and,
    not_false_eq_true]

theorem Outcome.error?_ofFault (fault : Fault α) :
    (Outcome.ofFault fault).error? = some fault.message := by
  cases fault <;> rfl

theorem Operation.error?_of_applied {r : Registry α} {maxDepth : α} {op : Operation α}
    {outcome : Outcome α} (h : (op.apply r maxDepth).2 = .applied outcome) :
    outcome.error? = none := by
  obtain ⟨stored, happlies⟩ := apply_eq_applied_iff.mp h
  cases happlies <;> rfl

end FieldCalculus
