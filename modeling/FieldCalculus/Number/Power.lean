/-!
# Powers

The powers of the two bases that numbers are scaled by.
-/

namespace FieldCalculus

/-- Two to the power `k`. -/
def twoTo (k : Nat) : Nat := Nat.pow 2 k

/-- Ten to the power `k`. -/
def tenTo (k : Nat) : Nat := Nat.pow 10 k

end FieldCalculus
