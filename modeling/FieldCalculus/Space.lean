import FieldCalculus.Number.Scalar
/-!
# Angles and positions

Phases live on a circle of one full turn, fields at points of three-dimensional space.
-/

namespace FieldCalculus

variable {α : Type} [Scalar α]

/-- The angle in `[0, tau)` that differs from the given one by whole turns. -/
def wrapAngle (angle : α) : α :=
  let wrapped := Scalar.rem angle Scalar.tau
  let positive := if wrapped < 0.0 then wrapped + Scalar.tau else wrapped
  if Scalar.tau ≤ positive then 0.0 else positive

/-- A point or a direction in space. -/
structure Vector3 (α : Type) where
  x : α
  y : α
  z : α
  deriving Repr, BEq

namespace Vector3

/-- The point where fields are created. -/
def origin : Vector3 α := ⟨0.0, 0.0, 0.0⟩

/-- Euclidean distance between two points. -/
def distance (a b : Vector3 α) : α :=
  let dx := b.x - a.x
  let dy := b.y - a.y
  let dz := b.z - a.z
  Scalar.sqrt (dx * dx + dy * dy + dz * dz)

end Vector3

end FieldCalculus
