import FieldCalculus.Proofs.Exact.Angle
import FieldCalculus.Proofs.Exact.Rational
import FieldCalculus.Energy
/-!
# Combined states

Of all angles that differ by whole turns, wrapping picks the one in the first turn.  Angles can
therefore be wrapped before or after they are added, and states can be combined in any order as
far as their amounts and angles go.  Coherence is averaged, and an average of averages is not.
-/

namespace FieldCalculus

variable {α : Type} [ExactScalar α]

/-! ## Angles -/

theorem modEq_tau_iff {x y : α} :
    y ≡ x [PMOD Scalar.tau] ↔ ∃ k : ℤ, x - y = k * Scalar.tau := by
  simp only [AddCommGroup.modEq_iff_zsmul', zsmul_eq_mul]

theorem wrapAngle_eq_wrapAngle_iff {x y : α} :
    wrapAngle x = wrapAngle y ↔ x ≡ y [PMOD Scalar.tau] := by
  constructor
  · intro h
    have hy := wrapAngle_modEq y
    rw [← h] at hy
    exact (wrapAngle_modEq x).symm.trans hy
  · intro h
    have hwrapped : wrapAngle x ≡ wrapAngle y [PMOD Scalar.tau] :=
      ((wrapAngle_modEq x).trans h).trans (wrapAngle_modEq y).symm
    exact eq_of_modEq_tau hwrapped (wrapAngle_mem x) (wrapAngle_mem y)

theorem wrapAngle_wrapAngle_add (x y : α) : wrapAngle (wrapAngle x + y) = wrapAngle (x + y) :=
  wrapAngle_eq_wrapAngle_iff.mpr ((wrapAngle_modEq x).add_right y)

theorem wrapAngle_add_wrapAngle (x y : α) : wrapAngle (x + wrapAngle y) = wrapAngle (x + y) := by
  rw [add_comm x, wrapAngle_wrapAngle_add, add_comm y]

/-! ## States -/

namespace Energy

theorem combine_comm (a b : Energy α) : a.combine b = b.combine a := by
  unfold combine
  rw [add_comm a.total, add_comm a.kinetic, add_comm a.potential, add_comm a.entropy,
    add_comm a.coherence, add_comm a.angle]

theorem combine_assoc_but_coherence (a b c : Energy α) :
    (a.combine b).combine c =
      { a.combine (b.combine c) with coherence := ((a.combine b).combine c).coherence } := by
  have hangle : wrapAngle (wrapAngle (a.angle + b.angle) + c.angle) =
      wrapAngle (a.angle + wrapAngle (b.angle + c.angle)) := by
    rw [wrapAngle_wrapAngle_add, wrapAngle_add_wrapAngle, add_assoc]
  simp only [combine, add_assoc, hangle]

theorem coherence_combine (a b : Energy α) :
    (a.combine b).coherence = (a.coherence + b.coherence) / 2 := by
  rw [combine, ExactScalar.two_eq]

/-- The state that comes last has as much weight in the coherence as the other two together. -/
theorem coherence_combine_assoc_iff (a b c : Energy α) :
    ((a.combine b).combine c).coherence = (a.combine (b.combine c)).coherence ↔
      a.coherence = c.coherence := by
  simp only [coherence_combine]
  constructor
  · intro h
    linarith
  · intro h
    rw [h]
    ring

end Energy

/-- A wrapped angle lies in the first turn and differs from the given one by whole turns, and
angles are wrapped to the same one exactly if they differ by whole turns.  A summand can be wrapped
first, the states of two fields can be combined in either order, and those of three beginning with
either two: all but the coherence is the same, and the coherence is if the outer two have the same
one. -/
theorem wrapAngle_canonical :
    (∀ x : α, (0 ≤ wrapAngle x ∧ wrapAngle x < Scalar.tau) ∧
      ∃ k : ℤ, x - wrapAngle x = k * Scalar.tau) ∧
    (∀ x y : α, wrapAngle x = wrapAngle y ↔ ∃ k : ℤ, y - x = k * Scalar.tau) ∧
    (∀ x y : α, wrapAngle (wrapAngle x + y) = wrapAngle (x + y)) ∧
    (∀ a b : Energy α, a.combine b = b.combine a) ∧
    ∀ a b c : Energy α,
      (a.combine b).combine c =
        { a.combine (b.combine c) with coherence := ((a.combine b).combine c).coherence } ∧
      (((a.combine b).combine c).coherence = (a.combine (b.combine c)).coherence ↔
        a.coherence = c.coherence) :=
  ⟨fun x => ⟨wrapAngle_mem x, modEq_tau_iff.mp (wrapAngle_modEq x)⟩,
    fun _ _ => wrapAngle_eq_wrapAngle_iff.trans modEq_tau_iff,
    wrapAngle_wrapAngle_add,
    Energy.combine_comm,
    fun a b c => ⟨a.combine_assoc_but_coherence b c, a.coherence_combine_assoc_iff b c⟩⟩

example : wrapAngle (-1 : ℚ) = Rational.tau - 1 := by
  decide +kernel

end FieldCalculus
