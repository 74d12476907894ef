import Mathlib.Algebra.Group.ModEq
import Mathlib.Tactic.Linarith
import FieldCalculus.Proofs.Exact
import FieldCalculus.Space
/-!
# Wrapped angles

In exact arithmetic a wrapped angle lies within one turn and differs from the given one by
whole turns.  Only one angle does both.
-/

namespace FieldCalculus

variable {α : Type} [ExactScalar α]

/-- The remainder is less than a turn away from zero, so one correction is enough. -/
theorem wrapAngle_eq (angle : α) :
    wrapAngle angle =
      if Scalar.rem angle Scalar.tau < 0 then Scalar.rem angle Scalar.tau + Scalar.tau
      else Scalar.rem angle Scalar.tau := by
  obtain ⟨_, _, hrem, _⟩ := ExactScalar.exists_rem angle ExactScalar.tau_pos
  have hbelow : ¬ Scalar.tau ≤
      (if Scalar.rem angle Scalar.tau < 0 then Scalar.rem angle Scalar.tau + Scalar.tau
        else Scalar.rem angle Scalar.tau) := by
    rw [not_le]
    split
    · linarith
    · exact (abs_lt.mp hrem).2
  rw [wrapAngle, ExactScalar.zero_eq]
  exact if_neg hbelow

theorem wrapAngle_mem (angle : α) : 0 ≤ wrapAngle angle ∧ wrapAngle angle < Scalar.tau := by
  obtain ⟨_, _, hrem, _⟩ := ExactScalar.exists_rem angle ExactScalar.tau_pos
  obtain ⟨hlow, hhigh⟩ := abs_lt.mp hrem
  rw [wrapAngle_eq]
  split
  · constructor <;> linarith
  · next hneg => exact ⟨not_lt.mp hneg, hhigh⟩

theorem wrapAngle_modEq (angle : α) : wrapAngle angle ≡ angle [PMOD Scalar.tau] := by
  obtain ⟨k, hk, _, _⟩ := ExactScalar.exists_rem angle ExactScalar.tau_pos
  rw [wrapAngle_eq, AddCommGroup.modEq_iff_zsmul']
  split
  · refine ⟨k - 1, ?_⟩
    rw [zsmul_eq_mul, Int.cast_sub, Int.cast_one]
    linarith
  · refine ⟨k, ?_⟩
    rw [zsmul_eq_mul]
    linarith

/-- Two angles within one turn that differ by whole turns are the same. -/
theorem eq_of_modEq_tau {x y : α} (h : x ≡ y [PMOD Scalar.tau])
    (hx : 0 ≤ x ∧ x < Scalar.tau) (hy : 0 ≤ y ∧ y < Scalar.tau) : x = y := by
  obtain ⟨k, hk⟩ := AddCommGroup.modEq_iff_zsmul'.mp h
  rw [zsmul_eq_mul] at hk
  have htau : (0 : α) ≤ Scalar.tau := ExactScalar.tau_pos.le
  have hlow : ((-1 : ℤ) : α) < k := by
    apply lt_of_mul_lt_mul_right _ htau
    rw [← hk]
    push_cast
    linarith
  have hhigh : (k : α) < (1 : ℤ) := by
    apply lt_of_mul_lt_mul_right _ htau
    rw [← hk]
    push_cast
    linarith
  have hzero : k = 0 := by
    have hlow' : -1 < k := by exact_mod_cast hlow
    have hhigh' : k < 1 := by exact_mod_cast hhigh
    omega
  rw [hzero, Int.cast_zero, zero_mul] at hk
  exact (sub_eq_zero.mp hk).symm

theorem wrapAngle_of_mem {angle : α} (h : 0 ≤ angle ∧ angle < Scalar.tau) :
    wrapAngle angle = angle :=
  eq_of_modEq_tau (wrapAngle_modEq angle) (wrapAngle_mem angle) h

end FieldCalculus
