import Mathlib.Algebra.Order.Field.Basic
import Mathlib.Algebra.Order.Group.Unbundled.Abs
import Mathlib.Tactic.NormNum
import FieldCalculus.Number.Scalar
/-!
# Exact arithmetic

Scalars that form an ordered field and compute without rounding.  A full turn is any
positive constant, the square root is any function, and the exponential is any function
that takes the arguments up to zero into `(0, 1]`.  Nothing is infinite or undefined.
-/

namespace FieldCalculus

/-- Scalars that compute exactly. -/
class ExactScalar (α : Type) extends Field α, LinearOrder α, IsStrictOrderedRing α, Scalar α where
  decimal_def : ∀ digits places : ℕ,
    toScalar.toOfScientific.ofScientific digits true places = (digits : α) / 10 ^ places
  beq_def : ∀ x y : α, toScalar.toBEq.beq x y = decide (x = y)
  tau_def : (0 : α) < toScalar.tau
  abs_def : ∀ x : α, toScalar.abs x = |x|
  least_def : ∀ x y : α, toScalar.least x y = min x y
  greatest_def : ∀ x y : α, toScalar.greatest x y = max x y
  /-- The remainder differs from the dividend by a multiple of the divisor, is smaller than
  the divisor and has the sign of the dividend. -/
  rem_def : ∀ x y : α, 0 < y → ∃ k : ℤ,
    x = k * y + toScalar.rem x y ∧ |toScalar.rem x y| < y ∧ 0 ≤ x * toScalar.rem x y
  exp_def : ∀ x : α, x ≤ 0 → 0 < toScalar.exp x ∧ toScalar.exp x ≤ 1
  exp2_def : ∀ n : ℕ, toScalar.exp2 (n : α) = 2 ^ n
  isFinite_def : ∀ x : α, toScalar.isFinite x = true
  units_def : ∀ x : α, ∃ n : ℕ, toScalar.units? x = some n ∧
    (0 ≤ x → (n : α) ≤ x ∧ x < n + 1) ∧ (x < 0 → n = 0)
  text_def : ∀ n : ℕ, toScalar.text (n : α) = toString n

namespace ExactScalar

variable {α : Type} [ExactScalar α]

/-- A decimal constant is the fraction it writes. -/
theorem decimal_eq (digits places : ℕ) :
    (OfScientific.ofScientific digits true places : α) = digits / 10 ^ places :=
  decimal_def digits places

theorem zero_eq : (0.0 : α) = 0 := by norm_num [decimal_eq]

theorem one_eq : (1.0 : α) = 1 := by norm_num [decimal_eq]

theorem two_eq : (2.0 : α) = 2 := by norm_num [decimal_eq]

theorem half_eq : (0.5 : α) = 1 / 2 := by norm_num [decimal_eq]

theorem tenth_eq : (0.1 : α) = 1 / 10 := by norm_num [decimal_eq]

theorem twentieth_eq : (0.05 : α) = 1 / 20 := by norm_num [decimal_eq]

theorem tau_pos : (0 : α) < Scalar.tau := tau_def

theorem abs_eq (x : α) : Scalar.abs x = |x| := abs_def x

theorem exists_rem (x : α) {y : α} (hy : 0 < y) : ∃ k : ℤ,
    x = k * y + Scalar.rem x y ∧ |Scalar.rem x y| < y ∧ 0 ≤ x * Scalar.rem x y :=
  rem_def x y hy

theorem exp2_natCast (n : ℕ) : Scalar.exp2 (n : α) = ((2 ^ n : ℕ) : α) := by
  rw [Nat.cast_pow]
  exact exp2_def n

theorem units?_natCast (n : ℕ) : Scalar.units? (n : α) = some n := by
  obtain ⟨m, (hm : Scalar.units? (n : α) = some m), hspec, _⟩ := units_def (n : α)
  obtain ⟨hlow, hhigh⟩ := hspec (Nat.cast_nonneg n)
  have hle : m ≤ n := by exact_mod_cast hlow
  have hlt : n < m + 1 := by exact_mod_cast hhigh
  rw [hm, Nat.le_antisymm hle (Nat.lt_succ_iff.mp hlt)]

theorem units?_exp2 (n : ℕ) : Scalar.units? (Scalar.exp2 (n : α)) = some (2 ^ n) := by
  rw [exp2_natCast, units?_natCast]

end ExactScalar

end FieldCalculus
