import Mathlib.Algebra.Order.Archimedean.Basic
import Mathlib.Data.Rat.Floor
import Mathlib.Tactic.Linarith
import Mathlib.Tactic.Positivity
import Mathlib.Tactic.Ring
import FieldCalculus.Proofs.Exact
/-!
# Exact arithmetic on rational numbers

The rational numbers compute exactly once a full turn, a square root and an exponential
are chosen among them.  The square root is right to six places, and the exponential is a
fraction that is one at zero and decreases toward zero on the negative numbers.
-/

namespace FieldCalculus.Rational

/-- The integer next to a rational number on the way to zero. -/
def truncate (x : ℚ) : ℤ := if 0 ≤ x then ⌊x⌋ else ⌈x⌉

/-- A full turn to fifteen places. -/
def tau : ℚ := 6283185307179586 / 10 ^ 15

/-- A square root to six places. -/
def sqrt (x : ℚ) : ℚ := Nat.sqrt ⌊x * 10 ^ 12⌋.toNat / 10 ^ 6

/-- A positive increasing function that is one at zero. -/
def exp (x : ℚ) : ℚ := if x ≤ 0 then 1 / (1 - x) else 1 + x

/-- Two to the power of the whole units in a number. -/
def exp2 (x : ℚ) : ℚ := 2 ^ ⌊x⌋.toNat

/-- Remainder of a division that rounds toward zero. -/
def rem (x y : ℚ) : ℚ := x - truncate (x / y) * y

theorem abs_sub_truncate_lt (z : ℚ) : |z - truncate z| < 1 := by
  unfold truncate
  split
  · have hlow := Int.floor_le z
    have hhigh := Int.lt_floor_add_one z
    rw [abs_lt]
    constructor <;> linarith
  · have hlow := Int.le_ceil z
    have hhigh := Int.ceil_lt_add_one z
    rw [abs_lt]
    constructor <;> linarith

theorem mul_sub_truncate_nonneg (z : ℚ) : 0 ≤ z * (z - truncate z) := by
  unfold truncate
  split
  · next hz => exact mul_nonneg hz (sub_nonneg.mpr (Int.floor_le z))
  · next hz =>
    exact mul_nonneg_of_nonpos_of_nonpos (not_le.mp hz).le (sub_nonpos.mpr (Int.le_ceil z))

theorem rem_eq_mul {y : ℚ} (x : ℚ) (hy : 0 < y) :
    rem x y = y * (x / y - truncate (x / y)) := by
  have hx : y * (x / y) = x := mul_div_cancel₀ x hy.ne'
  rw [rem, mul_sub, hx, mul_comm y]

theorem abs_rem_lt {y : ℚ} (x : ℚ) (hy : 0 < y) : |rem x y| < y := by
  rw [rem_eq_mul x hy, abs_mul, abs_of_pos hy]
  exact mul_lt_of_lt_one_right hy (abs_sub_truncate_lt (x / y))

theorem mul_rem_nonneg {y : ℚ} (x : ℚ) (hy : 0 < y) : 0 ≤ x * rem x y := by
  have hx : x = y * (x / y) := (mul_div_cancel₀ x hy.ne').symm
  have hprod : x * rem x y = y * y * (x / y * (x / y - truncate (x / y))) := by
    rw [rem_eq_mul x hy]
    nth_rewrite 1 [hx]
    ring
  rw [hprod]
  exact mul_nonneg (mul_self_nonneg y) (mul_sub_truncate_nonneg (x / y))

theorem exp_of_nonpos {x : ℚ} (hx : x ≤ 0) : 0 < exp x ∧ exp x ≤ 1 := by
  have hpos : 0 < 1 - x := by linarith
  rw [exp, if_pos hx]
  constructor
  · positivity
  · rw [div_le_one hpos]
    linarith

theorem floor_toNat_spec (x : ℚ) :
    (0 ≤ x → ((⌊x⌋.toNat : ℕ) : ℚ) ≤ x ∧ x < (⌊x⌋.toNat : ℕ) + 1) ∧
      (x < 0 → ⌊x⌋.toNat = 0) := by
  constructor
  · intro hx
    have hcast : ((⌊x⌋.toNat : ℕ) : ℚ) = ⌊x⌋ := by
      exact_mod_cast Int.toNat_of_nonneg (Int.floor_nonneg.mpr hx)
    rw [hcast]
    exact ⟨Int.floor_le x, Int.lt_floor_add_one x⟩
  · intro hx
    rw [Int.toNat_eq_zero]
    exact (Int.floor_lt_zero.mpr hx).le

end FieldCalculus.Rational

namespace FieldCalculus

instance : ExactScalar ℚ where
  toField := inferInstance
  toLinearOrder := inferInstance
  toIsOrderedCancelAddMonoid := inferInstance
  toZeroLEOneClass := inferInstance
  toPosMulStrictMono := inferInstance
  toMulPosStrictMono := inferInstance
  toOfScientific := inferInstance
  beq x y := decide (x = y)
  decLt := inferInstance
  decLe := inferInstance
  tau := Rational.tau
  abs x := |x|
  sqrt := Rational.sqrt
  exp := Rational.exp
  exp2 := Rational.exp2
  least := min
  greatest := max
  rem := Rational.rem
  isFinite _ := true
  units? x := some ⌊x⌋.toNat
  text x := toString x
  fixed _ x := toString x
  decimal_def digits places := by
    change Rat.ofScientific digits true places = _
    rw [Rat.ofScientific_true_def, Rat.mkRat_eq_div]
    push_cast
    rfl
  beq_def _ _ := rfl
  tau_def := by norm_num [Rational.tau]
  abs_def _ := rfl
  least_def _ _ := rfl
  greatest_def _ _ := rfl
  rem_def x y hy :=
    ⟨Rational.truncate (x / y), by rw [Rational.rem]; ring, Rational.abs_rem_lt x hy,
      Rational.mul_rem_nonneg x hy⟩
  exp_def _ hx := Rational.exp_of_nonpos hx
  exp2_def n := by
    rw [Rational.exp2, Int.floor_natCast, Int.toNat_natCast]
  isFinite_def _ := rfl
  units_def x := ⟨⌊x⌋.toNat, rfl, Rational.floor_toNat_spec x⟩
  text_def _ := rfl

end FieldCalculus
