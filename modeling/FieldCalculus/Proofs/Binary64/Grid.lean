import Mathlib.Algebra.Order.Field.Power
import Mathlib.Data.Rat.Floor
import Mathlib.Tactic.Linarith
import Mathlib.Tactic.Positivity
import Mathlib.Tactic.Ring
/-!
# Rounding to a grid

Binary64 numbers of one binade lie on a grid of 53 binary digits, whose step is never below
`2 ^ -1074`.  A result is the exact value moved by at most half a step of its own grid.  What
the arithmetic guarantees follows from that alone: small errors, signs that are kept, and
powers of two that are not passed.
-/

namespace FieldCalculus.Binary64

/-- The step of the grid on which results near `v` lie is `2 ^ s`. -/
structure Step (v : ℚ) (s : ℤ) : Prop where
  least_le : -1074 ≤ s
  lt_pow : |v| < 2 ^ (s + 53)
  pow_le : s = -1074 ∨ 2 ^ (s + 52) ≤ |v|

/-- A whole number of steps. -/
def OnGrid (s : ℤ) (q : ℚ) : Prop :=
  ∃ k : ℤ, q = k * 2 ^ s

/-- `q` is a grid point within half a step of `v`. -/
def RoundsTo (v q : ℚ) : Prop :=
  ∃ s, Step v s ∧ OnGrid s q ∧ |q - v| ≤ 2 ^ s / 2

theorem two_zpow_pos (s : ℤ) : (0 : ℚ) < 2 ^ s := by positivity

theorem two_zpow_le {s t : ℤ} (h : s ≤ t) : (2 : ℚ) ^ s ≤ 2 ^ t :=
  zpow_le_zpow_right₀ (by norm_num) h

theorem le_of_two_zpow_le {s t : ℤ} (h : (2 : ℚ) ^ s ≤ 2 ^ t) : s ≤ t :=
  (zpow_le_zpow_iff_right₀ (by norm_num)).mp h

theorem two_zpow_add (s t : ℤ) : (2 : ℚ) ^ (s + t) = 2 ^ s * 2 ^ t :=
  zpow_add₀ (by norm_num) s t

theorem two_zpow_add_one (s : ℤ) : (2 : ℚ) ^ (s + 1) = 2 * 2 ^ s := by
  rw [two_zpow_add, mul_comm]
  rfl

theorem two_zpow_sub_natCast (N : ℤ) (k : ℕ) : (2 : ℚ) ^ (N - k) = 2 ^ N / 2 ^ k := by
  rw [zpow_sub₀ (by norm_num), zpow_natCast]

theorem Step.neg {v : ℚ} {s : ℤ} (h : Step v s) : Step (-v) s := by
  refine ⟨h.least_le, ?_, ?_⟩
  · rw [abs_neg]
    exact h.lt_pow
  · rw [abs_neg]
    exact h.pow_le

/-- A number below a power of two has a step at least 53 places below it, and the power itself
has one 52 places below it. -/
theorem Step.le_or_eq {v : ℚ} {s N : ℤ} (h : Step v s) (hN : -1021 ≤ N) (hv : |v| ≤ 2 ^ N) :
    s + 53 ≤ N ∨ s + 52 = N ∧ |v| = 2 ^ N := by
  rcases h.pow_le with hleast | hpow
  · left
    omega
  · have hle : s + 52 ≤ N := le_of_two_zpow_le (hpow.trans hv)
    rcases hle.lt_or_eq with hlt | heq
    · left
      omega
    · right
      refine ⟨heq, le_antisymm hv ?_⟩
      rw [← heq]
      exact hpow

/-- A number has one step. -/
theorem Step.unique {v : ℚ} {s t : ℤ} (hs : Step v s) (ht : Step v t) : s = t := by
  have hle : ∀ {s t : ℤ}, Step v s → Step v t → t ≤ s := by
    intro s t hs ht
    rcases ht.pow_le with hleast | hpow
    · exact hleast ▸ hs.least_le
    · have hlt : t + 52 < s + 53 :=
        (zpow_lt_zpow_iff_right₀ (by norm_num)).mp (hpow.trans_lt hs.lt_pow)
      omega
  exact le_antisymm (hle ht hs) (hle hs ht)

theorem OnGrid.sub {s : ℤ} {p q : ℚ} (hp : OnGrid s p) (hq : OnGrid s q) : OnGrid s (p - q) := by
  obtain ⟨j, rfl⟩ := hp
  obtain ⟨k, rfl⟩ := hq
  refine ⟨j - k, ?_⟩
  push_cast
  ring

theorem OnGrid.neg {s : ℤ} {q : ℚ} (h : OnGrid s q) : OnGrid s (-q) := by
  obtain ⟨k, rfl⟩ := h
  refine ⟨-k, ?_⟩
  push_cast
  ring

theorem onGrid_pow {s t : ℤ} (h : s ≤ t) : OnGrid s (2 ^ t) := by
  obtain ⟨n, rfl⟩ := Int.le.dest h
  refine ⟨2 ^ n, ?_⟩
  rw [two_zpow_add]
  push_cast
  rw [zpow_natCast]
  ring

/-- Half a step leads from one grid point to no other. -/
theorem OnGrid.eq_zero {s : ℤ} {q : ℚ} (h : OnGrid s q) (hq : |q| ≤ 2 ^ s / 2) : q = 0 := by
  obtain ⟨k, rfl⟩ := h
  have hs := two_zpow_pos s
  have hk : |(k : ℚ)| < 1 := by
    rw [abs_mul, abs_of_pos hs] at hq
    by_contra hone
    have hlarge : 1 * (2 : ℚ) ^ s ≤ |(k : ℚ)| * 2 ^ s :=
      mul_le_mul_of_nonneg_right (not_lt.mp hone) hs.le
    linarith
  have hzero : k = 0 := by
    have hint : |k| < 1 := by exact_mod_cast hk
    exact Int.abs_lt_one_iff.mp hint
  rw [hzero, Int.cast_zero, zero_mul]

theorem onGrid_of_abs_eq {v : ℚ} {s N : ℤ} (hs : s ≤ N) (hv : |v| = 2 ^ N) : OnGrid s v := by
  rcases abs_choice v with h | h
  · rw [← h, hv]
    exact onGrid_pow hs
  · rw [← neg_neg v, ← h, hv]
    exact (onGrid_pow hs).neg

namespace RoundsTo

variable {v q : ℚ}

theorem refl_of_onGrid {s : ℤ} (hstep : Step v s) (hv : OnGrid s v) : RoundsTo v v := by
  refine ⟨s, hstep, hv, ?_⟩
  rw [sub_self, abs_zero]
  positivity

/-- A number that needs no rounding is rounded to itself alone. -/
theorem eq_of_refl (h : RoundsTo v q) (hv : RoundsTo v v) : q = v := by
  obtain ⟨s, hstep, hgrid, hnear⟩ := h
  obtain ⟨t, hstep', hgrid', _⟩ := hv
  obtain rfl := hstep.unique hstep'
  exact sub_eq_zero.mp ((hgrid.sub hgrid').eq_zero hnear)

theorem zero : RoundsTo 0 0 := by
  refine refl_of_onGrid (s := -1074) ⟨le_rfl, ?_, Or.inl rfl⟩ ⟨0, by simp⟩
  rw [abs_zero]
  positivity

theorem neg (h : RoundsTo v q) : RoundsTo (-v) (-q) := by
  obtain ⟨s, hstep, hgrid, hnear⟩ := h
  refine ⟨s, hstep.neg, hgrid.neg, ?_⟩
  rw [← neg_sub', abs_neg]
  exact hnear

/-- Up to a power of two the error is at most half a step of the grid below it. -/
theorem abs_sub_le_pow (h : RoundsTo v q) {N : ℤ} (hN : -1021 ≤ N) (hv : |v| ≤ 2 ^ N) :
    |q - v| ≤ 2 ^ (N - 54) := by
  obtain ⟨s, hstep, hgrid, hnear⟩ := h
  rcases hstep.le_or_eq hN hv with hs | ⟨hs, hpow⟩
  · have hhalf : (2 : ℚ) ^ s / 2 = 2 ^ (s - 1) := by
      rw [zpow_sub_one₀ (by norm_num)]
      rfl
    calc
      |q - v| ≤ 2 ^ (s - 1) := hhalf ▸ hnear
      _ ≤ 2 ^ (N - 54) := two_zpow_le (by omega)
  · have hexact : q - v = 0 :=
      (hgrid.sub (onGrid_of_abs_eq (by omega) hpow)).eq_zero hnear
    rw [hexact, abs_zero]
    positivity

theorem abs_sub_le_div (h : RoundsTo v q) {N : ℤ} (k : ℕ) (hk : -1021 ≤ N - k)
    (hv : |v| ≤ 2 ^ N / 2 ^ k) : |q - v| ≤ 2 ^ N / 2 ^ (k + 54) := by
  rw [← two_zpow_sub_natCast] at hv ⊢
  have hnear := h.abs_sub_le_pow hk hv
  have hexponent : N - (k : ℤ) - 54 = N - ((k + 54 : ℕ) : ℤ) := by omega
  rwa [hexponent] at hnear

/-- No result passes a power of two that the exact value does not pass. -/
theorem abs_le_pow (h : RoundsTo v q) {N : ℤ} (hN : -1021 ≤ N) (hv : |v| ≤ 2 ^ N) :
    |q| ≤ 2 ^ N := by
  obtain ⟨s, hstep, hgrid, hnear⟩ := h
  rcases hstep.le_or_eq hN hv with hs | ⟨hs, hpow⟩
  · have hpos := two_zpow_pos s
    have hfull : (2 : ℚ) ^ (s + 53) = 2 ^ 53 * 2 ^ s := by
      rw [two_zpow_add, mul_comm]
      norm_num
    have hlt := hstep.lt_pow
    obtain ⟨k, rfl⟩ := hgrid
    have htriangle : |(k : ℚ) * 2 ^ s| ≤ |(k : ℚ) * 2 ^ s - v| + |v| := by
      simpa using abs_add_le ((k : ℚ) * 2 ^ s - v) v
    rw [hfull] at hlt
    rw [abs_mul, abs_of_pos hpos] at htriangle ⊢
    have hk : |(k : ℚ)| < 2 ^ 53 + 1 := by
      apply lt_of_mul_lt_mul_right _ hpos.le
      linarith
    have hint : |k| ≤ 2 ^ 53 := by
      have hcast : |k| < 2 ^ 53 + 1 := by exact_mod_cast hk
      omega
    calc
      |(k : ℚ)| * 2 ^ s ≤ 2 ^ 53 * 2 ^ s := by
        apply mul_le_mul_of_nonneg_right _ hpos.le
        exact_mod_cast hint
      _ = 2 ^ (s + 53) := hfull.symm
      _ ≤ 2 ^ N := two_zpow_le hs
  · have hexact : q - v = 0 :=
      (hgrid.sub (onGrid_of_abs_eq (by omega) hpow)).eq_zero hnear
    rw [sub_eq_zero.mp hexact, hpow]

/-- Rounding keeps signs, and it at most doubles: a number of half a step may become one. -/
theorem between (h : RoundsTo v q) (hv : 0 ≤ v) : 0 ≤ q ∧ q ≤ 2 * v := by
  obtain ⟨s, _, ⟨k, rfl⟩, hnear⟩ := h
  have hpos := two_zpow_pos s
  obtain ⟨hlow, hhigh⟩ := abs_le.mp hnear
  have hk : -1 < (k : ℚ) := by
    apply lt_of_mul_lt_mul_right _ hpos.le
    linarith
  have hnonneg : 0 ≤ k := by
    have hint : -1 < k := by exact_mod_cast hk
    omega
  refine ⟨by positivity, ?_⟩
  rcases hnonneg.eq_or_lt with hzero | hone
  · rw [← hzero, Int.cast_zero, zero_mul]
    linarith
  · have hstep : 1 * (2 : ℚ) ^ s ≤ k * 2 ^ s := by
      apply mul_le_mul_of_nonneg_right _ hpos.le
      exact_mod_cast hone
    linarith

end RoundsTo

end FieldCalculus.Binary64
