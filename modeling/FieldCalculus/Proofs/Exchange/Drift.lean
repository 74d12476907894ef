import FieldCalculus.Proofs.Exact.Angle
import FieldCalculus.Proofs.Exact.Rational
import FieldCalculus.EnergyField.Coupling
/-!
# The drift of two angles

Both angles of an interaction move a tenth of their difference toward each other.  The
difference is taken without going across the full turn, so two angles that are near only across
it drift apart on the circle, and a pair that is locked across it loses its lock.
-/

namespace FieldCalculus

variable {α : Type} [ExactScalar α]

namespace Energy

/-- The difference of two angles without going across the full turn. -/
def gap (a b : Energy α) : α := |a.angle - b.angle|

/-- The distance of two angles on the circle. -/
def arc (a b : Energy α) : α := min (a.gap b) (Scalar.tau - a.gap b)

theorem gap_nonneg (a b : Energy α) : 0 ≤ a.gap b := abs_nonneg _

theorem gap_lt {a b : Energy α} (ha : 0 ≤ a.angle ∧ a.angle < Scalar.tau)
    (hb : 0 ≤ b.angle ∧ b.angle < Scalar.tau) : a.gap b < Scalar.tau :=
  abs_lt.mpr ⟨by linarith [ha.1, hb.2], by linarith [ha.2, hb.1]⟩

theorem inPhaseWith_iff {a b : Energy α} (h : a.gap b < Scalar.tau) :
    a.inPhaseWith b = true ↔ a.gap b < 1 / 10 ∨ Scalar.tau - a.gap b < 1 / 10 := by
  have htolerance : (lockTolerance : α) = 1 / 10 := by
    norm_num [lockTolerance, ExactScalar.decimal_eq]
  have hacross : |a.gap b - Scalar.tau| = Scalar.tau - a.gap b := by
    rw [abs_sub_comm, abs_of_pos (sub_pos.mpr h)]
  simp only [inPhaseWith, ExactScalar.abs_eq, Bool.or_eq_true, decide_eq_true_eq, htolerance]
  rw [← gap, hacross]

end Energy

namespace EnergyField

variable {f g : EnergyField α}

/-- Angles within one turn stay there as they drift, so neither of them is wrapped. -/
theorem angle_interact (hf : 0 ≤ f.energy.angle ∧ f.energy.angle < Scalar.tau)
    (hg : 0 ≤ g.energy.angle ∧ g.energy.angle < Scalar.tau) :
    (f.interact g).1.energy.angle = f.energy.angle + (g.energy.angle - f.energy.angle) / 10 ∧
      (f.interact g).2.energy.angle =
        g.energy.angle + (f.energy.angle - g.energy.angle) / 10 := by
  have hdrift : ∀ x y : α, 0 ≤ x ∧ x < Scalar.tau → 0 ≤ y ∧ y < Scalar.tau →
      wrapAngle (x + (y - x) / 10) = x + (y - x) / 10 := by
    intro x y hx hy
    apply wrapAngle_of_mem
    constructor <;> linarith [hx.1, hx.2, hy.1, hy.2]
  constructor
  · calc
      (f.interact g).1.energy.angle =
          wrapAngle (f.energy.angle + 0.1 * (g.energy.angle - f.energy.angle)) := rfl
      _ = wrapAngle (f.energy.angle + (g.energy.angle - f.energy.angle) / 10) := by
        rw [ExactScalar.tenth_eq, one_div_mul_eq_div]
      _ = _ := hdrift _ _ hf hg
  · calc
      (f.interact g).2.energy.angle =
          wrapAngle (g.energy.angle + -(0.1 * (g.energy.angle - f.energy.angle))) := rfl
      _ = wrapAngle (g.energy.angle + (f.energy.angle - g.energy.angle) / 10) := by
        rw [ExactScalar.tenth_eq, one_div_mul_eq_div, ← neg_div, neg_sub]
      _ = _ := hdrift _ _ hg hf

theorem gap_interact (hf : 0 ≤ f.energy.angle ∧ f.energy.angle < Scalar.tau)
    (hg : 0 ≤ g.energy.angle ∧ g.energy.angle < Scalar.tau) :
    (f.interact g).1.energy.gap (f.interact g).2.energy = 4 / 5 * f.energy.gap g.energy := by
  obtain ⟨hleft, hright⟩ := angle_interact hf hg
  have hdifference : ∀ x y : α, x + (y - x) / 10 - (y + (x - y) / 10) = 4 / 5 * (x - y) := by
    intro x y
    ring
  have hfactor : (0 : α) ≤ 4 / 5 := by norm_num
  rw [Energy.gap, hleft, hright, hdifference, abs_mul, abs_of_nonneg hfactor, Energy.gap]

end EnergyField

/-- Four fifths of a gap are no longer on the circle than the gap, unless that goes more than
five ninths around. -/
theorem min_shrunk_le_iff {gap turn : α} (hgap : 0 ≤ gap) (hturn : gap < turn) :
    min (4 / 5 * gap) (turn - 4 / 5 * gap) ≤ min gap (turn - gap) ↔ gap ≤ 5 / 9 * turn := by
  simp only [le_min_iff, min_le_iff]
  constructor
  · rintro ⟨_, hshort | hlong⟩ <;> linarith
  · intro h
    exact ⟨Or.inl (by linarith), Or.inl (by linarith)⟩

/-- An interaction of two fields with angles within one turn does not move these apart on the
circle if and only if their difference is at most five ninths of the turn.  Two locked angles
stay locked if and only if they are locked without going across the full turn. -/
theorem arc_not_grown_iff_gap_le {f g : EnergyField α} (htau : (1 : α) < Scalar.tau)
    (hf : 0 ≤ f.energy.angle ∧ f.energy.angle < Scalar.tau)
    (hg : 0 ≤ g.energy.angle ∧ g.energy.angle < Scalar.tau) :
    let f' := (f.interact g).1
    let g' := (f.interact g).2
    (f'.energy.arc g'.energy ≤ f.energy.arc g.energy ↔
      |f.energy.angle - g.energy.angle| ≤ 5 / 9 * Scalar.tau) ∧
    (f.energy.inPhaseWith g.energy = true →
      (f'.energy.inPhaseWith g'.energy = true ↔ |f.energy.angle - g.energy.angle| < 1 / 10)) := by
  intro f' g'
  have hbefore := Energy.gap_lt hf hg
  have hnonneg := f.energy.gap_nonneg g.energy
  have hgap : f'.energy.gap g'.energy = 4 / 5 * f.energy.gap g.energy :=
    EnergyField.gap_interact hf hg
  rw [← Energy.gap]
  constructor
  · rw [Energy.arc, Energy.arc, hgap]
    exact min_shrunk_le_iff hnonneg hbefore
  · have hafter : f'.energy.gap g'.energy < Scalar.tau := by
      rw [hgap]
      linarith
    rw [Energy.inPhaseWith_iff hbefore, Energy.inPhaseWith_iff hafter, hgap]
    rintro (hdirect | hacross)
    · exact iff_of_true (Or.inl (by linarith)) hdirect
    · -- the gap is almost a full turn, and a fifth of it is more than the tolerance
      refine iff_of_false ?_ (by linarith)
      rintro (hlocked | hlocked) <;> linarith

/-- Angles a little more than half a turn apart are still brought together. -/
theorem arc_not_grown_iff_gap_le_beyond_half :
    let f : EnergyField ℚ := EnergyField.create "a" 100
    let g : EnergyField ℚ :=
      { EnergyField.create "b" 50 with energy.angle := 33 / 10 }
    (1 < (Scalar.tau : ℚ) ∧ (0 ≤ f.energy.angle ∧ f.energy.angle < Scalar.tau) ∧
      (0 ≤ g.energy.angle ∧ g.energy.angle < Scalar.tau) ∧ Scalar.tau / 2 < g.energy.angle) ∧
    (f.interact g).1.energy.arc (f.interact g).2.energy ≤ f.energy.arc g.energy := by
  intro f g
  have htau : 1 < (Scalar.tau : ℚ) := by decide +kernel
  have hf : 0 ≤ f.energy.angle ∧ f.energy.angle < Scalar.tau := by decide +kernel
  have hg : 0 ≤ g.energy.angle ∧ g.energy.angle < Scalar.tau := by decide +kernel
  have hhalf : Scalar.tau / 2 < g.energy.angle := by decide +kernel
  have hgap : |f.energy.angle - g.energy.angle| ≤ 5 / 9 * Scalar.tau := by decide +kernel
  exact ⟨⟨htau, hf, hg, hhalf⟩, (arc_not_grown_iff_gap_le htau hf hg).1.mpr hgap⟩

/-- Two angles that are locked across the full turn drift apart and lose their lock. -/
theorem arc_grown_across_turn :
    let f : EnergyField ℚ := { EnergyField.create "a" 100 with energy.angle := 1 / 20 }
    let g : EnergyField ℚ := { EnergyField.create "b" 50 with energy.angle := 25 / 4 }
    ((0 ≤ f.energy.angle ∧ f.energy.angle < Scalar.tau) ∧
      (0 ≤ g.energy.angle ∧ g.energy.angle < Scalar.tau)) ∧
    ¬ (f.interact g).1.energy.arc (f.interact g).2.energy ≤ f.energy.arc g.energy ∧
    f.energy.inPhaseWith g.energy = true ∧
    (f.interact g).1.energy.inPhaseWith (f.interact g).2.energy = false := by
  decide +kernel

end FieldCalculus
