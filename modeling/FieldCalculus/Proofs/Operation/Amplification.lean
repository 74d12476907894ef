import FieldCalculus.Proofs.Exact.Rational
import FieldCalculus.Proofs.Operation.Applied
import FieldCalculus.Proofs.Run.WellFormed
/-!
# The amplification that a resonance reports

A resonance multiplies the energies of both fields by one factor and reports how much the pair
has grown.  A pair whose total is below zero is multiplied all the same, but it is reported as
one that has not changed.
-/

namespace FieldCalculus

variable {α : Type} [ExactScalar α]

theorem Energy.inPhaseWith_of_angle_eq {a b : Energy α} (h : a.angle = b.angle) :
    a.inPhaseWith b = true := by
  have hdifference : Scalar.abs (a.angle - b.angle) = 0 := by
    rw [h, sub_self, ExactScalar.abs_eq, abs_zero]
  have htolerance : (0 : α) < lockTolerance := by
    norm_num [lockTolerance, ExactScalar.decimal_eq]
  simp only [inPhaseWith, hdifference, decide_eq_true htolerance, Bool.true_or]

namespace EnergyField

variable (f g : EnergyField α)

/-- The factor that a resonance multiplies the energies of both fields by. -/
def amplification : α := 1.0 + 0.2 * f.resonance g

/-- The growth of the pair that the outcome of a resonance reports. -/
def reportedGrowth : α :=
  if 0.0 < f.pairTotal g then (f.resonate g).1.pairTotal (f.resonate g).2 / f.pairTotal g
  else 1.0

theorem resonance_eq : f.resonance g = Scalar.exp (-|f.frequency - g.frequency|) := by
  rw [resonance, ExactScalar.abs_eq]

theorem amplification_eq :
    f.amplification g = 1 + Scalar.exp (-|f.frequency - g.frequency|) / 5 := by
  have hfifth : (0.2 : α) = 1 / 5 := by norm_num [ExactScalar.decimal_eq]
  rw [amplification, resonance_eq, ExactScalar.one_eq, hfifth, one_div_mul_eq_div]

theorem one_lt_amplification : 1 < f.amplification g := by
  have hgain : 0 < 0.2 * f.resonance g := by
    have hfifth : (0 : α) < 0.2 := by norm_num [ExactScalar.decimal_eq]
    exact mul_pos hfifth (resonance_pos f g)
  rw [amplification, ExactScalar.one_eq]
  exact lt_add_of_pos_right 1 hgain

theorem pairTotal_resonate :
    (f.resonate g).1.pairTotal (f.resonate g).2 = f.pairTotal g * f.amplification g :=
  (add_mul f.energy.total g.energy.total (f.amplification g)).symm

/-- A good match moves both angles to their mean. -/
theorem inPhaseWith_resonate (h : 1 / 2 < Scalar.exp (-|f.frequency - g.frequency|)) :
    (f.resonate g).1.energy.inPhaseWith (f.resonate g).2.energy = true := by
  have hmatch : 0.5 < f.resonance g := by
    rwa [ExactScalar.half_eq, resonance_eq]
  apply Energy.inPhaseWith_of_angle_eq
  simp only [resonate, aged, if_pos hmatch]

theorem reportedGrowth_mul_eq_iff :
    f.reportedGrowth g * f.pairTotal g = (f.resonate g).1.pairTotal (f.resonate g).2 ↔
      0 ≤ f.pairTotal g := by
  rw [reportedGrowth, ExactScalar.zero_eq, ExactScalar.one_eq]
  split
  · next hpos => exact iff_of_true (div_mul_cancel₀ _ hpos.ne') hpos.le
  · next hnot =>
    rw [pairTotal_resonate, one_mul]
    rcases (not_lt.mp hnot).eq_or_lt with hzero | hneg
    · simp [hzero]
    · have hgrown : f.pairTotal g * f.amplification g < f.pairTotal g :=
        mul_lt_of_one_lt_right hneg (f.one_lt_amplification g)
      exact iff_of_false hgrown.ne' (not_le.mpr hneg)

end EnergyField

/-- What the resonance of two registered fields reports and stores. -/
theorem Operation.resonance_apply {r : Registry α} {a b : String} {f g : EnergyField α}
    (hf : r.get? a = some f) (hg : r.get? b = some g) (maxDepth : α) :
    ((resonance a b).apply r maxDepth).2.outcome? = some (.resonated a b (f.reportedGrowth g)
      ((f.resonate g).1.energy.inPhaseWith (f.resonate g).2.energy)) ∧
    ((resonance a b).apply r maxDepth).1.get? a = some (f.resonate g).1 ∧
    ((resonance a b).apply r maxDepth).1.get? b = some (f.resonate g).2 := by
  have happlies : (resonance a b).Applies r maxDepth _ _ := .resonance hf hg
  have hfirst : (f.resonate g).1.name = a := Registry.name_of_get? (f := f) hf
  have hsecond : (f.resonate g).2.name = b := Registry.name_of_get? (f := g) hg
  -- a field that resonates with itself comes out of both sides the same
  have hsame : a = (f.resonate g).2.name → (f.resonate g).1 = (f.resonate g).2 := by
    intro hab
    obtain rfl : f = g := Registry.eq_of_get?_name hf hg (hfirst.trans hab)
    rfl
  rw [happlies.apply_eq]
  exact ⟨rfl, r.get?_commit_first_of_same hfirst hsame, r.get?_commit_second _ hsecond⟩

/-- An applied resonance amplifies the pair by a factor that depends on the match of the two
frequencies, and reports a good match as a lock.  The amplification that it reports takes the
total before into the total after if and only if the total before is not below zero. -/
theorem amplification_reported_iff_not_below_zero {r : Registry α} {maxDepth : α} {a b : String}
    (happlied : ((Operation.resonance a b).apply r maxDepth).2.status = .applied) :
    let after := ((Operation.resonance a b).apply r maxDepth).1
    ∃ amplification locked f g f' g',
      ((Operation.resonance a b).apply r maxDepth).2.outcome? =
        some (.resonated a b amplification locked) ∧
      (r.get? a = some f ∧ r.get? b = some g) ∧
      (after.get? a = some f' ∧ after.get? b = some g') ∧
      f'.pairTotal g' =
        f.pairTotal g * (1 + Scalar.exp (-|f.frequency - g.frequency|) / 5) ∧
      (amplification * f.pairTotal g = f'.pairTotal g' ↔ 0 ≤ f.pairTotal g) ∧
      (1 / 2 < Scalar.exp (-|f.frequency - g.frequency|) → locked = true) := by
  intro after
  obtain ⟨outcome, stored, happlies, _⟩ := Operation.exists_applies happlied
  cases happlies with
  | @resonance _ _ f g hf hg =>
      obtain ⟨hreport, hfirst, hsecond⟩ := Operation.resonance_apply hf hg maxDepth
      have hgrown := f.pairTotal_resonate g
      rw [f.amplification_eq g] at hgrown
      exact ⟨_, _, f, g, _, _, hreport, ⟨hf, hg⟩, ⟨hfirst, hsecond⟩, hgrown,
        f.reportedGrowth_mul_eq_iff g, f.inPhaseWith_resonate g⟩

/-- One total below zero, the pair above it, and two frequencies half a unit apart. -/
theorem amplification_reported_of_mixed_pair :
    let f : EnergyField ℚ := EnergyField.create "a" (-150)
    let g : EnergyField ℚ := EnergyField.create "b" 300 (3 / 2)
    let applied := (Operation.resonance "a" "b").apply ((Registry.empty.put f).put g) 12
    applied.2.status = .applied ∧
    ∃ amplification f' g',
      applied.2.outcome? = some (.resonated "a" "b" amplification true) ∧
      (applied.1.get? "a" = some f' ∧ applied.1.get? "b" = some g') ∧
      amplification * f.pairTotal g = f'.pairTotal g' := by
  intro f g applied
  have happlied : applied.2.status = .applied := by decide +kernel
  have hf : ((Registry.empty.put f).put g).get? "a" = some f := rfl
  have hg : ((Registry.empty.put f).put g).get? "b" = some g := rfl
  have htotal : 0 ≤ f.pairTotal g := by decide +kernel
  have hmatch : 1 / 2 < Scalar.exp (-|f.frequency - g.frequency|) := by decide +kernel
  obtain ⟨amplification, locked, h, k, f', g', hreport, ⟨hh, hk⟩, hstored, _, hiff, hlock⟩ :=
    amplification_reported_iff_not_below_zero happlied
  obtain rfl : f = h := Option.some.inj (hf.symm.trans hh)
  obtain rfl : g = k := Option.some.inj (hg.symm.trans hk)
  obtain rfl : locked = true := hlock hmatch
  exact ⟨happlied, amplification, f', g', hreport, hstored, hiff.mpr htotal⟩

/-- A flow leaves `a` at -150, and its resonance with a field at 10 is not reported as the
amplification that it is. -/
theorem amplification_not_reported_below_zero :
    let r := ((Interpreter.new : Interpreter ℚ).execute
      "a = 100\nb = 50\n∇spatial(a, b)\nc = 10").interpreter.registry
    let applied := (Operation.resonance "a" "c").apply r 12
    applied.2.status = .applied ∧
    ∃ amplification locked f g f' g',
      applied.2.outcome? = some (.resonated "a" "c" amplification locked) ∧
      (r.get? "a" = some f ∧ r.get? "c" = some g) ∧
      (applied.1.get? "a" = some f' ∧ applied.1.get? "c" = some g') ∧
      amplification * f.pairTotal g ≠ f'.pairTotal g' := by
  intro r applied
  have happlied : applied.2.status = .applied := by decide +kernel
  have hfirst : (r.get? "a").map (·.energy.total) = some (-150) := by decide +kernel
  have hsecond : (r.get? "c").map (·.energy.total) = some 10 := by decide +kernel
  obtain ⟨f, hf, hftotal⟩ := Option.map_eq_some_iff.mp hfirst
  obtain ⟨g, hg, hgtotal⟩ := Option.map_eq_some_iff.mp hsecond
  obtain ⟨hreport, hf', hg'⟩ := Operation.resonance_apply hf hg 12
  have hbelow : ¬ 0 ≤ f.pairTotal g := by
    rw [EnergyField.pairTotal, hftotal, hgtotal]
    norm_num
  exact ⟨happlied, _, _, f, g, _, _, hreport, ⟨hf, hg⟩, ⟨hf', hg'⟩,
    mt (f.reportedGrowth_mul_eq_iff g).mp hbelow⟩

end FieldCalculus
