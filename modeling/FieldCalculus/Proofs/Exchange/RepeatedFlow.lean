import Mathlib.Tactic.Linarith
import FieldCalculus.Proofs.Exact.Rational
import FieldCalculus.Proofs.Exchange.Transfer
import FieldCalculus.Proofs.Run.Attributes
/-!
# Repeated spatial flow

A flow between two fields keeps the sum of their totals and multiplies the difference by a
factor that depends on their span alone.  As flow moves no field, the factor is the same in
every round.  Between fields that are closer than a twentieth it is below minus one: each flow
moves more than the whole difference, and the fields swing further and further apart.
-/

namespace FieldCalculus

variable {α : Type} [ExactScalar α]

/-- The vector, turned by a multiple of the displacement from one point to another. -/
def Vector3.turned (v : Vector3 α) (factor : α) (p q : Vector3 α) : Vector3 α :=
  ⟨v.x + factor * (q.x - p.x), v.y + factor * (q.y - p.y), v.z + factor * (q.z - p.z)⟩

theorem Vector3.turned_turned (v : Vector3 α) (factor more : α) (p q : Vector3 α) :
    (v.turned factor p q).turned more p q = v.turned (factor + more) p q := by
  simp only [turned, add_mul, add_assoc]

/-- A difference that is multiplied by the same factor in every round never grows if and only
if it is zero from the start or the factor is at most one in size. -/
theorem abs_pow_mul_antitone_iff (factor difference : α) :
    (∀ n : ℕ, |factor ^ (n + 1) * difference| ≤ |factor ^ n * difference|) ↔
      difference = 0 ∨ |factor| ≤ 1 := by
  constructor
  · intro h
    have hfirst : |factor| * |difference| ≤ |difference| := by
      simpa only [zero_add, pow_one, pow_zero, one_mul, abs_mul] using h 0
    by_cases hzero : difference = 0
    · exact Or.inl hzero
    · exact Or.inr ((mul_le_iff_le_one_left (abs_pos.mpr hzero)).mp hfirst)
  · rintro (rfl | hfactor) n
    · rw [mul_zero, mul_zero]
    · calc
        |factor ^ (n + 1) * difference| = |factor| * |factor ^ n * difference| := by
          rw [pow_succ', mul_assoc, abs_mul]
        _ ≤ |factor ^ n * difference| := mul_le_of_le_one_left (abs_nonneg _) hfactor

namespace EnergyField

variable {f g f' g' : EnergyField α} {n : ℕ}

theorem span_eq (f g : EnergyField α) :
    f.span g = max (f.position.distance g.position) (1 / 100) := by
  have hleast : (minDistance : α) = 1 / 100 := by
    norm_num [minDistance, ExactScalar.decimal_eq]
  rw [span, hleast]
  exact ExactScalar.greatest_def _ _

theorem span_pos (f g : EnergyField α) : 0 < f.span g := by
  rw [span_eq]
  exact lt_max_of_lt_right (by norm_num)

theorem abs_factor_le_one_iff : |1 - 1 / 10 / f.span g| ≤ 1 ↔ 1 / 20 ≤ f.span g := by
  have hspan := f.span_pos g
  have hshare : 0 < 1 / 10 / f.span g := by positivity
  have htwice : 1 / 10 / f.span g ≤ 2 ↔ 1 / 20 ≤ f.span g := by
    rw [div_le_iff₀ hspan]
    constructor <;> intro h <;> linarith
  rw [abs_le, ← htwice]
  constructor
  · intro h
    linarith [h.1]
  · intro h
    constructor <;> linarith

/-! ## One flow -/

theorem total_flow (f g : EnergyField α) :
    (f.flow g).1.energy.total =
        f.energy.total - (f.energy.total - g.energy.total) / 20 / f.span g ∧
      (f.flow g).2.energy.total =
        g.energy.total + (f.energy.total - g.energy.total) / 20 / f.span g := by
  have hamount : 0.05 * (f.energy.total - g.energy.total) / f.span g =
      (f.energy.total - g.energy.total) / 20 / f.span g := by
    rw [ExactScalar.twentieth_eq, one_div_mul_eq_div]
  have hleft : (f.flow g).1.energy.total =
      f.energy.total - 0.05 * (f.energy.total - g.energy.total) / f.span g := rfl
  have hright : (f.flow g).2.energy.total =
      g.energy.total - -(0.05 * (f.energy.total - g.energy.total) / f.span g) := rfl
  rw [hleft, hright, hamount, sub_neg_eq_add]
  exact ⟨rfl, rfl⟩

theorem pairTotal_flow (f g : EnergyField α) :
    (f.flow g).1.pairTotal (f.flow g).2 = f.pairTotal g := by
  obtain ⟨hleft, hright⟩ := f.total_flow g
  rw [pairTotal, hleft, hright, pairTotal]
  ring

theorem total_sub_flow (f g : EnergyField α) :
    (f.flow g).1.energy.total - (f.flow g).2.energy.total =
      (1 - 1 / 10 / f.span g) * (f.energy.total - g.energy.total) := by
  obtain ⟨hleft, hright⟩ := f.total_flow g
  rw [hleft, hright]
  ring

theorem gradient_flow (f g : EnergyField α) :
    (f.flow g).1.gradient = f.gradient.turned (-(1 / 10)) f.position g.position ∧
      (f.flow g).2.gradient = g.gradient.turned (1 / 10) f.position g.position := by
  have hforward : ∀ x : α, 1.0 * x * 0.1 = 1 / 10 * x := by
    intro x
    rw [ExactScalar.one_eq, ExactScalar.tenth_eq, one_mul, mul_comm]
  have hbackward : ∀ x : α, -1.0 * x * 0.1 = -(1 / 10) * x := by
    intro x
    rw [neg_mul, neg_mul, hforward, neg_mul]
  constructor
  · simp only [flow, flowed, Vector3.turned, hbackward]
  · simp only [flow, flowed, Vector3.turned, hforward]

theorem age_flow (f g : EnergyField α) :
    (f.flow g).1.age = f.age + 1 ∧ (f.flow g).2.age = g.age + 1 := by
  rw [← ExactScalar.one_eq]
  exact ⟨rfl, rfl⟩

/-! ## Any number of flows -/

/-- How two fields come out of a number of flows between them. -/
structure FlowedTimes (f g : EnergyField α) (n : ℕ) (f' g' : EnergyField α) : Prop where
  total_add : f'.energy.total + g'.energy.total = f.energy.total + g.energy.total
  total_sub : f'.energy.total - g'.energy.total =
    (1 - 1 / 10 / f.span g) ^ n * (f.energy.total - g.energy.total)
  gradient : f'.gradient = f.gradient.turned (-(n / 10)) f.position g.position
  partnerGradient : g'.gradient = g.gradient.turned (n / 10) f.position g.position
  position : f'.position = f.position
  partnerPosition : g'.position = g.position
  age : f'.age = f.age + n
  partnerAge : g'.age = g.age + n

theorem FlowedTimes.refl (f g : EnergyField α) : f.FlowedTimes g 0 f g := by
  constructor <;> simp [Vector3.turned]

/-- The span of the two fields is still the one that they started with. -/
theorem FlowedTimes.span_eq (h : f.FlowedTimes g n f' g') : f'.span g' = f.span g := by
  rw [span, h.position, h.partnerPosition, span]

/-- One flow more. -/
theorem FlowedTimes.flow (h : f.FlowedTimes g n f' g') :
    f.FlowedTimes g (n + 1) (f'.flow g').1 (f'.flow g').2 := by
  obtain ⟨hgradient, hpartner⟩ := f'.gradient_flow g'
  rw [h.gradient, h.position, h.partnerPosition, Vector3.turned_turned] at hgradient
  rw [h.partnerGradient, h.position, h.partnerPosition, Vector3.turned_turned] at hpartner
  constructor
  case total_add => exact (f'.pairTotal_flow g').trans h.total_add
  case total_sub => rw [total_sub_flow, h.span_eq, h.total_sub, pow_succ', mul_assoc]
  case gradient => rw [hgradient, Nat.cast_succ, add_div, neg_add]
  case partnerGradient => rw [hpartner, Nat.cast_succ, add_div]
  case position => exact h.position
  case partnerPosition => exact h.partnerPosition
  case age => rw [(f'.age_flow g').1, h.age, Nat.cast_succ, add_assoc]
  case partnerAge => rw [(f'.age_flow g').2, h.partnerAge, Nat.cast_succ, add_assoc]

end EnergyField

/-! ## Flow between registered fields -/

/-- A pair that keeps its total passes the gate. -/
theorem gate_of_pairTotal_eq (kind : Operation.Kind) {before after : EnergyField α × EnergyField α}
    (h : after.1.pairTotal after.2 = before.1.pairTotal before.2) :
    gate kind before after = none := by
  have htolerance : (0 : α) ≤ Energy.conservationTolerance := by
    norm_num [Energy.conservationTolerance, ExactScalar.decimal_eq]
  have hbalanced : ∀ total : α, balanced total total = true := by
    intro total
    have hfinite : Scalar.isFinite total = true := ExactScalar.isFinite_def total
    simp [balanced, hfinite, ExactScalar.abs_eq, htolerance]
  simp [gate, h, hbalanced]

namespace Operation

variable {r : Registry α} {a b : String} {f g : EnergyField α}

/-- What the flow between two distinct registered fields stores. -/
theorem spatialFlow_apply (hab : a ≠ b) (hf : r.get? a = some f) (hg : r.get? b = some g)
    (maxDepth : α) :
    ((spatialFlow a b).apply r maxDepth).2.status = .applied ∧
      ((spatialFlow a b).apply r maxDepth).1.get? a = some (f.flow g).1 ∧
      ((spatialFlow a b).apply r maxDepth).1.get? b = some (f.flow g).2 := by
  have hgate : gate .spatialFlow (f, g) (f.flow g) = none :=
    gate_of_pairTotal_eq .spatialFlow (f.pairTotal_flow g)
  have happlies : (spatialFlow a b).Applies r maxDepth _ _ := .spatialFlow hf hg hgate
  have hfirst : (f.flow g).1.name = a := Registry.name_of_get? (f := f) hf
  have hsecond : (f.flow g).2.name = b := Registry.name_of_get? (f := g) hg
  rw [happlies.apply_eq]
  exact ⟨rfl, r.get?_commit_first hfirst (hsecond ▸ hab), r.get?_commit_second _ hsecond⟩

/-- A run of nothing but flows between the two fields. -/
theorem exists_flowedTimes (hab : a ≠ b) (hf : r.get? a = some f) (hg : r.get? b = some g)
    (maxDepth : α) (n : ℕ) :
    AllApplied maxDepth r (List.replicate n (spatialFlow a b)) ∧
      ∃ f' g', (applyAll maxDepth r (List.replicate n (spatialFlow a b))).get? a = some f' ∧
        (applyAll maxDepth r (List.replicate n (spatialFlow a b))).get? b = some g' ∧
        f.FlowedTimes g n f' g' := by
  refine allApplied_replicate
    (fun n s => ∃ f' g', s.get? a = some f' ∧ s.get? b = some g' ∧ f.FlowedTimes g n f' g')
    ⟨f, g, hf, hg, .refl f g⟩ ?_ n
  rintro n s ⟨f', g', hf', hg', hflowed⟩
  obtain ⟨happlied, hfirst, hsecond⟩ := spatialFlow_apply hab hf' hg' maxDepth
  exact ⟨happlied, _, _, hfirst, hsecond, hflowed.flow⟩

end Operation

open Operation in
/-- Any number of flows between two distinct registered fields are all applied.  Each keeps the
sum of the two totals and multiplies the difference by `1 - 0.1 / span`, turns the gradients by
a tenth of the displacement, moves neither field and ages both by one.  So the difference never
grows if and only if it is zero or the span is at least a twentieth. -/
theorem repeated_flow_closed_form {r : Registry α} {a b : String} {f g : EnergyField α}
    (hab : a ≠ b) (hf : r.get? a = some f) (hg : r.get? b = some g) (maxDepth : α) :
    let flows (n : ℕ) : List (Operation α) := List.replicate n (.spatialFlow a b)
    let span := max (f.position.distance g.position) (1 / 100)
    ∃ fs gs : ℕ → EnergyField α,
      (∀ n, AllApplied maxDepth r (flows n) ∧
        (applyAll maxDepth r (flows n)).get? a = some (fs n) ∧
        (applyAll maxDepth r (flows n)).get? b = some (gs n) ∧
        f.FlowedTimes g n (fs n) (gs n)) ∧
      ((∀ n, |(fs (n + 1)).energy.total - (gs (n + 1)).energy.total| ≤
          |(fs n).energy.total - (gs n).energy.total|) ↔
        f.energy.total = g.energy.total ∨ 1 / 20 ≤ span) := by
  intro flows span
  choose happlied fs gs hfs hgs hflowed using exists_flowedTimes hab hf hg maxDepth
  refine ⟨fs, gs, fun n => ⟨happlied n, hfs n, hgs n, hflowed n⟩, ?_⟩
  simp only [(hflowed _).total_sub]
  rw [abs_pow_mul_antitone_iff, sub_eq_zero, EnergyField.abs_factor_le_one_iff,
    EnergyField.span_eq]

open Operation in
/-- Two fields a twenty-fifth apart: each flow turns their difference around and makes it half
as large again. -/
theorem repeated_flow_closed_form_overshoot :
    let f : EnergyField ℚ := EnergyField.create "a" 100
    let g : EnergyField ℚ :=
      EnergyField.create "b" 60 EnergyField.defaultFrequency ⟨1 / 25, 0, 0⟩
    let r := (Registry.empty.put f).put g
    let flows (n : ℕ) : List (Operation ℚ) := List.replicate n (.spatialFlow "a" "b")
    ("a" ≠ "b" ∧ r.get? "a" = some f ∧ r.get? "b" = some g) ∧
      f.span g = 1 / 25 ∧
      ∃ fs gs : ℕ → EnergyField ℚ,
        (∀ n, AllApplied 12 r (flows n) ∧
          (applyAll 12 r (flows n)).get? "a" = some (fs n) ∧
          (applyAll 12 r (flows n)).get? "b" = some (gs n) ∧
          (fs n).energy.total - (gs n).energy.total = (-3 / 2) ^ n * 40) ∧
        ¬ ∀ n, |(fs (n + 1)).energy.total - (gs (n + 1)).energy.total| ≤
          |(fs n).energy.total - (gs n).energy.total| := by
  intro f g r flows
  have hab : "a" ≠ "b" := by decide
  have hf : r.get? "a" = some f := rfl
  have hg : r.get? "b" = some g := rfl
  have hspan : f.span g = 1 / 25 := by decide +kernel
  have hclose : ¬ (f.energy.total = g.energy.total ∨
      1 / 20 ≤ max (f.position.distance g.position) (1 / 100)) := by decide +kernel
  obtain ⟨fs, gs, hrun, hgrows⟩ := repeated_flow_closed_form hab hf hg 12
  refine ⟨⟨hab, hf, hg⟩, hspan, fs, gs, ?_, mt hgrows.mp hclose⟩
  intro n
  obtain ⟨happlied, hfs, hgs, hflowed⟩ := hrun n
  have hdifference : f.energy.total - g.energy.total = 40 := by decide +kernel
  have hfactor : (1 : ℚ) - 1 / 10 / (1 / 25) = -3 / 2 := by norm_num
  have htotal := hflowed.total_sub
  rw [hspan, hdifference, hfactor] at htotal
  exact ⟨happlied, hfs, hgs, htotal⟩

end FieldCalculus
