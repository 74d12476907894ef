import FieldCalculus.Proofs.Run.Capacity
/-!
# Who gains from a symbiosis

A field in a symbiosis harvests a share of its partner's energy, with a bonus when it has
capacity, and pays a share of the energy of both.  A field that is rich enough next to its
partner pays more than it harvests.
-/

namespace FieldCalculus

variable {α : Type} [ExactScalar α]

namespace EnergyField

/-- The bonus that a field earns on an input. -/
def bonus (f : EnergyField α) (input : α) : α :=
  if 0 < f.capacity then min (input * 0.003) 0.2 else 0

theorem bonus_eq (f : EnergyField α) (input : α) :
    f.bonus input = if 0 < f.capacity then min (input * 3 / 1000) (1 / 5) else 0 := by
  have hshare : (0.003 : α) = 3 / 1000 := by norm_num [ExactScalar.decimal_eq]
  have hfifth : (0.2 : α) = 1 / 5 := by norm_num [ExactScalar.decimal_eq]
  rw [bonus, hshare, hfifth, mul_div_assoc]

theorem total_regenerate (f : EnergyField α) (input : α) :
    (f.regenerate input).energy.total =
      (f.energy.total + input * 7 / 10) * (1 + f.bonus input) := by
  have hwork : (0.7 : α) = 7 / 10 := by norm_num [ExactScalar.decimal_eq]
  have hfifth : (0.2 : α) = 1 / 5 := by norm_num [ExactScalar.decimal_eq]
  have hbonus : (if 0.0 < f.capacity then
      Scalar.least ((f.regenerate input).capacity / f.capacity - 1.0) 0.2 else 0.0) =
        f.bonus input := by
    rw [bonus_eq, ExactScalar.zero_eq, ExactScalar.one_eq, hfifth, capacity_regenerate]
    split
    · next hpos =>
      have hgrowth : f.capacity * (1 + input * 3 / 1000) / f.capacity - 1 = input * 3 / 1000 := by
        rw [mul_div_cancel_left₀ _ hpos.ne', add_sub_cancel_left]
      rw [hgrowth]
      exact ExactScalar.least_def _ _
    · rfl
  calc
    (f.regenerate input).energy.total = (f.energy.total + input * 0.7) *
        (1.0 + (if 0.0 < f.capacity then
          Scalar.least ((f.regenerate input).capacity / f.capacity - 1.0) 0.2 else 0.0)) := rfl
    _ = (f.energy.total + input * 7 / 10) * (1 + f.bonus input) := by
      rw [hbonus, ExactScalar.one_eq, hwork, mul_div_assoc]

/-- The total energy of a field after a symbiosis with a partner. -/
def settled (f partner : EnergyField α) : α :=
  (f.energy.total + partner.energy.total * 7 / 200) *
      (1 + f.bonus (partner.energy.total / 20)) -
    (f.energy.total + partner.energy.total) / 4000

theorem total_symbiosis (f g : EnergyField α) :
    (f.symbiosis g).1.energy.total = f.settled g ∧
      (f.symbiosis g).2.energy.total = g.settled f := by
  have hhundredth : (0.01 : α) = 1 / 100 := by norm_num [ExactScalar.decimal_eq]
  have hgrown : ∀ h p : EnergyField α, (h.regenerate (p.energy.total * 0.05)).energy.total -
      0.01 * (f.energy.total * 0.05 + g.energy.total * 0.05) / 2.0 =
        (h.energy.total + p.energy.total * 7 / 200) * (1 + h.bonus (p.energy.total / 20)) -
          (f.energy.total + g.energy.total) / 4000 := by
    intro h p
    rw [total_regenerate, ExactScalar.twentieth_eq, hhundredth, ExactScalar.two_eq, mul_one_div]
    ring
  refine ⟨hgrown f g, (hgrown g f).trans ?_⟩
  rw [settled, add_comm g.energy.total f.energy.total]

/-- The field has so much more energy than its partner that it pays more than it harvests. -/
def Outspends (f partner : EnergyField α) : Prop :=
  let e := f.energy.total
  let p := partner.energy.total
  if 0 < f.capacity then 139000 * p + 600 * (e * p) + 21 * p ^ 2 < 1000 * e else 139 * p < e

instance (f partner : EnergyField α) : Decidable (f.Outspends partner) :=
  inferInstanceAs (Decidable (if 0 < f.capacity then _ else _))

theorem le_settled_iff {f partner : EnergyField α} (hf : 0 ≤ f.energy.total) :
    f.energy.total ≤ f.settled partner ↔ ¬ f.Outspends partner := by
  rw [settled, bonus_eq, Outspends]
  generalize f.energy.total = e at *
  generalize partner.energy.total = p at *
  split
  · rw [not_lt]
    rcases le_total (p / 20 * 3 / 1000) (1 / 5) with hsmall | hlarge
    · have hgain : (e + p * 7 / 200) * (1 + p / 20 * 3 / 1000) - (e + p) / 4000 =
          e + (139000 * p + 600 * (e * p) + 21 * p ^ 2 - 1000 * e) / 4000000 := by ring
      rw [min_eq_left hsmall, hgain]
      constructor <;> intro h <;> linarith
    · -- the bonus has reached its greatest value, which covers the cost of any energy
      have hp : 4000 / 3 ≤ p := by linarith
      have hproduct : e * (4000 / 3) ≤ e * p := mul_le_mul_of_nonneg_left hp hf
      have hsquare : 0 ≤ p ^ 2 := sq_nonneg p
      rw [min_eq_right hlarge]
      exact iff_of_true (by linarith) (by linarith)
  · rw [not_lt]
    constructor <;> intro h <;> linarith

theorem capacity_le_symbiosis {f g : EnergyField α} (hf : 0 ≤ f.capacity) (hg : 0 ≤ g.capacity)
    (hf' : 0 ≤ f.energy.total) (hg' : 0 ≤ g.energy.total) :
    f.capacity ≤ (f.symbiosis g).1.capacity ∧ g.capacity ≤ (f.symbiosis g).2.capacity := by
  obtain ⟨hleft, hright⟩ := f.capacity_symbiosis g
  rw [hleft, hright]
  exact ⟨le_mul_of_one_le_right hf (by linarith), le_mul_of_one_le_right hg (by linarith)⟩

end EnergyField

/-- An applied symbiosis reports mutual benefit.  Among fields whose total energies and
capacities are not negative no capacity falls, and the total energy of a field falls exactly if
it outspends its partner. -/
theorem symbiosis_benefits_unless_outspent {r : Registry α} {maxDepth : α} {a b : String}
    (happlied : ((Operation.symbiosis a b).apply r maxDepth).2.status = .applied) :
    let f := r.resolve a defaultEnergies.symbiosis
    let g := r.resolve b defaultEnergies.symbiosis
    0 ≤ f.energy.total → 0 ≤ f.capacity → 0 ≤ g.energy.total → 0 ≤ g.capacity →
    ∃ growth f' g',
      ((Operation.symbiosis a b).apply r maxDepth).2.outcome? = some (.symbiotic a b growth) ∧
      ((Operation.symbiosis a b).apply r maxDepth).1.get? a = some f' ∧
      ((Operation.symbiosis a b).apply r maxDepth).1.get? b = some g' ∧
      f.capacity ≤ f'.capacity ∧ g.capacity ≤ g'.capacity ∧
      (f.energy.total ≤ f'.energy.total ↔ ¬ f.Outspends g) ∧
      (g.energy.total ≤ g'.energy.total ↔ ¬ g.Outspends f) := by
  intro f g hf hfcap hg hgcap
  obtain ⟨outcome, stored, happlies, hafter⟩ := Operation.exists_applies happlied
  have hverdict : ((Operation.symbiosis a b).apply r maxDepth).2 = .applied outcome := by
    rw [happlies.apply_eq]
  have hsecond : (f.symbiosis g).2.name = b := r.name_resolve b _
  have hsame : a = (f.symbiosis g).2.name → (f.symbiosis g).1 = (f.symbiosis g).2 := by
    intro hab
    have hfg : f = g := congrArg (r.resolve · defaultEnergies.symbiosis) (hab.trans hsecond)
    rw [hfg]
    rfl
  obtain ⟨hfcap', hgcap'⟩ := EnergyField.capacity_le_symbiosis hfcap hgcap hf hg
  obtain ⟨htotal, htotal'⟩ := f.total_symbiosis g
  rw [hafter, hverdict]
  cases happlies with
  | symbiosis _ _ hf' hg' =>
      subst hf' hg'
      refine ⟨_, _, _, rfl, r.get?_commit_first_of_same (r.name_resolve a _) hsame,
        r.get?_commit_second _ hsecond, hfcap', hgcap', ?_, ?_⟩
      · rw [htotal]
        exact EnergyField.le_settled_iff hf
      · rw [htotal']
        exact EnergyField.le_settled_iff hg

/-- A field without capacity and a partner that the symbiosis creates: both gain. -/
theorem symbiosis_benefits_unless_outspent_created_partner :
    let r : Registry ℚ := Registry.empty.put { EnergyField.create "a" 200 with capacity := 0 }
    let f := r.resolve "a" defaultEnergies.symbiosis
    let g := r.resolve "b" defaultEnergies.symbiosis
    let after := (Operation.symbiosis "a" "b").apply r 12
    after.2.status = .applied ∧
      0 ≤ f.energy.total ∧ 0 ≤ f.capacity ∧ 0 ≤ g.energy.total ∧ 0 ≤ g.capacity ∧
      ∃ f' g', after.1.get? "a" = some f' ∧ after.1.get? "b" = some g' ∧
        f.energy.total ≤ f'.energy.total ∧ g.energy.total ≤ g'.energy.total := by
  intro r f g after
  have happlied : after.2.status = .applied := by decide +kernel
  have hf : 0 ≤ f.energy.total := by decide +kernel
  have hfcap : 0 ≤ f.capacity := by decide +kernel
  have hg : 0 ≤ g.energy.total := by decide +kernel
  have hgcap : 0 ≤ g.capacity := by decide +kernel
  have hspends : ¬ f.Outspends g ∧ ¬ g.Outspends f := by decide +kernel
  obtain ⟨_, f', g', _, hget, hget', _, _, htotal, htotal'⟩ :=
    symbiosis_benefits_unless_outspent happlied hf hfcap hg hgcap
  exact ⟨happlied, hf, hfcap, hg, hgcap, f', g', hget, hget', htotal.mpr hspends.1,
    htotal'.mpr hspends.2⟩

/-- A partner without energy: the outcome is that of a mutual benefit, and the field that pays
for both ends with less than it had. -/
theorem symbiosis_drains_sole_payer :
    let r : Registry ℚ :=
      (Registry.empty.put (EnergyField.create "a" 100)).put (EnergyField.create "b" 0)
    let f := r.resolve "a" defaultEnergies.symbiosis
    let g := r.resolve "b" defaultEnergies.symbiosis
    let after := (Operation.symbiosis "a" "b").apply r 12
    (after.2.status = .applied ∧ after.2.outcome?.map Outcome.typeName = some "symbiotic") ∧
      (0 ≤ f.energy.total ∧ 0 ≤ f.capacity ∧ 0 ≤ g.energy.total ∧ 0 ≤ g.capacity) ∧
      ∃ f' ∈ after.1.get? "a", f'.energy.total < f.energy.total := by
  decide +kernel

end FieldCalculus
