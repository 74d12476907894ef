import FieldCalculus.Proofs.Operation.Benefit
/-!
# What a harvest grows

A harvest adds seven tenths of its input to the total energy and then pays the bonus, which is
never below zero and never above a fifth.  So more input never leaves less of anything, and two
fields that grow on each other gain more than the cost that they share.
-/

namespace FieldCalculus

variable {α : Type} [ExactScalar α]

namespace EnergyField

variable {f g : EnergyField α} {input more : α}

/-! ## One harvest, attribute by attribute -/

theorem kinetic_regenerate (f : EnergyField α) (input : α) :
    (f.regenerate input).energy.kinetic = f.energy.kinetic + input * 21 / 50 := by
  have hwork : (0.7 : α) = 7 / 10 := by norm_num [ExactScalar.decimal_eq]
  have hshare : (0.6 : α) = 3 / 5 := by norm_num [ExactScalar.decimal_eq]
  calc
    (f.regenerate input).energy.kinetic = f.energy.kinetic + input * 0.7 * 0.6 := rfl
    _ = f.energy.kinetic + input * 21 / 50 := by
      rw [hwork, hshare]
      ring

theorem potential_regenerate (f : EnergyField α) (input : α) :
    (f.regenerate input).energy.potential = f.energy.potential + input * 7 / 25 := by
  have hwork : (0.7 : α) = 7 / 10 := by norm_num [ExactScalar.decimal_eq]
  have hshare : (0.4 : α) = 2 / 5 := by norm_num [ExactScalar.decimal_eq]
  calc
    (f.regenerate input).energy.potential = f.energy.potential + input * 0.7 * 0.4 := rfl
    _ = f.energy.potential + input * 7 / 25 := by
      rw [hwork, hshare]
      ring

theorem entropy_regenerate (f : EnergyField α) (input : α) :
    (f.regenerate input).energy.entropy = f.energy.entropy + input / 200 := by
  have hshare : (0.005 : α) = 1 / 200 := by norm_num [ExactScalar.decimal_eq]
  calc
    (f.regenerate input).energy.entropy = f.energy.entropy + input * 0.005 := rfl
    _ = f.energy.entropy + input / 200 := by rw [hshare, mul_one_div]

theorem coherence_regenerate (f : EnergyField α) (input : α) :
    (f.regenerate input).energy.coherence = min (f.energy.coherence + 1 / 100) 1 := by
  have hstep : (0.01 : α) = 1 / 100 := by norm_num [ExactScalar.decimal_eq]
  calc
    (f.regenerate input).energy.coherence = Scalar.least (f.energy.coherence + 0.01) 1.0 := rfl
    _ = min (f.energy.coherence + 1 / 100) 1 := by
      rw [hstep, ExactScalar.one_eq]
      exact ExactScalar.least_def _ _

theorem age_regenerate (f : EnergyField α) (input : α) :
    (f.regenerate input).age = f.age + 1 := by
  rw [← ExactScalar.one_eq]
  rfl

/-! ## The bonus -/

theorem bonus_nonneg (f : EnergyField α) (h : 0 ≤ input) : 0 ≤ f.bonus input := by
  rw [bonus_eq]
  split
  · exact le_min (by linarith) (by norm_num)
  · exact le_rfl

theorem bonus_le (f : EnergyField α) (input : α) : f.bonus input ≤ 1 / 5 := by
  rw [bonus_eq]
  split
  · exact min_le_right _ _
  · norm_num

theorem bonus_mono (f : EnergyField α) (h : input ≤ more) : f.bonus input ≤ f.bonus more := by
  rw [bonus_eq, bonus_eq]
  split
  · exact min_le_min_right _ (by linarith)
  · exact le_rfl

/-! ## Growth -/

theorem total_regenerate_mem (htotal : 0 ≤ f.energy.total) (hinput : 0 ≤ input) :
    f.energy.total + 7 / 10 * input ≤ (f.regenerate input).energy.total ∧
      (f.regenerate input).energy.total ≤ 6 / 5 * (f.energy.total + 7 / 10 * input) := by
  have hbonus := f.bonus_nonneg hinput
  have hcap := f.bonus_le input
  have hworked : 0 ≤ f.energy.total + input * 7 / 10 := by linarith
  have hshare : input * 7 / 10 = 7 / 10 * input := by ring
  rw [total_regenerate, ← hshare]
  constructor
  · exact le_mul_of_one_le_right hworked (by linarith)
  · rw [mul_comm]
    exact mul_le_mul_of_nonneg_right (by linarith) hworked

theorem total_regenerate_mono (htotal : 0 ≤ f.energy.total) (hinput : 0 ≤ input)
    (hmore : input ≤ more) :
    (f.regenerate input).energy.total ≤ (f.regenerate more).energy.total := by
  have hworked : 0 ≤ f.energy.total + input * 7 / 10 := by linarith
  have hbonus : 0 ≤ 1 + f.bonus more := by linarith [f.bonus_nonneg (hinput.trans hmore)]
  rw [total_regenerate, total_regenerate]
  calc
    (f.energy.total + input * 7 / 10) * (1 + f.bonus input) ≤
        (f.energy.total + input * 7 / 10) * (1 + f.bonus more) :=
      mul_le_mul_of_nonneg_left (by linarith [f.bonus_mono hmore]) hworked
    _ ≤ (f.energy.total + more * 7 / 10) * (1 + f.bonus more) :=
      mul_le_mul_of_nonneg_right (by linarith) hbonus

theorem capacity_le_regenerate (hcapacity : 0 ≤ f.capacity) (hinput : 0 ≤ input) :
    f.capacity ≤ (f.regenerate input).capacity := by
  rw [capacity_regenerate]
  exact le_mul_of_one_le_right hcapacity (by linarith)

theorem coherence_le_regenerate (input : α) (hcoherence : f.energy.coherence ≤ 1) :
    f.energy.coherence ≤ (f.regenerate input).energy.coherence := by
  rw [coherence_regenerate]
  exact le_min (by linarith) hcoherence

/-- No attribute that a harvest feeds is greater in the first field than in the second. -/
structure FedAtMost (f g : EnergyField α) : Prop where
  total : f.energy.total ≤ g.energy.total
  capacity : f.capacity ≤ g.capacity
  kinetic : f.energy.kinetic ≤ g.energy.kinetic
  potential : f.energy.potential ≤ g.energy.potential
  entropy : f.energy.entropy ≤ g.energy.entropy

theorem fedAtMost_regenerate (htotal : 0 ≤ f.energy.total) (hcapacity : 0 ≤ f.capacity)
    (hinput : 0 ≤ input) (hmore : input ≤ more) :
    (f.regenerate input).FedAtMost (f.regenerate more) := by
  constructor
  case total => exact total_regenerate_mono htotal hinput hmore
  case capacity =>
    rw [capacity_regenerate, capacity_regenerate]
    exact mul_le_mul_of_nonneg_left (by linarith) hcapacity
  case kinetic =>
    rw [kinetic_regenerate, kinetic_regenerate]
    linarith
  case potential =>
    rw [potential_regenerate, potential_regenerate]
    linarith
  case entropy =>
    rw [entropy_regenerate, entropy_regenerate]
    linarith

/-! ## Growth on each other -/

/-- Each field gains seven tenths of a twentieth of the other's energy at least, and the cost
takes a twentieth of a percent of both. -/
theorem pairTotal_le_symbiosis (hf : 0 ≤ f.energy.total) (hg : 0 ≤ g.energy.total) :
    10345 / 10000 * f.pairTotal g ≤ (f.symbiosis g).1.pairTotal (f.symbiosis g).2 := by
  have hgain : ∀ h p : EnergyField α, 0 ≤ h.energy.total → 0 ≤ p.energy.total →
      h.energy.total + p.energy.total * 7 / 200 -
        (h.energy.total + p.energy.total) / 4000 ≤ h.settled p := by
    intro h p hh hp
    have hbonus := h.bonus_nonneg (show 0 ≤ p.energy.total / 20 by linarith)
    have hworked : 0 ≤ h.energy.total + p.energy.total * 7 / 200 := by linarith
    rw [settled]
    exact sub_le_sub_right (le_mul_of_one_le_right hworked (by linarith)) _
  obtain ⟨hleft, hright⟩ := f.total_symbiosis g
  rw [pairTotal, pairTotal, hleft, hright]
  linarith [hgain f g hf hg, hgain g f hg hf]

theorem frequency_symbiosis (f g : EnergyField α) :
    (f.symbiosis g).1.frequency = (f.frequency + g.frequency) / 2 ∧
      (f.symbiosis g).2.frequency = (f.frequency + g.frequency) / 2 := by
  rw [← ExactScalar.two_eq]
  exact ⟨rfl, rfl⟩

theorem entropy_symbiosis (f g : EnergyField α) :
    (f.symbiosis g).1.energy.entropy = f.energy.entropy + g.energy.total / 4000 ∧
      (f.symbiosis g).2.energy.entropy = g.energy.entropy + f.energy.total / 4000 := by
  have hgrown : ∀ h p : EnergyField α,
      (h.regenerate (p.energy.total * 0.05)).energy.entropy =
        h.energy.entropy + p.energy.total / 4000 := by
    intro h p
    rw [entropy_regenerate, ExactScalar.twentieth_eq]
    ring
  exact ⟨hgrown f g, hgrown g f⟩

theorem entropy_le_symbiosis (hf : 0 ≤ f.energy.total) (hg : 0 ≤ g.energy.total) :
    f.energy.entropy ≤ (f.symbiosis g).1.energy.entropy ∧
      g.energy.entropy ≤ (f.symbiosis g).2.energy.entropy := by
  obtain ⟨hleft, hright⟩ := f.entropy_symbiosis g
  rw [hleft, hright]
  constructor <;> linarith

end EnergyField

/-- Growing operations grow fields whose total energies and capacities are not negative.  A
harvest leaves a total between the energy with seven tenths of the input and six fifths of that,
never lowers the capacity, and lowers a coherence only to one.  A greater input leaves at least
as much of all that it feeds.  A symbiosis leaves both fields at the mean of their frequencies
and makes their total energy greater by 3.45 percent at least. -/
theorem growing_operations_grow {f : EnergyField α} (htotal : 0 ≤ f.energy.total)
    (hcapacity : 0 ≤ f.capacity) :
    (∀ input, 0 ≤ input →
      f.energy.total + 7 / 10 * input ≤ (f.regenerate input).energy.total ∧
      (f.regenerate input).energy.total ≤ 6 / 5 * (f.energy.total + 7 / 10 * input) ∧
      f.capacity ≤ (f.regenerate input).capacity ∧
      (f.regenerate input).energy.coherence ≤ 1 ∧
      (f.energy.coherence ≤ 1 → f.energy.coherence ≤ (f.regenerate input).energy.coherence)) ∧
    (∀ input more, 0 ≤ input → input ≤ more →
      (f.regenerate input).FedAtMost (f.regenerate more)) ∧
    ∀ g : EnergyField α, 0 ≤ g.energy.total → 0 ≤ g.capacity →
      let after := f.symbiosis g
      10345 / 10000 * f.pairTotal g ≤ after.1.pairTotal after.2 ∧
      (after.1.frequency = (f.frequency + g.frequency) / 2 ∧
        after.2.frequency = (f.frequency + g.frequency) / 2) ∧
      (f.capacity ≤ after.1.capacity ∧ g.capacity ≤ after.2.capacity) ∧
      f.energy.entropy ≤ after.1.energy.entropy ∧ g.energy.entropy ≤ after.2.energy.entropy := by
  refine ⟨?harvest, ?order, ?symbiosis⟩
  case harvest =>
    intro input hinput
    obtain ⟨hlow, hhigh⟩ := EnergyField.total_regenerate_mem htotal hinput
    refine ⟨hlow, hhigh, EnergyField.capacity_le_regenerate hcapacity hinput, ?_,
      EnergyField.coherence_le_regenerate input⟩
    rw [EnergyField.coherence_regenerate]
    exact min_le_right _ _
  case order =>
    intro input more hinput hmore
    exact EnergyField.fedAtMost_regenerate htotal hcapacity hinput hmore
  case symbiosis =>
    intro g hg hgcap
    exact ⟨EnergyField.pairTotal_le_symbiosis htotal hg, f.frequency_symbiosis g,
      EnergyField.capacity_le_symbiosis hcapacity hgcap htotal hg,
      EnergyField.entropy_le_symbiosis htotal hg⟩

/-- A field without capacity earns no bonus, neither alone nor with a partner. -/
theorem growing_operations_grow_without_capacity :
    let f : EnergyField ℚ := { EnergyField.create "a" 100 with capacity := 0 }
    let g : EnergyField ℚ := EnergyField.create "b" 4000
    (0 ≤ f.energy.total ∧ 0 ≤ f.capacity) ∧ (0 ≤ g.energy.total ∧ 0 ≤ g.capacity) ∧
      (f.energy.total + 7 / 10 * 20 = (f.regenerate 20).energy.total ∧
        (f.regenerate 20).energy.coherence ≤ 1) ∧
      (f.regenerate 20).FedAtMost (f.regenerate 30) ∧
      10345 / 10000 * f.pairTotal g ≤ (f.symbiosis g).1.pairTotal (f.symbiosis g).2 := by
  intro f g
  have htotal : 0 ≤ f.energy.total := by decide +kernel
  have hcapacity : 0 ≤ f.capacity := by decide +kernel
  have hg : 0 ≤ g.energy.total ∧ 0 ≤ g.capacity := by decide +kernel
  obtain ⟨hharvest, horder, hsymbiosis⟩ := growing_operations_grow htotal hcapacity
  have hbarren : f.energy.total + 7 / 10 * 20 = (f.regenerate 20).energy.total := by
    decide +kernel
  exact ⟨⟨htotal, hcapacity⟩, hg, ⟨hbarren, (hharvest 20 (by norm_num)).2.2.2.1⟩,
    horder 20 30 (by norm_num) (by norm_num), (hsymbiosis g hg.1 hg.2).1⟩

end FieldCalculus
