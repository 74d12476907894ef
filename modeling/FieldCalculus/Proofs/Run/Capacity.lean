import Mathlib.Tactic.Linarith
import Mathlib.Tactic.Positivity
import Mathlib.Tactic.Ring
import FieldCalculus.Proofs.Exact.Rational
import FieldCalculus.Proofs.Grammar.Numbers
import FieldCalculus.Proofs.Run.Calls
/-!
# When capacity falls below zero

A harvest multiplies the capacity of a field by one and three thousandths of its input.  The
input that a line gives is not negative, but a symbiosis feeds each field a twentieth of the
other's energy, whatever its sign.  Far enough below zero that turns the sign of the
capacity, and spatial flow between close fields takes fields that far below zero.
-/

namespace FieldCalculus

variable {α : Type} [ExactScalar α]

namespace EnergyField

/-! ## Capacity after one transition -/

theorem capacity_regenerate (f : EnergyField α) (input : α) :
    (f.regenerate input).capacity = f.capacity * (1 + input * 3 / 1000) := by
  have hshare : (0.3 : α) = 3 / 10 := by norm_num [ExactScalar.decimal_eq]
  have hhundred : (100.0 : α) = 100 := by norm_num [ExactScalar.decimal_eq]
  calc
    (f.regenerate input).capacity = f.capacity * (1.0 + input * 0.3 / 100.0) := rfl
    _ = f.capacity * (1 + input * 3 / 1000) := by
      rw [ExactScalar.one_eq, hshare, hhundred]
      ring

theorem capacity_symbiosis (f g : EnergyField α) :
    (f.symbiosis g).1.capacity = f.capacity * (1 + g.energy.total * 3 / 20000) ∧
      (f.symbiosis g).2.capacity = g.capacity * (1 + f.energy.total * 3 / 20000) := by
  have hgrown : ∀ h p : EnergyField α,
      (h.regenerate (p.energy.total * 0.05)).capacity =
        h.capacity * (1 + p.energy.total * 3 / 20000) := by
    intro h p
    rw [capacity_regenerate, ExactScalar.twentieth_eq]
    ring
  exact ⟨hgrown f g, hgrown g f⟩

/-- The field has capacity, and growth on the partner leaves less than nothing of it. -/
def Overdraws (f partner : EnergyField α) : Prop :=
  0 < f.capacity ∧ partner.energy.total < -20000 / 3

theorem grown_nonneg_iff {f partner : EnergyField α} (hf : 0 ≤ f.capacity) :
    0 ≤ f.capacity * (1 + partner.energy.total * 3 / 20000) ↔ ¬ f.Overdraws partner := by
  constructor
  · rintro hgrown ⟨hpos, htotal⟩
    have hfactor : 1 + partner.energy.total * 3 / 20000 < 0 := by linarith
    exact absurd hgrown (not_le.mpr (mul_neg_of_pos_of_neg hpos hfactor))
  · intro h
    rcases hf.eq_or_lt with hzero | hpos
    · rw [← hzero, zero_mul]
    · have htotal : -20000 / 3 ≤ partner.energy.total := not_lt.mp fun htotal => h ⟨hpos, htotal⟩
      apply mul_nonneg hf
      linarith

end EnergyField

/-! ## One line -/

namespace Operation

/-- A symbiosis in which one of the fields overdraws the other. -/
def Overdraws (r : Registry α) : Operation α → Prop
  | symbiosis a b =>
    let f := r.resolve a defaultEnergies.symbiosis
    let g := r.resolve b defaultEnergies.symbiosis
    a ≠ "" ∧ b ≠ "" ∧ (f.Overdraws g ∨ g.Overdraws f)
  | _ => False

variable {r : Registry α}

theorem capacity_create_nonneg (name : String) (energy : α) :
    0 ≤ (EnergyField.create name energy).capacity := by
  simp only [EnergyField.create, ExactScalar.decimal_eq]
  positivity

theorem forall_capacity_symbiosis_iff (hr : r.Forall (0 ≤ ·.capacity)) (maxDepth : α)
    (a b : String) :
    ((symbiosis a b).apply r maxDepth).1.Forall (0 ≤ ·.capacity) ↔
      ¬ (symbiosis a b).Overdraws r := by
  by_cases hempty : a = "" ∨ b = ""
  · have hdeclines : (symbiosis a b).Declines r maxDepth _ := .symbiosisUnnamed hempty
    have hnot : ¬ (symbiosis a b).Overdraws r := by
      rintro ⟨ha, hb, _⟩
      exact hempty.elim ha hb
    rw [hdeclines.apply_eq]
    exact iff_of_true hr hnot
  · obtain ⟨ha, hb⟩ := not_or.mp hempty
    set f := r.resolve a defaultEnergies.symbiosis with hf
    set g := r.resolve b defaultEnergies.symbiosis with hg
    have happlies : (symbiosis a b).Applies r maxDepth _ _ := .symbiosis ha hb hf.symm hg.symm
    have hsame : (f.symbiosis g).1.name = (f.symbiosis g).2.name →
        (f.symbiosis g).1 = (f.symbiosis g).2 := by
      intro hname
      have hfg : f = g := r.eq_of_resolve_name a b _ hname
      rw [hfg]
      rfl
    obtain ⟨hcapF, hcapG⟩ := f.capacity_symbiosis g
    have hfnonneg : 0 ≤ f.capacity := hr.resolve capacity_create_nonneg a _
    have hgnonneg : 0 ≤ g.capacity := hr.resolve capacity_create_nonneg b _
    rw [happlies.apply_eq, Registry.forall_commit_pair_iff hr hsame, hcapF, hcapG,
      EnergyField.grown_nonneg_iff hfnonneg, EnergyField.grown_nonneg_iff hgnonneg, ← not_or]
    simp [Overdraws, ha, hb, ← hf, ← hg]

theorem preserves_capacity {op : Operation α} (maxDepth : α) (hnumbers : ∀ x ∈ op.numbers, 0 ≤ x)
    (hop : op.kind ≠ .symbiosis) : op.Preserves (0 ≤ ·.capacity) maxDepth := by
  cases op with
  | symbiosis => exact absurd rfl hop
  | phaseTransition field target =>
      intro f target hf
      unfold EnergyField.transition
      dsimp only
      split <;> exact hf
  | fractalSpawn =>
      intro _ f i hf
      refine mul_nonneg hf ?_
      rw [ExactScalar.decimal_eq]
      positivity
  | regenerate field input =>
      intro f hf
      have hinput : 0 ≤ input := hnumbers input List.mem_cons_self
      rw [EnergyField.capacity_regenerate]
      positivity
  | decay =>
      intro f hf
      refine mul_nonneg hf ?_
      rw [ExactScalar.decimal_eq]
      positivity
  | creation name energy => exact capacity_create_nonneg name energy
  | unidirectionalFlow | unknown => trivial
  | entangle | resonance | spatialFlow | network | interaction =>
      exact fun f g hf hg => ⟨hf, hg⟩

end Operation

/-! ## Runs -/

/-- The line is a symbiosis that overdraws a field. -/
def Execution.Overdraws (e : Execution α) (line : String) : Prop :=
  (recognize line : Operation α).Overdraws e.interpreter.registry

theorem Execution.keeps_capacity (maxDepth : α) :
    Execution.Keeps (0 ≤ ·.capacity) (Execution.Overdraws (α := α)) maxDepth := by
  intro e line _ he
  unfold Overdraws
  have hnumbers := recognize_numbers_nonneg (α := α) line
  by_cases hkind : (recognize line : Operation α).kind = .symbiosis
  · obtain ⟨a, b, hop⟩ : ∃ a b, (recognize line : Operation α) = .symbiosis a b := by
      cases hop : (recognize line : Operation α) <;> rw [hop] at hkind <;> cases hkind
      exact ⟨_, _, rfl⟩
    rw [step_registry, effect, hop]
    exact Operation.forall_capacity_symbiosis_iff he _ a b
  · have hafter := step_forall (Operation.preserves_capacity _ hnumbers hkind)
      Operation.capacity_create_nonneg he
    have hnot : ¬ (recognize line : Operation α).Overdraws e.interpreter.registry := by
      intro hover
      cases hop : (recognize line : Operation α) <;> rw [hop] at hover hkind
      case symbiosis => exact hkind rfl
      all_goals exact hover
    exact iff_of_true hafter hnot

/-- Through all calls, no capacity is negative as long as no line overdraws a field, and one is
as soon as one does. -/
theorem capacity_nonneg_iff_no_overdraft (options : Options α) (calls : List (Call α)) :
    (∀ r ∈ (Interpreter.new options).registries calls, ∀ f ∈ r.fields, 0 ≤ f.capacity) ↔
      ∀ run ∈ (Interpreter.new options).lineRuns calls, ¬ run.1.Overdraws run.2 := by
  have hcreate : ∀ c ∈ calls, c.Creates (0 ≤ ·.capacity) := by
    intro c _
    cases c with
    | createField name energy => exact Operation.capacity_create_nonneg name energy
    | removeField | execute => trivial
  exact Interpreter.registries_forall_iff (Execution.keeps_capacity options.maxFractalDepth)
    hcreate rfl Registry.forall_empty

/-- The flow leaves `a` at -8000, a twentieth of which is more than `c` can grow on. -/
theorem capacity_below_zero_after_symbiosis :
    let i := ((Interpreter.new : Interpreter ℚ).execute
      "a = 2000\nb = 0\n∇spatial(a, b)\n∇∇(a⇄c)").interpreter
    (i.registry.get? "c").map (·.capacity) = some (-1 / 5) ∧
      ¬ ∀ f ∈ i.registry.fields, 0 ≤ f.capacity := by
  intro i
  have hcapacity : (i.registry.get? "c").map (·.capacity) = some (-1 / 5) := by
    decide +kernel
  refine ⟨hcapacity, fun hnonneg => ?_⟩
  obtain ⟨f, hf, hc⟩ := Option.map_eq_some_iff.mp hcapacity
  have hneg := hnonneg f (Registry.mem_fields_of_get? hf)
  rw [hc] at hneg
  norm_num at hneg

end FieldCalculus
