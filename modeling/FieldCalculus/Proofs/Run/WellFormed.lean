import Mathlib.Tactic.Linarith
import Mathlib.Tactic.Positivity
import FieldCalculus.Proofs.Exact.Angle
import FieldCalculus.Proofs.Exact.Rational
import FieldCalculus.Proofs.Grammar.Forms
import FieldCalculus.Proofs.Run.Calls
/-!
# Well-formed fields

Phase angles stay on the circle, coherence is not negative, frequencies are positive, ages
count transitions, and no field comes from a split deeper than the limit.  Every transition
keeps all of this, and so does every sequence of calls.
-/

namespace FieldCalculus

variable {α : Type} [ExactScalar α]

/-- A field in the ranges that its attributes are meant for. -/
structure EnergyField.WellFormed (maxDepth : ℕ) (f : EnergyField α) : Prop where
  angle_nonneg : 0 ≤ f.energy.angle
  angle_lt : f.energy.angle < Scalar.tau
  coherence_nonneg : 0 ≤ f.energy.coherence
  frequency_pos : 0 < f.frequency
  age_whole : ∃ n : ℕ, f.age = n
  depth_le : ∃ n : ℕ, n ≤ maxDepth ∧ f.fractalDepth = n

namespace EnergyField

variable {maxDepth : ℕ} {f g : EnergyField α}

/-! ## Transitions -/

theorem wellFormed_create (name : String) (energy : α) {frequency : α} (hfrequency : 0 < frequency)
    (position : Vector3 α) : (create name energy frequency position).WellFormed maxDepth := by
  have htau : (0 : α) < Scalar.tau := ExactScalar.tau_def
  constructor
  · simp [create, Energy.zero, ExactScalar.zero_eq]
  · simpa [create, Energy.zero, ExactScalar.zero_eq] using htau
  · simp [create, Energy.zero, ExactScalar.zero_eq]
  · exact hfrequency
  · exact ⟨0, by simp [create, ExactScalar.zero_eq]⟩
  · exact ⟨0, Nat.zero_le _, by simp [create, ExactScalar.zero_eq]⟩

theorem defaultFrequency_pos : (0 : α) < defaultFrequency := by
  rw [defaultFrequency, ExactScalar.decimal_eq]
  positivity

/-- A field one transition later, with its energy state in range. -/
theorem WellFormed.later (hf : f.WellFormed maxDepth) (hage : g.age = f.age + 1.0)
    (hdepth : g.fractalDepth = f.fractalDepth)
    (hangle : 0 ≤ g.energy.angle ∧ g.energy.angle < Scalar.tau)
    (hcoherence : 0 ≤ g.energy.coherence) (hfrequency : 0 < g.frequency) :
    g.WellFormed maxDepth := by
  obtain ⟨n, hn⟩ := hf.age_whole
  refine ⟨hangle.1, hangle.2, hcoherence, hfrequency, ⟨n + 1, ?_⟩, hdepth ▸ hf.depth_le⟩
  simp [hage, hn, ExactScalar.decimal_eq]

theorem WellFormed.angle_mem (hf : f.WellFormed maxDepth) :
    0 ≤ f.energy.angle ∧ f.energy.angle < Scalar.tau :=
  ⟨hf.angle_nonneg, hf.angle_lt⟩

/-- Coherence is damped by decimal factors. -/
theorem WellFormed.damped (hf : f.WellFormed maxDepth) (digits places : ℕ) :
    0 ≤ f.energy.coherence * OfScientific.ofScientific digits true places := by
  apply mul_nonneg hf.coherence_nonneg
  rw [ExactScalar.decimal_eq]
  positivity

theorem interact_wellFormed : Couples (WellFormed maxDepth) (@interact α _) := by
  have hexchanged : ∀ (h : EnergyField α) (amount drift entropyGain : α),
      h.WellFormed maxDepth → (h.exchanged amount drift entropyGain).WellFormed maxDepth := by
    intro h amount drift entropyGain hh
    exact hh.later rfl rfl (wrapAngle_mem _) (hh.damped _ _) hh.frequency_pos
  intro f g hf hg
  exact ⟨hexchanged f _ _ _ hf, hexchanged g _ _ _ hg⟩

theorem entangle_wellFormed : Couples (WellFormed maxDepth) (@entangle α _) := by
  intro f g hf hg
  have hcoherence : 0 ≤ (f.entangle g).1.energy.coherence := by
    have hsum := add_nonneg hf.coherence_nonneg hg.coherence_nonneg
    simp only [entangle, ExactScalar.decimal_eq]
    positivity
  constructor
  · exact ⟨hf.angle_nonneg, hf.angle_lt, hcoherence, hf.frequency_pos, hf.age_whole, hf.depth_le⟩
  · exact ⟨hg.angle_nonneg, hg.angle_lt, hcoherence, hg.frequency_pos, hg.age_whole, hg.depth_le⟩

theorem resonance_pos (f g : EnergyField α) : 0 < f.resonance g := by
  have harg : -Scalar.abs (f.frequency - g.frequency) ≤ 0 := by
    rw [ExactScalar.abs_eq]
    exact neg_nonpos.mpr (abs_nonneg _)
  exact (ExactScalar.exp_def _ harg).1

theorem resonate_wellFormed : Couples (WellFormed maxDepth) (@resonate α _) := by
  intro f g hf hg
  have hr := resonance_pos f g
  -- The mean of two angles is in range without being wrapped.
  have hmean : 0 ≤ (f.energy.angle + g.energy.angle) / 2.0 ∧
      (f.energy.angle + g.energy.angle) / 2.0 < Scalar.tau := by
    obtain ⟨hflow, hfhigh⟩ := hf.angle_mem
    obtain ⟨hglow, hghigh⟩ := hg.angle_mem
    rw [ExactScalar.two_eq]
    constructor <;> linarith
  have hangle : ∀ h : EnergyField α, h.WellFormed maxDepth →
      0 ≤ (if 0.5 < f.resonance g then (f.energy.angle + g.energy.angle) / 2.0
        else h.energy.angle) ∧
      (if 0.5 < f.resonance g then (f.energy.angle + g.energy.angle) / 2.0
        else h.energy.angle) < Scalar.tau := by
    intro h hh
    split
    · exact hmean
    · exact hh.angle_mem
  have hcoherence : ∀ h : EnergyField α, h.WellFormed maxDepth →
      0 ≤ h.energy.coherence + 0.1 * f.resonance g := by
    intro h hh
    have hgain : 0 ≤ 0.1 * f.resonance g := by
      rw [ExactScalar.decimal_eq]
      positivity
    exact add_nonneg hh.coherence_nonneg hgain
  constructor
  · exact hf.later rfl rfl (hangle f hf) (hcoherence f hf) hf.frequency_pos
  · exact hg.later rfl rfl (hangle g hg) (hcoherence g hg) hg.frequency_pos

theorem flow_wellFormed : Couples (WellFormed maxDepth) (@flow α _) := by
  intro f g hf hg
  constructor
  · exact hf.later rfl rfl hf.angle_mem hf.coherence_nonneg hf.frequency_pos
  · exact hg.later rfl rfl hg.angle_mem hg.coherence_nonneg hg.frequency_pos

theorem WellFormed.transition (hf : f.WellFormed maxDepth) (target : Phase) :
    (f.transition target).WellFormed maxDepth := by
  unfold EnergyField.transition
  dsimp only
  split
  · exact hf
  · have hcoherence : 0 ≤ f.energy.coherence * (if target = .plasma then 0.5 else 1.0) := by
      split
      · exact hf.damped _ _
      · exact hf.damped _ _
    exact hf.later rfl rfl hf.angle_mem hcoherence hf.frequency_pos

theorem WellFormed.decay (hf : f.WellFormed maxDepth) (rate : α) :
    (f.decay rate).WellFormed maxDepth :=
  hf.later rfl rfl hf.angle_mem (hf.damped _ _) hf.frequency_pos

theorem WellFormed.regenerate (hf : f.WellFormed maxDepth) (input : α) :
    (f.regenerate input).WellFormed maxDepth := by
  have hgrown : 0 ≤ f.energy.coherence + 0.01 := by
    apply add_nonneg hf.coherence_nonneg
    rw [ExactScalar.decimal_eq]
    positivity
  have hone : (0 : α) ≤ 1.0 := by
    rw [ExactScalar.decimal_eq]
    positivity
  have hcoherence : 0 ≤ Scalar.least (f.energy.coherence + 0.01) 1.0 :=
    calc
      0 ≤ min (f.energy.coherence + 0.01) 1.0 := le_min hgrown hone
      _ = Scalar.least (f.energy.coherence + 0.01) 1.0 := (ExactScalar.least_def _ _).symm
  exact hf.later rfl rfl hf.angle_mem hcoherence hf.frequency_pos

theorem symbiosis_wellFormed : Couples (WellFormed maxDepth) (@symbiosis α _) := by
  intro f g hf hg
  have hfrequency : 0 < (f.symbiosis g).1.frequency := by
    have hsum := add_pos hf.frequency_pos hg.frequency_pos
    simp only [symbiosis, EnergyField.regenerate, aged, ExactScalar.decimal_eq]
    positivity
  have hgrownF := hf.regenerate (g.energy.total * 0.05)
  have hgrownG := hg.regenerate (f.energy.total * 0.05)
  constructor
  · exact ⟨hgrownF.angle_nonneg, hgrownF.angle_lt, hgrownF.coherence_nonneg, hfrequency,
      hgrownF.age_whole, hgrownF.depth_le⟩
  · exact ⟨hgrownG.angle_nonneg, hgrownG.angle_lt, hgrownG.coherence_nonneg, hfrequency,
      hgrownG.age_whole, hgrownG.depth_le⟩

/-- The spawns of a split to a whole depth within the limit. -/
theorem WellFormed.spawn (hf : f.WellFormed maxDepth) {depth : ℕ} (hdepth : depth ≤ maxDepth)
    (i : ℕ) : (f.spawn depth (Scalar.exp2 (depth : α)) i).WellFormed maxDepth := by
  obtain ⟨hangle, hlt⟩ := wrapAngle_mem
    (f.energy.angle + (i : α) * (Scalar.tau / Scalar.exp2 (depth : α)))
  have hcount : Scalar.exp2 (depth : α) = 2 ^ depth := ExactScalar.exp2_def depth
  have hfrequency : 0 < f.frequency * Scalar.exp2 (depth : α) := by
    rw [hcount]
    exact mul_pos hf.frequency_pos (by positivity)
  exact ⟨hangle, hlt, hf.coherence_nonneg, hfrequency,
    ⟨0, by simp [EnergyField.spawn, ExactScalar.zero_eq]⟩, ⟨depth, hdepth, rfl⟩⟩

end EnergyField

/-! ## Lines -/

/-- The grammar writes depths without a point. -/
theorem Form.exists_natCast_depth {text : List Char} {field : String} {iterations depth : α}
    (h : Form text (.fractalSpawn field iterations depth)) : ∃ n : ℕ, depth = n := by
  cases h with
  | @fractalSpawn _ _ _ _ _ _ _ depth =>
      refine ⟨depth, ?_⟩
      rw [Numeral.value, ExactScalar.decimal_eq, pow_zero, div_one]

theorem Operation.preserves_wellFormed {op : Operation α} (maxDepth : ℕ)
    (hdepth : ∀ field iterations depth, op = .fractalSpawn field iterations depth →
      ∃ n : ℕ, depth = n) :
    op.Preserves (EnergyField.WellFormed maxDepth) (maxDepth : α) := by
  cases op with
  | entangle => exact EnergyField.entangle_wellFormed
  | resonance => exact EnergyField.resonate_wellFormed
  | phaseTransition => exact fun f target hf => hf.transition target
  | fractalSpawn field iterations depth =>
      obtain ⟨n, rfl⟩ := hdepth field iterations depth rfl
      intro hlimit f i hf
      have hn : n ≤ maxDepth := by exact_mod_cast not_lt.mp hlimit
      exact hf.spawn hn i
  | spatialFlow => exact EnergyField.flow_wellFormed
  | network | interaction => exact EnergyField.interact_wellFormed
  | regenerate field input => exact fun f hf => hf.regenerate input
  | decay field rate => exact fun f hf => hf.decay rate
  | symbiosis => exact EnergyField.symbiosis_wellFormed
  | creation name energy =>
      exact EnergyField.wellFormed_create name energy EnergyField.defaultFrequency_pos _
  | unidirectionalFlow | unknown => trivial

theorem recognize_preserves_wellFormed (maxDepth : ℕ) (line : String) :
    (recognize line : Operation α).Preserves (EnergyField.WellFormed maxDepth) (maxDepth : α) := by
  apply Operation.preserves_wellFormed
  intro field iterations depth hop
  exact ((recognize_eq_iff_of_known (by nofun)).mp hop).exists_natCast_depth

/-! ## Runs -/

/-- With a whole limit on the depth of splits and positive frequencies for the fields that are
created by call, every field is well-formed in every state on the way through the calls. -/
theorem reachable_fields_wellFormed (options : Options α) (maxDepth : ℕ)
    (hlimit : options.maxFractalDepth = maxDepth) (calls : List (Call α))
    (hcalls : ∀ c ∈ calls, c.Creates (0 < ·.frequency)) :
    ∀ r ∈ (Interpreter.new options).registries calls,
      ∀ f ∈ r.fields, f.WellFormed maxDepth := by
  have hkeeps : Execution.Keeps (EnergyField.WellFormed maxDepth) (fun _ _ => False)
      (maxDepth : α) := by
    intro e line hdepth he
    have hline := hdepth ▸ recognize_preserves_wellFormed maxDepth line
    have hafter := Execution.step_forall hline (fun name energy =>
      EnergyField.wellFormed_create name energy EnergyField.defaultFrequency_pos _) he
    exact iff_of_true hafter id
  have hcreate : ∀ c ∈ calls, c.Creates (EnergyField.WellFormed maxDepth) := by
    intro c hc
    cases c with
    | createField name energy frequency position =>
        exact EnergyField.wellFormed_create name energy (hcalls _ hc) position
    | removeField | execute => trivial
  have hruns := Interpreter.registries_forall_iff hkeeps hcreate (i := Interpreter.new options)
    hlimit Registry.forall_empty
  exact hruns.mpr fun _ _ => id

/-- A split doubles the frequency of its spawns and spreads their angles, and the resonance
then pulls two angles together. -/
theorem reachable_fields_wellFormed_split_and_resonance :
    let calls : List (Call ℚ) :=
      [.createField "a" 100 2 Vector3.origin,
       .execute "∮^3(a, 1)\n~(a_fractal_1_0 ≈ a_fractal_1_1)", .removeField "a"]
    let reached := (Interpreter.new : Interpreter ℚ).registries calls
    reached.map Registry.names =
        [[], ["a"], ["a", "a_fractal_1_0", "a_fractal_1_1"],
          ["a", "a_fractal_1_0", "a_fractal_1_1"], ["a", "a_fractal_1_0", "a_fractal_1_1"],
          ["a_fractal_1_0", "a_fractal_1_1"]] ∧
      ∀ r ∈ reached, ∀ f ∈ r.fields, f.WellFormed 12 := by
  intro calls reached
  have hlimit : (Options.standard : Options ℚ).maxFractalDepth = (12 : ℕ) := by
    decide +kernel
  have hcalls : ∀ c ∈ calls, c.Creates (0 < ·.frequency) := by
    simp [calls, Call.Creates, EnergyField.create]
  exact ⟨by decide +kernel, reachable_fields_wellFormed Options.standard 12 hlimit calls hcalls⟩

end FieldCalculus
