import Mathlib.Tactic.Linarith
import Mathlib.Tactic.Ring
import FieldCalculus.Proofs.Exact
import FieldCalculus.EnergyField.Change
/-!
# The ledger of phase transitions

A transition pays for each step with ten units of energy and gains two of entropy, and it
moves as much between potential and kinetic energy as it pays, to the one side when it heats
and to the other when it cools.  A field that cannot pay stays as it is.  So three sums are
the same after any transitions as before them.
-/

namespace FieldCalculus

variable {α : Type} [ExactScalar α]

theorem Phase.natCast_steps (p q : Phase) :
    (p.steps q : α) = |(q.index : α) - p.index| := by
  rcases le_total p.index q.index with h | h
  · have hcast : (p.index : α) ≤ q.index := Nat.cast_le.mpr h
    rw [steps, Nat.sub_eq_zero_of_le h, zero_add, Nat.cast_sub h,
      abs_of_nonneg (sub_nonneg.mpr hcast)]
  · have hcast : (q.index : α) ≤ p.index := Nat.cast_le.mpr h
    rw [steps, Nat.sub_eq_zero_of_le h, add_zero, Nat.cast_sub h,
      abs_of_nonpos (sub_nonpos.mpr hcast), neg_sub]

namespace EnergyField

/-! ## One transition -/

/-- The second field is the first one after it has paid for the steps to the phase. -/
structure Enters (f : EnergyField α) (target : Phase) (f' : EnergyField α) : Prop where
  phase : f'.phase = target
  age : f'.age = f.age + 1
  total : f'.energy.total = f.energy.total - 10 * f.phase.steps target
  kinetic : f'.energy.kinetic = f.energy.kinetic + 10 * (target.index - f.phase.index)
  potential : f'.energy.potential = f.energy.potential - 10 * (target.index - f.phase.index)
  entropy : f'.energy.entropy = f.energy.entropy + 2 * f.phase.steps target
  coherence : f'.energy.coherence = f.energy.coherence * if target = .plasma then 1 / 2 else 1
  angle : f'.energy.angle = f.energy.angle

variable {f g h : EnergyField α} {target : Phase}

theorem transitionCost_eq (f : EnergyField α) (target : Phase) :
    f.transitionCost target = 10 * f.phase.steps target := by
  have hten : (10.0 : α) = 10 := by norm_num [ExactScalar.decimal_eq]
  rw [transitionCost, phaseStepCost, hten, mul_comm]

theorem transition_of_lt (hcost : f.energy.total < 10 * f.phase.steps target) :
    f.transition target = f := by
  rw [← transitionCost_eq] at hcost
  exact if_pos hcost

/-- What the steps cost, with the direction of the change as its sign. -/
theorem signedCost_eq (f : EnergyField α) (target : Phase) :
    (if f.phase.index < target.index then f.transitionCost target
      else -f.transitionCost target) = 10 * ((target.index : α) - f.phase.index) := by
  rw [transitionCost_eq, Phase.natCast_steps]
  split
  · next hheating =>
    have hcast : (f.phase.index : α) ≤ target.index := Nat.cast_le.mpr hheating.le
    rw [abs_of_nonneg (sub_nonneg.mpr hcast)]
  · next hcooling =>
    have hcast : (target.index : α) ≤ f.phase.index := Nat.cast_le.mpr (not_lt.mp hcooling)
    rw [abs_of_nonpos (sub_nonpos.mpr hcast), mul_neg, neg_neg]

theorem enters_transition (hcost : 10 * (f.phase.steps target : α) ≤ f.energy.total) :
    f.Enters target (f.transition target) := by
  have hsigned := f.signedCost_eq target
  rw [← transitionCost_eq] at hcost
  rw [transition, if_neg (not_lt.mpr hcost)]
  constructor
  case phase => rfl
  case age => exact congrArg (f.age + ·) ExactScalar.one_eq
  case total => exact congrArg (f.energy.total - ·) (f.transitionCost_eq target)
  case kinetic =>
    rw [← hsigned]
    dsimp only [aged]
    split <;> ring
  case potential =>
    rw [← hsigned]
    dsimp only [aged]
    split <;> ring
  case entropy =>
    dsimp only [aged]
    rw [ExactScalar.two_eq, mul_comm]
  case coherence =>
    dsimp only [aged]
    rw [ExactScalar.half_eq, ExactScalar.one_eq]
  case angle => rfl

/-- The transition takes place: the field is one transition older after it. -/
def Undergoes (f : EnergyField α) (target : Phase) : Prop :=
  (f.transition target).age = f.age + 1

instance (f : EnergyField α) (target : Phase) : Decidable (f.Undergoes target) :=
  inferInstanceAs (Decidable (_ = _))

/-- A transition takes place if and only if the energy of the field covers its cost. -/
theorem undergoes_iff : f.Undergoes target ↔ 10 * (f.phase.steps target : α) ≤ f.energy.total := by
  constructor
  · intro hage
    by_contra hcost
    rw [Undergoes, transition_of_lt (not_le.mp hcost)] at hage
    exact (lt_add_one f.age).ne hage
  · exact fun hcost => (enters_transition hcost).age

theorem transition_of_not_undergoes (hnot : ¬ f.Undergoes target) : f.transition target = f :=
  transition_of_lt (not_le.mp (mt undergoes_iff.mpr hnot))

/-! ## Some transitions -/

/-- The field after the transitions to some phases, one after the other. -/
def through (f : EnergyField α) (targets : List Phase) : EnergyField α :=
  targets.foldl transition f

/-- The number of steps in those transitions to some phases that take place. -/
def stepsTaken : EnergyField α → List Phase → ℕ
  | _, [] => 0
  | f, target :: rest =>
    (if f.Undergoes target then f.phase.steps target else 0) +
      (f.transition target).stepsTaken rest

/-- The three sums of the ledger are the same for both fields. -/
structure SameLedger (f g : EnergyField α) : Prop where
  kinetic : g.energy.kinetic - 10 * g.phase.index = f.energy.kinetic - 10 * f.phase.index
  potential : g.energy.potential + 10 * g.phase.index = f.energy.potential + 10 * f.phase.index
  total : g.energy.total + 5 * g.energy.entropy = f.energy.total + 5 * f.energy.entropy

theorem SameLedger.refl (f : EnergyField α) : f.SameLedger f := ⟨rfl, rfl, rfl⟩

theorem SameLedger.trans (hfg : f.SameLedger g) (hgh : g.SameLedger h) : f.SameLedger h where
  kinetic := hgh.kinetic.trans hfg.kinetic
  potential := hgh.potential.trans hfg.potential
  total := hgh.total.trans hfg.total

theorem Enters.sameLedger (hentered : f.Enters target g) : f.SameLedger g where
  kinetic := by
    rw [hentered.kinetic, hentered.phase]
    ring
  potential := by
    rw [hentered.potential, hentered.phase]
    ring
  total := by
    rw [hentered.total, hentered.entropy]
    ring

theorem sameLedger_transition (f : EnergyField α) (target : Phase) :
    f.SameLedger (f.transition target) := by
  rcases lt_or_ge f.energy.total (10 * f.phase.steps target) with hcost | hcost
  · rw [transition_of_lt hcost]
    exact .refl f
  · exact (enters_transition hcost).sameLedger

theorem total_transition (f : EnergyField α) (target : Phase) :
    (f.transition target).energy.total = f.energy.total -
      10 * ((if f.Undergoes target then f.phase.steps target else 0 : ℕ) : α) := by
  split
  · next htakes => exact (enters_transition (undergoes_iff.mp htakes)).total
  · next hnot => rw [transition_of_not_undergoes hnot, Nat.cast_zero, mul_zero, sub_zero]

theorem total_transition_nonneg (htotal : 0 ≤ f.energy.total) (target : Phase) :
    0 ≤ (f.transition target).energy.total := by
  rcases lt_or_ge f.energy.total (10 * f.phase.steps target) with hcost | hcost
  · rw [transition_of_lt hcost]
    exact htotal
  · rw [(enters_transition hcost).total]
    exact sub_nonneg.mpr hcost

theorem sameLedger_through (f : EnergyField α) (targets : List Phase) :
    f.SameLedger (f.through targets) := by
  induction targets generalizing f with
  | nil => exact .refl f
  | cons target rest ih => exact (f.sameLedger_transition target).trans (ih _)

theorem total_through (f : EnergyField α) (targets : List Phase) :
    (f.through targets).energy.total = f.energy.total - 10 * f.stepsTaken targets := by
  induction targets generalizing f with
  | nil => simp [through, stepsTaken]
  | cons target rest ih =>
      calc
        (f.through (target :: rest)).energy.total =
            ((f.transition target).through rest).energy.total := rfl
        _ = f.energy.total - 10 * f.stepsTaken (target :: rest) := by
          rw [ih, total_transition, stepsTaken, Nat.cast_add]
          ring

theorem total_through_nonneg (htotal : 0 ≤ f.energy.total) (targets : List Phase) :
    0 ≤ (f.through targets).energy.total := by
  induction targets generalizing f with
  | nil => exact htotal
  | cons target rest ih => exact ih (total_transition_nonneg htotal target)

end EnergyField

end FieldCalculus
