import Mathlib.Data.List.Count
import Mathlib.Data.List.Nodup
import FieldCalculus.Proofs.Exact.Rational
import FieldCalculus.Proofs.Phase.Ledger
/-!
# Routes between two phases

A route goes through the phases in one direction and comes to none of them twice.  Its steps
add up to those between its two ends, and it reaches plasma at most once, so a field that can
pay for two routes to the same phase has the same energy after the one as after the other.
-/

namespace FieldCalculus

/-- The targets lead from the first phase to the second one, in one direction and to none of
the phases twice. -/
structure Phase.Route (p q : Phase) (targets : List Phase) : Prop where
  arrives : (p :: targets).getLast? = some q
  oneWay : (p :: targets).Pairwise (·.index ≤ ·.index) ∨
    (p :: targets).Pairwise (·.index ≥ ·.index)
  nodup : (p :: targets).Nodup

namespace Phase.Route

variable {p q target : Phase} {targets rest : List Phase}

theorem mem (h : Route p q targets) : q ∈ p :: targets :=
  List.mem_of_getLast? h.arrives

theorem tail (h : Route p q (target :: rest)) : Route target q rest where
  arrives := by
    have harrives := h.arrives
    rwa [List.getLast?_cons_cons] at harrives
  oneWay := h.oneWay.imp List.Pairwise.of_cons List.Pairwise.of_cons
  nodup := h.nodup.of_cons

/-- Every phase on the way lies between the two ends. -/
theorem between (h : Route p q targets) {phase : Phase} (hphase : phase ∈ p :: targets) :
    p.index ≤ phase.index ∧ phase.index ≤ q.index ∨
      q.index ≤ phase.index ∧ phase.index ≤ p.index := by
  obtain ⟨before, hbefore⟩ := List.getLast?_eq_some_iff.mp h.arrives
  have hlast : phase ∈ before ∨ phase = q := by
    rw [hbefore] at hphase
    simpa using hphase
  have hfirst : phase = p ∨ phase ∈ targets := List.mem_cons.mp hphase
  rcases h.oneWay with hup | hdown
  · refine Or.inl ⟨?_, ?_⟩
    · rcases hfirst with rfl | hmem
      · exact le_rfl
      · exact List.rel_of_pairwise_cons hup hmem
    · rcases hlast with hmem | rfl
      · rw [hbefore] at hup
        exact (List.pairwise_append.mp hup).2.2 _ hmem _ (List.mem_singleton_self q)
      · exact le_rfl
  · refine Or.inr ⟨?_, ?_⟩
    · rcases hlast with hmem | rfl
      · rw [hbefore] at hdown
        exact (List.pairwise_append.mp hdown).2.2 _ hmem _ (List.mem_singleton_self q)
      · exact le_rfl
    · rcases hfirst with rfl | hmem
      · exact le_rfl
      · exact List.rel_of_pairwise_cons hdown hmem

theorem steps_add (h : Route p q (target :: rest)) :
    p.steps target + target.steps q = p.steps q := by
  have hbetween := h.between (List.mem_cons_of_mem p List.mem_cons_self)
  unfold steps
  omega

/-- Plasma is the last of the phases, so it can only be the end of a route or its start. -/
theorem count_plasma (h : Route p q targets) :
    targets.count .plasma = if q = .plasma ∧ p ≠ .plasma then 1 else 0 := by
  obtain ⟨hp, hnodup⟩ := List.nodup_cons.mp h.nodup
  have hmem : plasma ∈ targets ↔ q = plasma ∧ p ≠ plasma := by
    constructor
    · intro hplasma
      have hne : p ≠ plasma := fun e => hp (e ▸ hplasma)
      refine ⟨?_, hne⟩
      have hbetween := h.between (List.mem_cons_of_mem p hplasma)
      cases p <;> cases q <;> simp [index] at hne hbetween ⊢
    · rintro ⟨rfl, hne⟩
      exact (List.mem_cons.mp h.mem).resolve_left hne.symm
  rw [hnodup.count]
  simp only [hmem]

end Phase.Route

variable {α : Type} [ExactScalar α]

namespace EnergyField

/-- Each of the transitions takes place in its turn. -/
def Completes : EnergyField α → List Phase → Prop
  | _, [] => True
  | f, target :: rest => f.Undergoes target ∧ (f.transition target).Completes rest

instance decidableCompletes :
    ∀ (f : EnergyField α) (targets : List Phase), Decidable (f.Completes targets)
  | _, [] => inferInstanceAs (Decidable True)
  | f, target :: rest =>
    have := decidableCompletes (f.transition target) rest
    inferInstanceAs (Decidable (_ ∧ _))

variable {f : EnergyField α} {q target : Phase} {targets rest : List Phase}

theorem Completes.enters (h : f.Completes (target :: rest)) :
    f.Enters target (f.transition target) :=
  enters_transition (undergoes_iff.mp h.1)

theorem Completes.route (h : f.Completes (target :: rest))
    (hroute : f.phase.Route q (target :: rest)) : (f.transition target).phase.Route q rest := by
  rw [h.enters.phase]
  exact hroute.tail

theorem phase_through (hroute : f.phase.Route q targets) (h : f.Completes targets) :
    (f.through targets).phase = q := by
  induction targets generalizing f with
  | nil => exact Option.some.inj hroute.arrives
  | cons target rest ih => exact ih (h.route hroute) h.2

theorem stepsTaken_of_route (hroute : f.phase.Route q targets) (h : f.Completes targets) :
    f.stepsTaken targets = f.phase.steps q := by
  induction targets generalizing f with
  | nil =>
      obtain rfl : f.phase = q := Option.some.inj hroute.arrives
      simp [stepsTaken, Phase.steps]
  | cons target rest ih =>
      rw [stepsTaken, if_pos h.1, ih (h.route hroute) h.2, h.enters.phase, hroute.steps_add]

/-- Each time that plasma is entered takes half of the coherence. -/
theorem coherence_through (h : f.Completes targets) :
    (f.through targets).energy.coherence =
      f.energy.coherence * (1 / 2) ^ targets.count .plasma := by
  induction targets generalizing f with
  | nil => simp [through]
  | cons target rest ih =>
      calc
        (f.through (target :: rest)).energy.coherence =
            ((f.transition target).through rest).energy.coherence := rfl
        _ = f.energy.coherence * (if target = .plasma then 1 / 2 else 1) *
            (1 / 2) ^ rest.count .plasma := by rw [ih h.2, h.enters.coherence]
        _ = f.energy.coherence * (1 / 2) ^ (target :: rest).count .plasma := by
          rw [List.count_cons]
          by_cases hplasma : target = .plasma
          · simp only [hplasma, if_true, beq_self_eq_true, pow_succ']
            ring
          · simp [hplasma]

theorem angle_transition (f : EnergyField α) (target : Phase) :
    (f.transition target).energy.angle = f.energy.angle := by
  rcases lt_or_ge f.energy.total (10 * f.phase.steps target) with hcost | hcost
  · rw [transition_of_lt hcost]
  · exact (enters_transition hcost).angle

theorem angle_through (f : EnergyField α) (targets : List Phase) :
    (f.through targets).energy.angle = f.energy.angle := by
  induction targets generalizing f with
  | nil => rfl
  | cons target rest ih => exact (ih (f.transition target)).trans (f.angle_transition target)

/-- The energy after a route depends on its two ends alone. -/
theorem energy_through_of_route (hroute : f.phase.Route q targets) (h : f.Completes targets) :
    (f.through targets).energy =
      { total := f.energy.total - 10 * f.phase.steps q
        kinetic := f.energy.kinetic + 10 * (q.index - f.phase.index)
        potential := f.energy.potential - 10 * (q.index - f.phase.index)
        entropy := f.energy.entropy + 2 * f.phase.steps q
        coherence := f.energy.coherence *
          (1 / 2) ^ (if q = .plasma ∧ f.phase ≠ .plasma then 1 else 0)
        angle := f.energy.angle } := by
  have hledger := f.sameLedger_through targets
  have hphase := phase_through hroute h
  have htotal := f.total_through targets
  rw [stepsTaken_of_route hroute h] at htotal
  have hkinetic := hledger.kinetic
  have hpotential := hledger.potential
  have hentropy := hledger.total
  rw [hphase] at hkinetic hpotential
  have hcoherence := coherence_through h
  rw [hroute.count_plasma] at hcoherence
  rw [Energy.mk.injEq]
  refine ⟨htotal, ?_, ?_, ?_, hcoherence, f.angle_through targets⟩ <;> linarith

end EnergyField

/-- Transitions keep the three sums of the ledger, and they take ten units of energy for each
step of those that take place, which are the ones that the energy covers.  Two completed routes
to the same phase leave the same energy. -/
theorem transitions_keep_ledger (f : EnergyField α) (targets : List Phase) :
    let g := f.through targets
    (g.energy.kinetic - 10 * g.phase.index = f.energy.kinetic - 10 * f.phase.index ∧
      g.energy.potential + 10 * g.phase.index = f.energy.potential + 10 * f.phase.index ∧
      g.energy.total + 5 * g.energy.entropy = f.energy.total + 5 * f.energy.entropy) ∧
    g.energy.total = f.energy.total - 10 * f.stepsTaken targets ∧
    (0 ≤ f.energy.total → 0 ≤ g.energy.total) ∧
    (∀ target : Phase,
      (g.Undergoes target ↔ 10 * |(target.index : α) - g.phase.index| ≤ g.energy.total) ∧
      (g.Undergoes target → (g.transition target).phase = target) ∧
      (¬ g.Undergoes target → g.transition target = g)) ∧
    ∀ q route route', f.phase.Route q route → f.phase.Route q route' →
      f.Completes route → f.Completes route' →
      (f.through route).energy = (f.through route').energy := by
  intro g
  have hledger : f.SameLedger g := f.sameLedger_through targets
  refine ⟨⟨hledger.kinetic, hledger.potential, hledger.total⟩, f.total_through targets,
    fun htotal => EnergyField.total_through_nonneg htotal targets, ?_, ?_⟩
  · intro target
    refine ⟨?_, fun htakes => ?_, EnergyField.transition_of_not_undergoes⟩
    · rw [← Phase.natCast_steps]
      exact EnergyField.undergoes_iff
    · exact (EnergyField.enters_transition (EnergyField.undergoes_iff.mp htakes)).phase
  · intro q route route' hroute hroute' hcompletes hcompletes'
    rw [EnergyField.energy_through_of_route hroute hcompletes,
      EnergyField.energy_through_of_route hroute' hcompletes']

/-- Three transitions use up all the energy, so that of two more only the one without a step
takes place.  Plasma can be reached at once or in three steps. -/
theorem transitions_keep_ledger_until_spent :
    let f : EnergyField ℚ := EnergyField.create "a" 100
    let g := f.through [.plasma, .crystalline, .gas]
    (0 ≤ f.energy.total ∧ 0 ≤ g.energy.total) ∧
    (g.Undergoes .gas ∧ (g.transition .gas).phase = .gas) ∧
    (¬ g.Undergoes .liquid ∧ g.transition .liquid = g) ∧
    (f.phase.Route .plasma [.plasma] ∧ f.Completes [.plasma]) ∧
    (f.phase.Route .plasma [.liquid, .gas, .plasma] ∧ f.Completes [.liquid, .gas, .plasma]) ∧
    (f.through [.plasma]).energy = (f.through [.liquid, .gas, .plasma]).energy := by
  intro f g
  have htotal : 0 ≤ f.energy.total := by decide +kernel
  have hgas : g.Undergoes .gas := by decide +kernel
  have hliquid : ¬ g.Undergoes .liquid := by decide +kernel
  have hdirect : f.phase.Route .plasma [.plasma] := ⟨rfl, Or.inl (by decide), by decide⟩
  have hsteps : f.phase.Route .plasma [.liquid, .gas, .plasma] :=
    ⟨rfl, Or.inl (by decide), by decide⟩
  have hcompletes : f.Completes [.plasma] := by decide +kernel
  have hcompletes' : f.Completes [.liquid, .gas, .plasma] := by decide +kernel
  obtain ⟨_, _, hnonneg, htakes, hroutes⟩ :=
    transitions_keep_ledger f [.plasma, .crystalline, .gas]
  exact ⟨⟨htotal, hnonneg htotal⟩, ⟨hgas, (htakes .gas).2.1 hgas⟩,
    ⟨hliquid, (htakes .liquid).2.2 hliquid⟩, ⟨hdirect, hcompletes⟩, ⟨hsteps, hcompletes'⟩,
    hroutes _ _ _ hdirect hsteps hcompletes hcompletes'⟩

end FieldCalculus
