import Mathlib.Tactic.Ring
import FieldCalculus.Proofs.Exact
import FieldCalculus.Proofs.Operation.Independence
/-!
# Exchanged operands

In exact arithmetic none of the five couplings has a first and a second side: with its fields
exchanged it gives the same two fields, exchanged.  So the order of the two names makes no
difference to the fields that an operation leaves, also when it creates them.
-/

namespace FieldCalculus

variable {α : Type}

section

variable [ExactScalar α]

/-! ## The couplings -/

theorem Vector3.distance_comm (a b : Vector3 α) : a.distance b = b.distance a := by
  have hsquare : ∀ x y : α, (y - x) * (y - x) = (x - y) * (x - y) := by
    intro x y
    ring
  simp only [distance, hsquare a.x b.x, hsquare a.y b.y, hsquare a.z b.z]

namespace EnergyField

variable (f g : EnergyField α)

theorem interact_swap : f.interact g = (g.interact f).swap := by
  have hneg : ∀ x y : α, -(0.1 * (x - y)) = 0.1 * (y - x) := by
    intro x y
    ring
  have hgain : Scalar.abs (0.1 * (g.energy.total - f.energy.total)) =
      Scalar.abs (0.1 * (f.energy.total - g.energy.total)) := by
    rw [← hneg, ExactScalar.abs_eq, abs_neg, ExactScalar.abs_eq]
  simp only [interact, Prod.swap_prod_mk, hneg, hgain]

theorem entangle_swap : f.entangle g = (g.entangle f).swap := by
  simp only [entangle, Prod.swap_prod_mk, add_comm g.energy.coherence]

theorem resonance_comm : f.resonance g = g.resonance f := by
  rw [resonance, resonance, ExactScalar.abs_eq, ExactScalar.abs_eq, abs_sub_comm]

theorem resonate_swap : f.resonate g = (g.resonate f).swap := by
  simp only [resonate, Prod.swap_prod_mk, g.resonance_comm f, add_comm g.energy.angle]

theorem span_comm : f.span g = g.span f := by
  rw [span, span, Vector3.distance_comm]

/-- Backward along a displacement is forward along the opposite one. -/
theorem flowed_backward (amount gain : α) (p q : Vector3 α) :
    f.flowed amount (-1.0) ⟨q.x - p.x, q.y - p.y, q.z - p.z⟩ gain =
      f.flowed amount 1.0 ⟨p.x - q.x, p.y - q.y, p.z - q.z⟩ gain := by
  have hturn : ∀ x y : α, -1.0 * (y - x) * 0.1 = 1.0 * (x - y) * 0.1 := by
    intro x y
    ring
  simp only [flowed, hturn]

theorem flow_swap : f.flow g = (g.flow f).swap := by
  have hneg : ∀ x y : α, -(0.05 * (x - y) / f.span g) = 0.05 * (y - x) / f.span g := by
    intro x y
    ring
  have hgain : Scalar.abs (0.05 * (g.energy.total - f.energy.total) / f.span g) =
      Scalar.abs (0.05 * (f.energy.total - g.energy.total) / f.span g) := by
    rw [← hneg, ExactScalar.abs_eq, abs_neg, ExactScalar.abs_eq]
  simp only [flow, Prod.swap_prod_mk, flowed_backward, g.span_comm f, hneg, hgain]

theorem symbiosis_swap : f.symbiosis g = (g.symbiosis f).swap := by
  simp only [symbiosis, Prod.swap_prod_mk, add_comm (g.energy.total * 0.05),
    add_comm (g.regenerate _).frequency]

end EnergyField

theorem gate_swap (kind : Operation.Kind) (before after : EnergyField α × EnergyField α) :
    gate kind before.swap after.swap = gate kind before after := by
  have hbefore : before.swap.1.pairTotal before.swap.2 = before.1.pairTotal before.2 :=
    add_comm _ _
  have hafter : after.swap.1.pairTotal after.swap.2 = after.1.pairTotal after.2 := add_comm _ _
  unfold gate
  rw [hbefore, hafter]

end

/-- The five ways to couple two fields. -/
inductive Coupling
  | interaction
  | entanglement
  | resonance
  | spatialFlow
  | symbiosis

namespace Coupling

section

variable [Scalar α]

/-- What a coupling makes of two fields. -/
def couple : Coupling → EnergyField α → EnergyField α → EnergyField α × EnergyField α
  | interaction => EnergyField.interact
  | entanglement => EnergyField.entangle
  | resonance => EnergyField.resonate
  | spatialFlow => EnergyField.flow
  | symbiosis => EnergyField.symbiosis

/-- The operation that couples the fields with two names.  An interaction also states its
constraints, which have no effect. -/
def operation (constraints : String) : Coupling → String → String → Operation α
  | interaction, a, b => .interaction [a, b] constraints
  | entanglement, a, b => .entangle a b
  | resonance, a, b => .resonance a b
  | spatialFlow, a, b => .spatialFlow a b
  | symbiosis, a, b => .symbiosis a b

theorem name_couple (c : Coupling) (f g : EnergyField α) :
    (c.couple f g).1.name = f.name ∧ (c.couple f g).2.name = g.name := by
  cases c <;> exact ⟨rfl, rfl⟩

end

variable [ExactScalar α]

theorem couple_swap (c : Coupling) (f g : EnergyField α) :
    c.couple f g = (c.couple g f).swap := by
  cases c with
  | interaction => exact f.interact_swap g
  | entanglement => exact f.entangle_swap g
  | resonance => exact f.resonate_swap g
  | spatialFlow => exact f.flow_swap g
  | symbiosis => exact f.symbiosis_swap g

theorem couple_self (c : Coupling) (f : EnergyField α) : (c.couple f f).1 = (c.couple f f).2 :=
  congrArg Prod.fst (c.couple_swap f f)

end Coupling

/-! ## The operations -/

/-- Both effects on a registry are of one kind, and what the one stores the other stores in the
opposite order.  Two fields with one name are the same field. -/
inductive Registry.Mirrors (r : Registry α) :
    Registry α × Verdict α → Registry α × Verdict α → Prop
  | applied {outcome outcome' : Outcome α} {f g : EnergyField α}
      (hsame : f.name = g.name → f = g) :
      Mirrors r (r.commit [f, g], .applied outcome) (r.commit [g, f], .applied outcome')
  | skipped {reason reason' : Skip} : Mirrors r (r, .skipped reason) (r, .skipped reason')
  | failed {fault fault' : Fault α} : Mirrors r (r, .failed fault) (r, .failed fault')

namespace Registry.Mirrors

variable {r : Registry α} {forth back : Registry α × Verdict α}

theorem status_eq (h : r.Mirrors forth back) : forth.2.status = back.2.status := by
  cases h <;> rfl

theorem get?_eq (h : r.Mirrors forth back) (name : String) :
    forth.1.get? name = back.1.get? name := by
  cases h with
  | @applied _ _ f g hsame =>
      by_cases hname : f.name = g.name
      · rw [hsame hname]
      · have hapart : ∀ e ∈ [f], ∀ e' ∈ [g], e.name ≠ e'.name := by simpa using hname
        exact r.get?_commit_comm hapart name
  | skipped | failed => rfl

end Registry.Mirrors

variable [ExactScalar α]

namespace Operation

variable {r : Registry α} {maxDepth : α}

theorem mirrors_couple (c : Coupling) {p q : Operation α} {f g : EnergyField α}
    (hsame : f.name = g.name → f = g) {outcome outcome' : Outcome α}
    (hp : p.Applies r maxDepth outcome [(c.couple f g).1, (c.couple f g).2])
    (hq : q.Applies r maxDepth outcome' [(c.couple g f).1, (c.couple g f).2]) :
    r.Mirrors (p.apply r maxDepth) (q.apply r maxDepth) := by
  rw [hp.apply_eq, hq.apply_eq, c.couple_swap g f]
  apply Registry.Mirrors.applied
  intro hname
  rw [(c.name_couple f g).1, (c.name_couple f g).2] at hname
  rw [hsame hname]
  exact c.couple_self g

theorem mirrors_of_failed {p q : Operation α} {fault fault' : Fault α}
    (hp : p.Declines r maxDepth (.failed fault)) (hq : q.Declines r maxDepth (.failed fault')) :
    r.Mirrors (p.apply r maxDepth) (q.apply r maxDepth) := by
  rw [hp.apply_eq, hq.apply_eq]
  exact .failed

theorem mirrors_of_skipped {p q : Operation α} {reason reason' : Skip}
    (hp : p.Declines r maxDepth (.skipped reason))
    (hq : q.Declines r maxDepth (.skipped reason')) :
    r.Mirrors (p.apply r maxDepth) (q.apply r maxDepth) := by
  rw [hp.apply_eq, hq.apply_eq]
  exact .skipped

theorem mirrors_interaction (r : Registry α) (maxDepth : α) (a b constraints : String) :
    r.Mirrors ((interaction [a, b] constraints).apply r maxDepth)
      ((interaction [b, a] constraints).apply r maxDepth) := by
  -- both orders come to the same decision at the gate
  have hswap (f g : EnergyField α) :
      gate .interaction (g, f) (g.interact f) = gate .interaction (f, g) (f.interact g) := by
    rw [g.interact_swap f]
    exact gate_swap .interaction (f, g) (f.interact g)
  rcases (interaction [a, b] constraints).applies_or_declines r maxDepth with
    ⟨_, _, happlies⟩ | ⟨_, hdeclines⟩
  · have hforth := happlies
    cases hforth with
    | interaction ha hb hf hg hgate =>
        have hback : (interaction [b, a] constraints).Applies r maxDepth _ _ :=
          .interaction hb ha hg hf ((hswap _ _).trans hgate)
        subst hf hg
        exact mirrors_couple .interaction (r.eq_of_resolve_name a b _) happlies hback
  · have hforth := hdeclines
    cases hforth with
    | interactionCount hlength => exact absurd rfl hlength
    | interactionUnnamed hname =>
        exact mirrors_of_failed hdeclines (.interactionUnnamed hname.symm)
    | interactionUnbalanced ha hb hf hg hgate =>
        exact mirrors_of_failed hdeclines
          (.interactionUnbalanced hb ha hg hf ((hswap _ _).trans hgate))

theorem mirrors_entanglement (r : Registry α) (maxDepth : α) (a b : String) :
    r.Mirrors ((entangle a b).apply r maxDepth) ((entangle b a).apply r maxDepth) := by
  rcases (entangle a b).applies_or_declines r maxDepth with ⟨_, _, happlies⟩ | ⟨_, hdeclines⟩
  · have hforth := happlies
    cases hforth with
    | entangle ha hb hf hg =>
        have hback : (Operation.entangle b a).Applies r maxDepth _ _ := .entangle hb ha hg hf
        subst hf hg
        exact mirrors_couple .entanglement (r.eq_of_resolve_name a b _) happlies hback
  · have hforth := hdeclines
    cases hforth with
    | entangleUnnamed hname => exact mirrors_of_failed hdeclines (.entangleUnnamed hname.symm)

theorem mirrors_symbiosis (r : Registry α) (maxDepth : α) (a b : String) :
    r.Mirrors ((symbiosis a b).apply r maxDepth) ((symbiosis b a).apply r maxDepth) := by
  rcases (symbiosis a b).applies_or_declines r maxDepth with ⟨_, _, happlies⟩ | ⟨_, hdeclines⟩
  · have hforth := happlies
    cases hforth with
    | symbiosis ha hb hf hg =>
        have hback : (Operation.symbiosis b a).Applies r maxDepth _ _ := .symbiosis hb ha hg hf
        subst hf hg
        exact mirrors_couple .symbiosis (r.eq_of_resolve_name a b _) happlies hback
  · have hforth := hdeclines
    cases hforth with
    | symbiosisUnnamed hname => exact mirrors_of_failed hdeclines (.symbiosisUnnamed hname.symm)

theorem mirrors_resonance (r : Registry α) (maxDepth : α) (a b : String) :
    r.Mirrors ((resonance a b).apply r maxDepth) ((resonance b a).apply r maxDepth) := by
  rcases (resonance a b).applies_or_declines r maxDepth with ⟨_, _, happlies⟩ | ⟨_, hdeclines⟩
  · have hforth := happlies
    cases hforth with
    | resonance hf hg =>
        exact mirrors_couple .resonance (Registry.eq_of_get?_name hf hg) happlies
          (.resonance hg hf)
  · have hforth := hdeclines
    cases hforth with
    | resonanceIdle hmissing => exact mirrors_of_skipped hdeclines (.resonanceIdle hmissing.symm)

theorem mirrors_spatialFlow (r : Registry α) (maxDepth : α) (a b : String) :
    r.Mirrors ((spatialFlow a b).apply r maxDepth) ((spatialFlow b a).apply r maxDepth) := by
  have hswap (f g : EnergyField α) :
      gate .spatialFlow (g, f) (g.flow f) = gate .spatialFlow (f, g) (f.flow g) := by
    rw [g.flow_swap f]
    exact gate_swap .spatialFlow (f, g) (f.flow g)
  rcases (spatialFlow a b).applies_or_declines r maxDepth with ⟨_, _, happlies⟩ | ⟨_, hdeclines⟩
  · have hforth := happlies
    cases hforth with
    | spatialFlow hf hg hgate =>
        exact mirrors_couple .spatialFlow (Registry.eq_of_get?_name hf hg) happlies
          (.spatialFlow hg hf ((hswap _ _).trans hgate))
  · have hforth := hdeclines
    cases hforth with
    | spatialFlowIdle hmissing =>
        exact mirrors_of_skipped hdeclines (.spatialFlowIdle hmissing.symm)
    | spatialFlowUnbalanced hf hg hgate =>
        exact mirrors_of_failed hdeclines
          (.spatialFlowUnbalanced hg hf ((hswap _ _).trans hgate))

end Operation

theorem Coupling.mirrors_apply (c : Coupling) (constraints : String) (r : Registry α)
    (maxDepth : α) (a b : String) :
    r.Mirrors ((c.operation constraints a b).apply r maxDepth)
      ((c.operation constraints b a).apply r maxDepth) := by
  cases c with
  | interaction => exact Operation.mirrors_interaction r maxDepth a b constraints
  | entanglement => exact Operation.mirrors_entanglement r maxDepth a b
  | resonance => exact Operation.mirrors_resonance r maxDepth a b
  | spatialFlow => exact Operation.mirrors_spatialFlow r maxDepth a b
  | symbiosis => exact Operation.mirrors_symbiosis r maxDepth a b

/-- A coupling of two fields in either order gives the same two fields, and of a field with
itself the same field twice.  An operation that couples two names ends in either order with the
same status and the same fields under all names. -/
theorem exchanged_operands_agree (c : Coupling) (constraints : String) (r : Registry α)
    (maxDepth : α) (a b : String) :
    (∀ f g : EnergyField α, c.couple f g = (c.couple g f).swap) ∧
    (∀ f : EnergyField α, (c.couple f f).1 = (c.couple f f).2) ∧
    let forth := (c.operation constraints a b).apply r maxDepth
    let back := (c.operation constraints b a).apply r maxDepth
    back.2.status = forth.2.status ∧ ∀ name, back.1.get? name = forth.1.get? name := by
  have hmirrors := c.mirrors_apply constraints r maxDepth a b
  exact ⟨c.couple_swap, c.couple_self, hmirrors.status_eq.symm,
    fun name => (hmirrors.get?_eq name).symm⟩

end FieldCalculus
