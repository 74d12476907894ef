import Mathlib.Tactic.Linarith
import FieldCalculus.Proofs.Exact.Rational
import FieldCalculus.Proofs.Exchange.Transfer
import FieldCalculus.Proofs.Grammar.Numbers
import FieldCalculus.Proofs.Run.Verdicts
/-!
# When entropy falls

Exchanges of energy take no entropy from any field.  Decay turns a tenth of the energy it
takes into entropy, with its sign: a field below zero gains energy as it decays, and loses
entropy.  Spatial flow between close fields takes fields below zero.
-/

namespace FieldCalculus

variable {α : Type} [ExactScalar α]

/-- No field of the first registry has less entropy in the second one. -/
def Registry.KeepsEntropy (r s : Registry α) : Prop :=
  ∀ name f, r.get? name = some f →
    ∃ f', s.get? name = some f' ∧ f.energy.entropy ≤ f'.energy.entropy

theorem Registry.Exchanges.keepsEntropy {r s : Registry α} (h : r.Exchanges s) :
    r.KeepsEntropy s := by
  intro name f hf
  exact h.keeps (R := fun f f' => f.energy.entropy ≤ f'.energy.entropy) (fun f => le_rfl)
    (fun hfg hgh => hfg.trans hgh) (fun hpays => hpays.entropy_le) hf

/-- Storing a field over its namesake keeps entropy if the two of them do. -/
theorem Registry.keepsEntropy_put_iff {r : Registry α} {f f' : EnergyField α}
    (hf : r.get? f'.name = some f) :
    r.KeepsEntropy (r.put f') ↔ f.energy.entropy ≤ f'.energy.entropy := by
  constructor
  · intro h
    obtain ⟨g, hg, hle⟩ := h f'.name f hf
    rw [get?_put_self] at hg
    cases hg
    exact hle
  · intro hle name g hg
    rw [get?_put]
    by_cases hname : name = f'.name
    · have hsame : g = f := by
        rw [hname, hf] at hg
        exact (Option.some.inj hg).symm
      exact ⟨f', if_pos hname, hsame ▸ hle⟩
    · exact ⟨g, by rw [if_neg hname, hg], le_rfl⟩

theorem EnergyField.entropy_decay (f : EnergyField α) (rate : α) :
    (f.decay rate).energy.entropy = f.energy.entropy + f.energy.total * rate / 10 := by
  simp only [decay, aged, ExactScalar.decimal_eq]
  norm_num
  ring

namespace Operation

variable {r : Registry α} {maxDepth : α}

/-- A decay keeps entropy unless it takes a negative amount of energy. -/
theorem keepsEntropy_decay_iff {name : String} {rate : α}
    (happlied : ((decay name rate).apply r maxDepth).2.status = .applied) :
    r.KeepsEntropy ((decay name rate).apply r maxDepth).1 ↔
      ∀ f, r.get? name = some f → 0 ≤ f.energy.total * rate := by
  obtain ⟨outcome, stored, happlies, hafter⟩ := exists_applies happlied
  cases happlies with | @decay _ _ f hf => ?_
  have hname : (f.decay rate).name = name :=
    calc
      (f.decay rate).name = f.name := rfl
      _ = name := Registry.name_of_get? hf
  have hput : ((decay name rate).apply r maxDepth).1 = r.put (f.decay rate) := by
    rw [hafter, Registry.commit_cons, Registry.commit_nil]
  have hkeeps : r.KeepsEntropy (r.put (f.decay rate)) ↔
      f.energy.entropy ≤ (f.decay rate).energy.entropy :=
    Registry.keepsEntropy_put_iff (hname ▸ hf)
  rw [hput, hkeeps, EnergyField.entropy_decay, le_add_iff_nonneg_right]
  constructor
  · intro h g hg
    rw [hf] at hg
    cases hg
    linarith
  · intro h
    have hloss := h f hf
    linarith

theorem keepsEntropy_of_exact {op : Operation α} (hexact : op.kind.conservation = .exact)
    (happlied : (op.apply r maxDepth).2.status = .applied) :
    r.KeepsEntropy (op.apply r maxDepth).1 := by
  have hchain := exchanges_of_applied hexact happlied
  intro name f hf
  exact hchain.keepsEntropy name f (Registry.get?_enroll_of_get? _ _ hf)

theorem keepsEntropy_iff {op : Operation α}
    (hkind : op.kind ∈ [Kind.decay, .interaction, .spatialFlow, .network])
    (hnumbers : ∀ x ∈ op.numbers, 0 ≤ x)
    (happlied : (op.apply r maxDepth).2.status = .applied) :
    r.KeepsEntropy (op.apply r maxDepth).1 ↔
      ¬ ∃ name rate f, op = .decay name rate ∧ r.get? name = some f ∧
        f.energy.total < 0 ∧ 0 < rate := by
  by_cases hexact : op.kind.conservation = .exact
  · constructor
    · rintro _ ⟨name, rate, f, rfl, _⟩
      cases hexact
    · intro _
      exact keepsEntropy_of_exact hexact happlied
  · obtain ⟨name, rate, rfl⟩ : ∃ name rate, op = .decay name rate := by
      simp only [List.mem_cons, List.not_mem_nil, or_false] at hkind
      rcases hkind with h | h | h | h
      · cases op <;> cases h
        exact ⟨_, _, rfl⟩
      all_goals
        rw [h] at hexact
        exact absurd rfl hexact
    have hrate : 0 ≤ rate := hnumbers rate List.mem_cons_self
    rw [keepsEntropy_decay_iff happlied]
    constructor
    · rintro h ⟨_, _, f, hop, hf, htotal, hpos⟩
      cases hop
      have hloss := h f hf
      have hneg := mul_neg_of_neg_of_pos htotal hpos
      exact absurd hloss (not_le.mpr hneg)
    · intro h f hf
      by_contra hloss
      have hneg : f.energy.total * rate < 0 := not_le.mp hloss
      have hpos : 0 < rate := by
        apply lt_of_le_of_ne hrate
        rintro rfl
        rw [mul_zero] at hneg
        exact lt_irrefl 0 hneg
      exact h ⟨name, rate, f, rfl, hf, neg_of_mul_neg_left hneg hrate, hpos⟩

end Operation

/-- An applied decay, interaction, spatial flow or network takes entropy from a registered
field if and only if it is the decay, at a positive rate, of a field below zero. -/
theorem entropy_kept_iff_no_decay_below_zero (e : Execution α) (line : String)
    (hkind : (recognize line : Operation α).kind ∈
      [Operation.Kind.decay, .interaction, .spatialFlow, .network])
    (happlied : (e.verdict line).status = .applied) :
    e.interpreter.registry.KeepsEntropy (e.step line).interpreter.registry ↔
      ¬ ∃ name rate f, (recognize line : Operation α) = .decay name rate ∧
        e.interpreter.registry.get? name = some f ∧ f.energy.total < 0 ∧ 0 < rate := by
  rw [Execution.step_registry]
  exact Operation.keepsEntropy_iff hkind (recognize_numbers_nonneg line) happlied

/-- The flow leaves 300 to `b`, so a decay of `b` takes no entropy. -/
theorem entropy_kept_by_decay_above_zero :
    let e := ((Interpreter.new : Interpreter ℚ).execute
      "a = 100\nb = 50\n∇spatial(a, b)").interpreter.start
    (recognize "∂decay(b)" : Operation ℚ).kind ∈
        [Operation.Kind.decay, .interaction, .spatialFlow, .network] ∧
      (e.verdict "∂decay(b)").status = .applied ∧
      e.interpreter.registry.KeepsEntropy (e.step "∂decay(b)").interpreter.registry := by
  intro e
  have hkind : (recognize "∂decay(b)" : Operation ℚ).kind ∈
      [Operation.Kind.decay, .interaction, .spatialFlow, .network] := by
    decide +kernel
  have happlied : (e.verdict "∂decay(b)").status = .applied := by
    decide +kernel
  have hrecognized : (recognize "∂decay(b)" : Operation ℚ) = .decay "b" (1 / 20) := by
    decide +kernel
  have htotal : (e.interpreter.registry.get? "b").map (·.energy.total) = some 300 := by
    decide +kernel
  have hiff := entropy_kept_iff_no_decay_below_zero e "∂decay(b)" hkind happlied
  refine ⟨hkind, happlied, hiff.mpr ?_⟩
  rintro ⟨name, rate, f, hdecay, hf, hbelow, _⟩
  obtain ⟨rfl, rfl⟩ := Operation.decay.inj (hrecognized.symm.trans hdecay)
  rw [hf, Option.map_some, Option.some.injEq] at htotal
  rw [htotal] at hbelow
  norm_num at hbelow

/-- The flow leaves `a` at -150, and so a decay of `a` takes entropy from it. -/
theorem entropy_falls_in_decay_below_zero :
    let e := ((Interpreter.new : Interpreter ℚ).execute
      "a = 100\nb = 50\n∇spatial(a, b)").interpreter.start
    (recognize "∂decay(a)" : Operation ℚ) = .decay "a" (1 / 20) ∧
      (e.verdict "∂decay(a)").status = .applied ∧
      ¬ e.interpreter.registry.KeepsEntropy (e.step "∂decay(a)").interpreter.registry := by
  intro e
  have hbefore : (e.interpreter.registry.get? "a").map (·.energy.entropy) = some (7 / 2) := by
    decide +kernel
  have hafter : ((e.step "∂decay(a)").interpreter.registry.get? "a").map
      (·.energy.entropy) = some (11 / 4) := by
    decide +kernel
  refine ⟨by decide +kernel, by decide +kernel, ?_⟩
  intro hkeeps
  obtain ⟨f, hf, hentropy⟩ := Option.map_eq_some_iff.mp hbefore
  obtain ⟨f', hf', hle⟩ := hkeeps "a" f hf
  rw [hf', Option.map_some, Option.some.injEq] at hafter
  rw [hentropy, hafter] at hle
  norm_num at hle

end FieldCalculus
