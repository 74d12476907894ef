import FieldCalculus.Proofs.Exact.Rational
import FieldCalculus.Proofs.Exchange.Transfer
import FieldCalculus.Proofs.Registry.Sum
/-!
# Conservation over the whole registry

Exchanges between registered fields keep the sums of total, kinetic and potential energy
over the registry.  So the only energy that an exact operation adds to a system is that of
the fields it creates.
-/

namespace FieldCalculus

variable {α : Type} [ExactScalar α]

/-- The energy of a field that is neither kinetic nor potential. -/
def EnergyField.bare (f : EnergyField α) : α :=
  f.energy.total - f.energy.kinetic - f.energy.potential

theorem EnergyField.Pays.bare_eq {f f' : EnergyField α} {amount : α} (h : f.Pays amount f') :
    f'.bare = f.bare := by
  rw [bare, h.total_eq, h.kinetic_eq, h.potential_eq, bare]
  ring

theorem Energy.kinetic_zero : (Energy.zero : Energy α).kinetic = 0 := ExactScalar.zero_eq

theorem Energy.potential_zero : (Energy.zero : Energy α).potential = 0 := ExactScalar.zero_eq

namespace Registry

/-- A sum of something that is paid in proportion to the amount stays the same. -/
theorem Exchanges.sumOf_eq {r s : Registry α} (h : r.Exchanges s) {attr : EnergyField α → α}
    (share : α) (hattr : ∀ {f f' : EnergyField α} {amount},
      f.Pays amount f' → attr f' = attr f - amount * share) :
    s.sumOf attr = r.sumOf attr := by
  induction h with
  | refl => rfl
  | step _ hf hg pays earns hself ih =>
      rw [← ih]
      apply sumOf_commit_pair attr hf hg pays.name_eq earns.name_eq
      · rw [hattr pays, hattr earns]
        ring
      · intro hfg
        rw [hattr earns, hself hfg]
        ring

theorem Exchanges.sumOf_total {r s : Registry α} (h : r.Exchanges s) :
    s.sumOf (·.energy.total) = r.sumOf (·.energy.total) := by
  apply h.sumOf_eq 1
  intro f f' amount hpays
  rw [hpays.total_eq, mul_one]

theorem Exchanges.sumOf_kinetic {r s : Registry α} (h : r.Exchanges s) :
    s.sumOf (·.energy.kinetic) = r.sumOf (·.energy.kinetic) :=
  h.sumOf_eq (3 / 5) fun hpays => hpays.kinetic_eq

theorem Exchanges.sumOf_potential {r s : Registry α} (h : r.Exchanges s) :
    s.sumOf (·.energy.potential) = r.sumOf (·.energy.potential) :=
  h.sumOf_eq (2 / 5) fun hpays => hpays.potential_eq

theorem sumOf_total_enroll (r : Registry α) (energy : α) (names : List String) :
    (r.enroll energy names).sumOf (·.energy.total) =
      r.sumOf (·.energy.total) + (names.toFinset \ r.names.toFinset).card * energy := by
  rw [sumOf_enroll _ r energy names fun _ => rfl, nsmul_eq_mul]

end Registry

/-- An applied interaction, spatial flow or network adds the energy of the fields it creates
to the sum of all totals, one for each distinct name that was missing, and nothing else.
The sums of kinetic and potential energy stay the same, and every registered field keeps
the energy that is neither. -/
theorem exact_operations_conserve (r : Registry α) (maxDepth : α) (op : Operation α)
    (hkind : op.kind = .interaction ∨ op.kind = .spatialFlow ∨ op.kind = .network)
    (happlied : (op.apply r maxDepth).2.status = .applied) :
    let after := (op.apply r maxDepth).1
    let missing := op.fields.toFinset \ r.names.toFinset
    after.sumOf (·.energy.total) =
        r.sumOf (·.energy.total) + missing.card * op.kind.creationEnergy ∧
      (op.kind = .spatialFlow → missing = ∅) ∧
      after.sumOf (·.energy.kinetic) = r.sumOf (·.energy.kinetic) ∧
      after.sumOf (·.energy.potential) = r.sumOf (·.energy.potential) ∧
      ∀ name f, r.get? name = some f → ∃ f', after.get? name = some f' ∧ f'.bare = f.bare := by
  intro after missing
  have hexact : op.kind.conservation = .exact := by
    rcases hkind with h | h | h <;> rw [h] <;> rfl
  have hchain := Operation.exchanges_of_applied hexact happlied
  refine ⟨?_, ?_, ?_, ?_, ?_⟩
  · rw [hchain.sumOf_total, Registry.sumOf_total_enroll]
  · intro hflow
    cases op with
    | spatialFlow a b =>
        apply Finset.sdiff_eq_empty_iff_subset.mpr
        intro name hname
        rw [List.mem_toFinset] at hname ⊢
        exact Operation.spatialFlow_names happlied name hname
    | _ => cases hflow
  · rw [hchain.sumOf_kinetic]
    exact Registry.sumOf_enroll_of_zero _ r _ op.fields fun _ => Energy.kinetic_zero
  · rw [hchain.sumOf_potential]
    exact Registry.sumOf_enroll_of_zero _ r _ op.fields fun _ => Energy.potential_zero
  · intro name f hf
    apply hchain.keeps (R := fun f f' => f'.bare = f.bare) (fun f => rfl)
      (fun hfg hgh => hgh.trans hfg) (fun hpays => hpays.bare_eq)
    exact Registry.get?_enroll_of_get? _ _ hf

/-- The network creates `b` alone, though it names three members. -/
theorem exact_operations_conserve_repeated_name :
    let r : Registry ℚ := Registry.empty.put (EnergyField.create "a" 100)
    let op : Operation ℚ := .network ["a", "b", "a"] ""
    op.kind = .network ∧ (op.apply r 12).2.status = .applied ∧
      (op.apply r 12).1.sumOf (·.energy.total) = 170 := by
  intro r op
  have hkind : op.kind = .network := rfl
  have happlied : (op.apply r 12).2.status = .applied := by
    decide +kernel
  have hsum := (exact_operations_conserve r 12 op (Or.inr (Or.inr hkind)) happlied).1
  have hbefore : r.sumOf (·.energy.total) = 100 := by
    decide +kernel
  have hmissing : (op.fields.toFinset \ r.names.toFinset).card = 1 := by
    decide +kernel
  have hcreated : (op.kind.creationEnergy : ℚ) = 70 := rfl
  refine ⟨hkind, happlied, ?_⟩
  rw [hsum, hbefore, hmissing, hcreated]
  norm_num

end FieldCalculus
