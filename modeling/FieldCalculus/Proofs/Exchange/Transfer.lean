import Mathlib.Tactic.NormNum
import Mathlib.Tactic.Positivity
import Mathlib.Tactic.Ring
import FieldCalculus.Proofs.Exact
import FieldCalculus.Proofs.Exchange.Chain
import FieldCalculus.Proofs.Operation.Applied
/-!
# Exchanges of energy

Interaction and spatial flow let one field pay energy to another, and a network does so
pair by pair.  Whatever an applied exact operation does to a registry is a chain of such
exchanges between registered fields, once the fields that it creates are there.
-/

namespace FieldCalculus

variable {α : Type} [ExactScalar α]

/-- `f'` is the field `f` after it has paid `amount` of energy, three fifths of it kinetic
and two fifths potential.  Paying loses no entropy. -/
structure EnergyField.Pays (f : EnergyField α) (amount : α) (f' : EnergyField α) : Prop where
  name_eq : f'.name = f.name
  total_eq : f'.energy.total = f.energy.total - amount
  kinetic_eq : f'.energy.kinetic = f.energy.kinetic - amount * (3 / 5)
  potential_eq : f'.energy.potential = f.energy.potential - amount * (2 / 5)
  entropy_le : f.energy.entropy ≤ f'.energy.entropy

/-- The second registry comes out of the first by exchanges between registered fields.  A
field that stands on both sides pays itself nothing. -/
inductive Registry.Exchanges (r : Registry α) : Registry α → Prop
  | refl : Exchanges r r
  | step {s : Registry α} {f g f' g' : EnergyField α} {amount : α} (before : Exchanges r s)
      (hf : s.get? f.name = some f) (hg : s.get? g.name = some g)
      (pays : f.Pays amount f') (earns : g.Pays (-amount) g') (hself : f = g → amount = 0) :
      Exchanges r (s.commit [f', g'])

/-! ## The couplings that exchange energy -/

theorem Energy.kinetic_drained (e : Energy α) (amount : α) :
    (e.drained amount).kinetic = e.kinetic - amount * (3 / 5) := by
  simp only [Energy.drained, ExactScalar.decimal_eq]
  norm_num

theorem Energy.potential_drained (e : Energy α) (amount : α) :
    (e.drained amount).potential = e.potential - amount * (2 / 5) := by
  simp only [Energy.drained, ExactScalar.decimal_eq]
  norm_num

namespace EnergyField

/-- The entropy that a movement of energy brings to both of its sides. -/
theorem entropyGain_nonneg (amount : α) : 0 ≤ Scalar.abs amount * 0.01 := by
  rw [ExactScalar.abs_eq, ExactScalar.decimal_eq]
  positivity

theorem pays_exchanged (f : EnergyField α) {amount gain : α} (drift : α) (hgain : 0 ≤ gain) :
    f.Pays amount (f.exchanged amount drift gain) where
  name_eq := rfl
  total_eq := rfl
  kinetic_eq := f.energy.kinetic_drained amount
  potential_eq := f.energy.potential_drained amount
  entropy_le := le_add_of_nonneg_right hgain

theorem pays_flowed (f : EnergyField α) {amount gain : α} (sign : α) (d : Vector3 α)
    (hgain : 0 ≤ gain) : f.Pays amount (f.flowed amount sign d gain) where
  name_eq := rfl
  total_eq := rfl
  kinetic_eq := f.energy.kinetic_drained amount
  potential_eq := f.energy.potential_drained amount
  entropy_le := le_add_of_nonneg_right hgain

theorem interact_pays (f g : EnergyField α) :
    ∃ amount, f.Pays amount (f.interact g).1 ∧ g.Pays (-amount) (f.interact g).2 ∧
      (f = g → amount = 0) := by
  refine ⟨0.1 * (f.energy.total - g.energy.total),
    pays_exchanged f _ (entropyGain_nonneg _), pays_exchanged g _ (entropyGain_nonneg _), ?_⟩
  rintro rfl
  rw [sub_self, mul_zero]

theorem flow_pays (f g : EnergyField α) :
    ∃ amount, f.Pays amount (f.flow g).1 ∧ g.Pays (-amount) (f.flow g).2 ∧
      (f = g → amount = 0) := by
  refine ⟨0.05 * (f.energy.total - g.energy.total) / f.span g,
    pays_flowed f _ _ (entropyGain_nonneg _), pays_flowed g _ _ (entropyGain_nonneg _), ?_⟩
  rintro rfl
  rw [sub_self, mul_zero, zero_div]

end EnergyField

/-- What holds between a field and itself, is transitive and is kept by paying, holds
between every field before some exchanges and its namesake after them. -/
theorem Registry.Exchanges.keeps {R : EnergyField α → EnergyField α → Prop} {r s : Registry α}
    (h : r.Exchanges s) (hrefl : ∀ f, R f f) (htrans : ∀ {f g h}, R f g → R g h → R f h)
    (hpays : ∀ {f f' : EnergyField α} {amount}, f.Pays amount f' → R f f')
    {name : String} {e : EnergyField α} (he : r.get? name = some e) :
    ∃ e', s.get? name = some e' ∧ R e e' := by
  induction h with
  | refl => exact ⟨e, he, hrefl e⟩
  | @step s f g f' g' amount _ hf hg pays earns _ ih =>
      obtain ⟨e', he', hR⟩ := ih
      rw [commit_cons, commit_cons, commit_nil, get?_put, get?_put, pays.name_eq, earns.name_eq]
      -- the field that is written last is looked for first
      by_cases hgname : name = g.name
      · have hsame : e' = g := by
          rw [hgname, hg] at he'
          exact (Option.some.inj he').symm
        exact ⟨g', if_pos hgname, htrans hR (hsame ▸ hpays earns)⟩
      · rw [if_neg hgname]
        by_cases hfname : name = f.name
        · have hsame : e' = f := by
            rw [hfname, hf] at he'
            exact (Option.some.inj he').symm
          exact ⟨f', if_pos hfname, htrans hR (hsame ▸ hpays pays)⟩
        · rw [if_neg hfname]
          exact ⟨e', he', hR⟩

/-! ## What the exact operations do -/

/-- The energy of the fields that an exact operation creates.  Spatial flow creates none. -/
def Operation.Kind.creationEnergy : Kind → α
  | .interaction => 50
  | .network => 70
  | _ => 0

theorem Operation.Kind.creationEnergy_interaction :
    (creationEnergy .interaction : α) = defaultEnergies.interaction := by
  simp only [creationEnergy, defaultEnergies, ExactScalar.decimal_eq]
  norm_num

theorem Operation.Kind.creationEnergy_network :
    (creationEnergy .network : α) = defaultEnergies.network := by
  simp only [creationEnergy, defaultEnergies, ExactScalar.decimal_eq]
  norm_num

/-- A chain of interactions between registered fields is a chain of exchanges. -/
theorem exchanges_interactAll {maxDepth : α} {constraints : String} {r final : Registry α}
    (pairs : List (String × String)) :
    ∀ s : Registry α, r.Exchanges s → (∀ p ∈ pairs, s.Holds p) →
      interactAll maxDepth constraints s pairs = .ok final → r.Exchanges final := by
  induction pairs with
  | nil =>
      intro s hs _ hfinal
      cases hfinal
      exact hs
  | cons p rest ih =>
      intro s hs hheld hfinal
      obtain ⟨a, b⟩ := p
      obtain ⟨f, g, ha, hb, hf, hg⟩ := (hheld (a, b) List.mem_cons_self).exists_get?
      rw [interactAll_cons rest ha hb hf hg] at hfinal
      split at hfinal
      · cases hfinal
      · -- an interaction that passes the gate is one more exchange
        obtain ⟨amount, hpays, hearns, hself⟩ := f.interact_pays g
        rw [← Registry.name_of_get? hf] at hf
        rw [← Registry.name_of_get? hg] at hg
        apply ih _ (.step hs hf hg hpays hearns hself) _ hfinal
        intro q hq
        exact (hheld q (List.mem_cons_of_mem _ hq)).commit_pair _ _

/-- A spatial flow couples fields that are registered already. -/
theorem Operation.spatialFlow_names {r : Registry α} {maxDepth : α} {a b : String}
    (happlied : ((Operation.spatialFlow a b).apply r maxDepth).2.status = .applied) :
    ∀ name ∈ (Operation.spatialFlow a b : Operation α).fields, name ∈ r.names := by
  obtain ⟨outcome, stored, happlies, _⟩ := exists_applies happlied
  cases happlies with
  | spatialFlow hf hg =>
      intro name hname
      rcases List.mem_pair.mp hname with rfl | rfl
      · exact Registry.mem_names_of_get? hf
      · exact Registry.mem_names_of_get? hg

/-- An applied exact operation leads through exchanges from the registry with all the fields
that it names to the registry that it leaves. -/
theorem Operation.exchanges_of_applied {r : Registry α} {maxDepth : α} {op : Operation α}
    (hkind : op.kind.conservation = .exact)
    (happlied : (op.apply r maxDepth).2.status = .applied) :
    (r.enroll op.kind.creationEnergy op.fields).Exchanges (op.apply r maxDepth).1 := by
  obtain ⟨outcome, stored, happlies, hafter⟩ := exists_applies happlied
  rw [hafter]
  cases happlies with
  | @interaction a b _ f g _ _ hresolvef hresolveg =>
      obtain ⟨amount, hpays, hearns, hself⟩ := f.interact_pays g
      have hfa : f.name = a := by rw [← hresolvef, r.name_resolve]
      have hgb : g.name = b := by rw [← hresolveg, r.name_resolve]
      have hf : (r.enroll defaultEnergies.interaction [a, b]).get? f.name = some f := by
        rw [hfa, Registry.get?_enroll, if_pos List.mem_cons_self, hresolvef]
      have hg : (r.enroll defaultEnergies.interaction [a, b]).get? g.name = some g := by
        rw [hgb, Registry.get?_enroll, if_pos (List.mem_cons_of_mem a List.mem_cons_self),
          hresolveg]
      rw [← Registry.commit_enroll r defaultEnergies.interaction (hpays.name_eq.trans hfa)
        (hearns.name_eq.trans hgb), kind, Kind.creationEnergy_interaction]
      exact .step .refl hf hg hpays hearns hself
  | @spatialFlow a b f g hf hg =>
      obtain ⟨amount, hpays, hearns, hself⟩ := f.flow_pays g
      rw [Registry.enroll_of_subset _ (spatialFlow_names happlied)]
      rw [← Registry.name_of_get? hf] at hf
      rw [← Registry.name_of_get? hg] at hg
      exact .step .refl hf hg hpays hearns hself
  | @network names constraints staged _ hnames hrun =>
      have hchain := runPairs_members maxDepth constraints r hnames
      rw [hrun] at hchain
      rw [kind, Kind.creationEnergy_network]
      exact exchanges_interactAll _ _ .refl
        (fun p hp => r.holds_enroll _ hnames hp) hchain.symm
  | _ => cases hkind

end FieldCalculus
