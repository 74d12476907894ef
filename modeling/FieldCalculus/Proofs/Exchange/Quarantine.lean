import FieldCalculus.Proofs.Exact.Extended
import FieldCalculus.Proofs.Exact.Rational
import FieldCalculus.Proofs.Operation.Names
import FieldCalculus.Proofs.Run.Atomicity
/-!
# Totals that are not finite

The gate of an exact operation lets no pair through whose total is infinite or undefined,
before or after.  A pair with such a total is every pair with such a field, so no exact
operation moves energy between a finite field and one that is not, and none makes one.
-/

namespace FieldCalculus

/-- Scalars whose sum is finite only if both summands are. -/
class FiniteSums (α : Type) [Scalar α] : Prop where
  of_add {x y : α} : Scalar.isFinite (x + y) = true →
    Scalar.isFinite x = true ∧ Scalar.isFinite y = true

instance {α : Type} [ExactScalar α] : FiniteSums (Extended α) where
  of_add := Extended.isFinite_of_add

variable {α : Type} [Scalar α]

/-- The total of the field is neither infinite nor undefined. -/
def EnergyField.Finite (f : EnergyField α) : Prop :=
  Scalar.isFinite f.energy.total = true

/-! ## The gate -/

/-- A fault of the gate is an imbalance. -/
theorem code_of_gate {kind : Operation.Kind} {before after : EnergyField α × EnergyField α}
    {fault : Fault α} (h : gate kind before after = some fault) :
    fault.code = "CONSERVATION_VIOLATION" := by
  unfold gate at h
  dsimp only at h
  split at h
  · cases h
    rfl
  · cases h

theorem Evaluation.code_of_runPairs {r : Registry α} {names : List String} {fault : Fault α}
    (h : runPairs r (members r names) (indexPairs names) = .error fault) :
    fault.code = "CONSERVATION_VIOLATION" := by
  have hmembers : (members r names).Forall fun _ => True := fun _ _ => trivial
  have hspec := runPairs_spec (r := r) (fun _ _ => trivial) (fun _ _ _ _ => ⟨trivial, trivial⟩)
    (indexPairs names) (fun _ hp => mem_of_mem_indexPairs hp) hmembers
  obtain ⟨f, g, _, _, hgate⟩ := hspec.2 fault h
  exact code_of_gate hgate

/-- The members of a network after one of its pairs. -/
theorem Evaluation.member_interact (r staged : Registry α) (a b name : String) :
    let after := (member r staged a).interact (member r staged b)
    member r ((staged.put after.1).put after.2) name =
      if name = b then after.2 else if name = a then after.1 else member r staged name := by
  intro after
  have hfirst : after.1.name = a := name_member r staged a
  have hsecond : after.2.name = b := name_member r staged b
  rw [member, Registry.get?_put, Registry.get?_put, hfirst, hsecond]
  split
  · rfl
  · split
    · rfl
    · rfl

theorem Registry.exists_finite_commit_pair (r : Registry α) {f g : EnergyField α} {name : String}
    (h : name = f.name ∨ name = g.name) (hf : f.Finite) (hg : g.Finite) :
    ∃ e, (r.commit [f, g]).get? name = some e ∧ e.Finite := by
  rw [commit_cons, commit_cons, commit_nil, get?_put, get?_put]
  by_cases hsecond : name = g.name
  · exact ⟨g, if_pos hsecond, hg⟩
  · exact ⟨f, by rw [if_neg hsecond, if_pos (h.resolve_right hsecond)], hf⟩

section Finite

variable [FiniteSums α]

/-- What passes the gate of an exact operation is finite, before and after. -/
theorem finite_of_gate {kind : Operation.Kind} (hexact : kind.conservation = .exact)
    {before after : EnergyField α × EnergyField α} (h : gate kind before after = none) :
    (before.1.Finite ∧ before.2.Finite) ∧ after.1.Finite ∧ after.2.Finite := by
  unfold gate at h
  dsimp only at h
  split at h
  · cases h
  · next hbalanced =>
    have htrue : balanced (before.1.pairTotal before.2) (after.1.pairTotal after.2) = true := by
      rw [← Bool.not_eq_false]
      exact fun hfalse => hbalanced ⟨hexact, hfalse⟩
    rw [balanced, Bool.and_eq_true, Bool.and_eq_true] at htrue
    exact ⟨FiniteSums.of_add htrue.1.1, FiniteSums.of_add htrue.1.2⟩

/-! ## The pairs of a network -/

namespace Evaluation

/-- The fields of a pair that passes are finite before and after, and it touches no other, so
the same members are finite before and after. -/
theorem finite_member_interact_iff {r staged : Registry α} {a b : String}
    (hgate : gate .network (member r staged a, member r staged b)
      ((member r staged a).interact (member r staged b)) = none) (name : String) :
    let after := (member r staged a).interact (member r staged b)
    (member r ((staged.put after.1).put after.2) name).Finite ↔
      (member r staged name).Finite := by
  intro after
  obtain ⟨⟨hf, hg⟩, hf', hg'⟩ := finite_of_gate rfl hgate
  rw [member_interact]
  by_cases hb : name = b
  · rw [if_pos hb, hb]
    exact iff_of_true hg' hg
  · rw [if_neg hb]
    by_cases ha : name = a
    · rw [if_pos ha, ha]
      exact iff_of_true hf' hf
    · rw [if_neg ha]

/-- In a run of pairs that all pass, the fields of each pair are finite from the start and
stay so. -/
theorem finite_of_runPairs {r final : Registry α} {pairs : List (String × String)} :
    ∀ {staged : Registry α}, runPairs r staged pairs = .ok final →
      (∀ name, (member r final name).Finite ↔ (member r staged name).Finite) ∧
      ∀ p ∈ pairs, (member r staged p.1).Finite ∧ (member r staged p.2).Finite := by
  induction pairs with
  | nil =>
      intro staged h
      cases h
      exact ⟨fun _ => Iff.rfl, fun _ hp => absurd hp List.not_mem_nil⟩
  | cons p rest ih =>
      intro staged h
      obtain ⟨a, b⟩ := p
      rw [runPairs] at h
      split at h
      · cases h
      · next hgate =>
        obtain ⟨hkept, hrest⟩ := ih h
        have hstep := finite_member_interact_iff hgate
        refine ⟨fun name => (hkept name).trans (hstep name), ?_⟩
        intro q hq
        rcases List.mem_cons.mp hq with rfl | hq
        · exact (finite_of_gate rfl hgate).1
        · -- a later pair meets its fields as finite as they were before this pair
          obtain ⟨hleft, hright⟩ := hrest q hq
          exact ⟨(hstep q.1).mp hleft, (hstep q.2).mp hright⟩

/-- Every member of a network meets some pair. -/
theorem finite_of_network {r staged : Registry α} {names : List String}
    (hlength : ¬ names.length < 2)
    (hrun : runPairs r (members r names) (indexPairs names) = .ok staged)
    {name : String} (hname : name ∈ names) :
    (∀ f, r.get? name = some f → f.Finite) ∧
      ∃ f, (r.commit staged.fields).get? name = some f ∧ f.Finite := by
  obtain ⟨p, hp, hside⟩ := exists_mem_indexPairs hlength hname
  obtain ⟨hkept, hpairs⟩ := finite_of_runPairs hrun
  have hbefore : (member r (members r names) name).Finite := by
    obtain ⟨hleft, hright⟩ := hpairs p hp
    rcases hside with rfl | rfl
    · exact hleft
    · exact hright
  have hafter := (hkept name).mpr hbefore
  rw [member_eq_resolve] at hbefore hafter
  constructor
  · intro f hf
    rwa [commit_members, Registry.resolve_of_get? _ (Registry.get?_enroll_of_get? _ names hf)]
      at hbefore
  · have hmem : name ∈ (r.commit staged.fields).names := by
      rw [names_commit_network hrun, List.mem_append, List.mem_eraseDups, List.mem_filter]
      by_cases hold : name ∈ r.names
      · exact Or.inl hold
      · exact Or.inr ⟨hname, decide_eq_true hold⟩
    obtain ⟨f, hf⟩ := Registry.exists_get?_of_mem_names hmem
    rw [Registry.resolve_of_get? _ hf] at hafter
    exact ⟨f, hf, hafter⟩

end Evaluation

/-! ## The exact operations -/

namespace Operation

variable {r : Registry α} {maxDepth : α} {op : Operation α}

/-- An applied exact operation names fields with finite totals and leaves them so. -/
theorem Applies.finite {outcome : Outcome α} {stored : List (EnergyField α)}
    (h : op.Applies r maxDepth outcome stored) (hexact : op.kind.conservation = .exact)
    {name : String} (hname : name ∈ op.fields) :
    (∀ e, r.get? name = some e → e.Finite) ∧
      ∃ e, (r.commit stored).get? name = some e ∧ e.Finite := by
  cases h with
  | network hlength _ hrun => exact Evaluation.finite_of_network hlength hrun hname
  | @interaction a b _ f g _ _ hf hg hgate =>
      obtain ⟨⟨hff, hgf⟩, hff', hgf'⟩ := finite_of_gate rfl hgate
      have ha : f.name = a := hf ▸ r.name_resolve a _
      have hb : g.name = b := hg ▸ r.name_resolve b _
      have hside : name = a ∨ name = b := List.mem_pair.mp hname
      constructor
      · intro e he
        rcases hside with rfl | rfl
        · rwa [← hf, Registry.resolve_of_get? _ he] at hff
        · rwa [← hg, Registry.resolve_of_get? _ he] at hgf
      · rw [← ha, ← hb] at hside
        exact r.exists_finite_commit_pair hside hff' hgf'
  | @spatialFlow a b f g hf hg hgate =>
      obtain ⟨⟨hff, hgf⟩, hff', hgf'⟩ := finite_of_gate rfl hgate
      have hside : name = a ∨ name = b := List.mem_pair.mp hname
      constructor
      · intro e he
        rcases hside with rfl | rfl
        · cases hf.symm.trans he
          exact hff
        · cases hg.symm.trans he
          exact hgf
      · rw [← Registry.name_of_get? hf, ← Registry.name_of_get? hg] at hside
        exact r.exists_finite_commit_pair hside hff' hgf'
  | _ => cases hexact

end Operation

end Finite

namespace Operation

/-- An exact operation with as many names as it needs: none of them is empty, and a spatial
flow names registered fields. -/
def Couplable (r : Registry α) : Operation α → Prop
  | interaction names _ => names.length = 2 ∧ "" ∉ names
  | network names _ => 2 ≤ names.length ∧ "" ∉ names
  | spatialFlow a b => a ∈ r.names ∧ b ∈ r.names
  | _ => False

/-- Nothing but its gate can keep such an operation from being applied. -/
theorem Couplable.applied_or_unbalanced {r : Registry α} {op : Operation α}
    (hop : op.Couplable r) (maxDepth : α) :
    (op.apply r maxDepth).2.status = .applied ∨
      ∃ fault, (op.apply r maxDepth).2 = .failed fault ∧
        fault.code = "CONSERVATION_VIOLATION" := by
  rcases op.applies_or_declines r maxDepth with ⟨outcome, stored, happlies⟩ | ⟨verdict, hdeclines⟩
  · rw [happlies.apply_eq]
    exact Or.inl rfl
  rw [hdeclines.apply_eq]
  cases hdeclines with
  | interactionUnbalanced _ _ _ _ hgate | spatialFlowUnbalanced _ _ hgate =>
      exact Or.inr ⟨_, rfl, code_of_gate hgate⟩
  | networkUnbalanced _ _ hrun => exact Or.inr ⟨_, rfl, Evaluation.code_of_runPairs hrun⟩
  | interactionCount hlength => exact absurd hop.1 hlength
  | interactionUnnamed hname => exact absurd (List.mem_pair.mpr (hname.imp Eq.symm Eq.symm)) hop.2
  | networkCount hlength => exact absurd hop.1 hlength.not_ge
  | networkUnnamed _ hname => exact absurd hname hop.2
  | @spatialFlowIdle a b hmissing =>
      simp only [Registry.get?_eq_none_iff] at hmissing
      exact absurd hop (hmissing.elim (fun h ⟨ha, _⟩ => h ha) (fun h ⟨_, hb⟩ => h hb))
  | _ => exact hop.elim

end Operation

/-- An exact operation fails with an imbalance and keeps the registry if one of the fields
that it names has a total that is not finite.  If it is applied, all of them have finite
totals afterwards. -/
theorem nonfinite_totals_quarantined {α : Type} [ExactScalar α] (r : Registry (Extended α))
    (maxDepth : Extended α) (op : Operation (Extended α))
    (hexact : op.kind.conservation = .exact) :
    let after := op.apply r maxDepth
    (op.Couplable r → (∃ name ∈ op.fields, ∃ f, r.get? name = some f ∧ ¬ f.Finite) →
      after.1 = r ∧ ∃ fault, after.2 = .failed fault ∧ fault.code = "CONSERVATION_VIOLATION") ∧
    (after.2.status = .applied →
      ∀ name ∈ op.fields, ∃ f, after.1.get? name = some f ∧ f.Finite) := by
  intro after
  constructor
  · rintro hop ⟨name, hname, f, hf, hinfinite⟩
    have hnot : after.2.status ≠ .applied := by
      intro happlied
      obtain ⟨outcome, stored, happlies, _⟩ := Operation.exists_applies happlied
      exact hinfinite ((happlies.finite hexact hname).1 f hf)
    exact ⟨Operation.apply_of_not_applied hnot,
      (hop.applied_or_unbalanced maxDepth).resolve_left hnot⟩
  · intro happlied name hname
    obtain ⟨outcome, stored, happlies, hafter⟩ := Operation.exists_applies happlied
    have hfinite := (happlies.finite hexact hname).2
    rwa [← hafter] at hfinite

/-- The last member of the network is infinite, and the first two have interacted before the
network meets it. -/
theorem nonfinite_totals_quarantined_last_member :
    let r : Registry (Extended ℚ) :=
      (Registry.empty.put (EnergyField.create "a" (.finite 5))).put
        (EnergyField.create "c" (.infinite false))
    let op : Operation (Extended ℚ) := .network ["a", "b", "c"] ""
    let op' : Operation (Extended ℚ) := .network ["a", "b"] ""
    op.kind.conservation = .exact ∧ op.Couplable r ∧
      (∃ f, r.get? "c" = some f ∧ ¬ f.Finite) ∧
      ((op.apply r (.finite 12)).1 = r ∧ ∃ fault, (op.apply r (.finite 12)).2 = .failed fault ∧
        fault.code = "CONSERVATION_VIOLATION") ∧
      (op'.apply r (.finite 12)).2.status = .applied ∧
      ∀ name ∈ ["a", "b"], ∃ f, (op'.apply r (.finite 12)).1.get? name = some f ∧ f.Finite := by
  intro r op op'
  have hop : op.Couplable r := ⟨by decide, by decide⟩
  have hc : ∃ f, r.get? "c" = some f ∧ ¬ f.Finite := ⟨_, rfl, by rintro ⟨⟩⟩
  have happlied : (op'.apply r (.finite 12)).2.status = .applied := by decide +kernel
  obtain ⟨f, hf, hinfinite⟩ := hc
  exact ⟨rfl, hop, ⟨f, hf, hinfinite⟩,
    (nonfinite_totals_quarantined r (.finite 12) op rfl).1 hop
      ⟨"c", by decide, f, hf, hinfinite⟩,
    happlied, (nonfinite_totals_quarantined r (.finite 12) op' rfl).2 happlied⟩

end FieldCalculus
