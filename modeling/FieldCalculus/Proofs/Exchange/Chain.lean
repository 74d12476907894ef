import FieldCalculus.Number.FloatScalar
import FieldCalculus.Proofs.Exchange.Enrollment
import FieldCalculus.Proofs.Exchange.Pairs
import FieldCalculus.Proofs.Operation.Applied
/-!
# A network is a chain of interactions

A network stages what its pairs do and stores it at the end.  Storing after every pair
comes to the same: the staged fields, stored over the registry, always form the registry
that the interactions so far would have left, and a pair is refused in both at the same
point with the same fault.
-/

namespace FieldCalculus

variable {α : Type}

/-- The pair of names can interact in the registry without creating a field. -/
def Registry.Holds (r : Registry α) (p : String × String) : Prop :=
  (p.1 ≠ "" ∧ p.1 ∈ r.names) ∧ (p.2 ≠ "" ∧ p.2 ∈ r.names)

theorem Registry.Holds.exists_get? {r : Registry α} {a b : String} (h : r.Holds (a, b)) :
    ∃ f g, a ≠ "" ∧ b ≠ "" ∧ r.get? a = some f ∧ r.get? b = some g := by
  obtain ⟨⟨ha, hamem⟩, hb, hbmem⟩ := h
  obtain ⟨f, hf⟩ := exists_get?_of_mem_names hamem
  obtain ⟨g, hg⟩ := exists_get?_of_mem_names hbmem
  exact ⟨f, g, ha, hb, hf, hg⟩

theorem Registry.Holds.commit_pair {r : Registry α} {p : String × String} (h : r.Holds p)
    (f g : EnergyField α) : (r.commit [f, g]).Holds p := by
  obtain ⟨⟨h1, hmem1⟩, h2, hmem2⟩ := h
  exact ⟨⟨h1, mem_names_commit.mpr (Or.inl hmem1)⟩, h2, mem_names_commit.mpr (Or.inl hmem2)⟩

variable [Scalar α]

/-- Applies interactions one after the other.  The first that fails ends the chain. -/
def interactAll (maxDepth : α) (constraints : String) (r : Registry α) :
    List (String × String) → Except (Fault α) (Registry α)
  | [] => .ok r
  | (a, b) :: rest =>
    match (Operation.interaction [a, b] constraints).apply r maxDepth with
    | (_, .failed fault) => .error fault
    | (after, _) => interactAll maxDepth constraints after rest

theorem interactAll_cons {maxDepth : α} {constraints : String} {r : Registry α}
    {a b : String} {f g : EnergyField α} (rest : List (String × String))
    (ha : a ≠ "") (hb : b ≠ "") (hf : r.get? a = some f) (hg : r.get? b = some g) :
    interactAll maxDepth constraints r ((a, b) :: rest) =
      match gate .interaction (f, g) (f.interact g) with
      | some fault => .error fault
      | none =>
        interactAll maxDepth constraints (r.commit [(f.interact g).1, (f.interact g).2])
          rest := by
  have hf' : r.resolve a defaultEnergies.interaction = f := Registry.resolve_of_get? _ hf
  have hg' : r.resolve b defaultEnergies.interaction = g := Registry.resolve_of_get? _ hg
  rw [interactAll]
  cases hgate : gate .interaction (f, g) (f.interact g) with
  | some fault =>
      have hdeclines : (Operation.interaction [a, b] constraints).Declines r maxDepth _ :=
        .interactionUnbalanced ha hb hf' hg' hgate
      rw [hdeclines.apply_eq]
  | none =>
      have happlies : (Operation.interaction [a, b] constraints).Applies r maxDepth _ _ :=
        .interaction ha hb hf' hg' hgate
      rw [happlies.apply_eq]

namespace Evaluation

/-! ## The staged fields over the registry -/

/-- A member is the field that stands under its name once the staged fields are stored. -/
theorem member_eq_resolve (r staged : Registry α) (name : String) :
    member r staged name =
      (r.commit staged.fields).resolve name defaultEnergies.network := by
  rw [member, Registry.resolve, Registry.resolve, Registry.get?_commit_fields]
  cases staged.get? name <;> rfl

theorem commit_members (r : Registry α) (names : List String) :
    r.commit (members r names).fields = r.enroll defaultEnergies.network names := by
  have hstep : ∀ (staged : Registry α) (name : String),
      r.commit (staged.put (member r staged name)).fields =
        Registry.enrollOne defaultEnergies.network (r.commit staged.fields) name := by
    intro staged name
    rw [Registry.commit_put, member_eq_resolve, Registry.enrollOne_eq_put]
  exact (List.foldl_hom (fun staged : Registry α => r.commit staged.fields)
    (fun staged name => (hstep staged name).symm)).symm

/-- The invariant of the loop over the pairs: staging and then storing is interacting. -/
theorem runPairs_eq_interactAll (maxDepth : α) (constraints : String) (r : Registry α)
    (pairs : List (String × String)) :
    ∀ staged : Registry α, (∀ p ∈ pairs, (r.commit staged.fields).Holds p) →
      (runPairs r staged pairs).map (fun final => r.commit final.fields) =
        interactAll maxDepth constraints (r.commit staged.fields) pairs := by
  induction pairs with
  | nil =>
      intro staged _
      rfl
  | cons p rest ih =>
      intro staged hheld
      obtain ⟨a, b⟩ := p
      obtain ⟨f, g, ha, hb, hf, hg⟩ := (hheld (a, b) List.mem_cons_self).exists_get?
      have hmf : member r staged a = f := by
        rw [member_eq_resolve, Registry.resolve_of_get? _ hf]
      have hmg : member r staged b = g := by
        rw [member_eq_resolve, Registry.resolve_of_get? _ hg]
      have hgate : gate .network (f, g) (f.interact g) =
          gate .interaction (f, g) (f.interact g) := rfl
      have hstored : r.commit ((staged.put (f.interact g).1).put (f.interact g).2).fields =
          (r.commit staged.fields).commit [(f.interact g).1, (f.interact g).2] := by
        rw [Registry.commit_put, Registry.commit_put]
        rfl
      -- both loops see the same two fields, so their gates decide alike
      rw [interactAll_cons rest ha hb hf hg, runPairs, hmf, hmg, hgate]
      cases gate .interaction (f, g) (f.interact g) with
      | some fault => rfl
      | none =>
          have hrest := ih ((staged.put (f.interact g).1).put (f.interact g).2) <| by
            intro q hq
            rw [hstored]
            exact (hheld q (List.mem_cons_of_mem _ hq)).commit_pair _ _
          rw [hstored] at hrest
          exact hrest

end Evaluation

theorem Registry.holds_enroll {names : List String} (r : Registry α) (energy : α)
    (hnames : "" ∉ names) {p : String × String} (hp : p ∈ Evaluation.indexPairs names) :
    (r.enroll energy names).Holds p := by
  obtain ⟨h1, h2⟩ := mem_of_mem_indexPairs hp
  refine ⟨⟨?_, (r.mem_names_enroll energy names p.1).mpr (Or.inr h1)⟩,
    ?_, (r.mem_names_enroll energy names p.2).mpr (Or.inr h2)⟩
  · rintro hempty
    exact hnames (hempty ▸ h1)
  · rintro hempty
    exact hnames (hempty ▸ h2)

/-- The loop over the pairs of a network, from all members on. -/
theorem runPairs_members (maxDepth : α) (constraints : String) (r : Registry α)
    {names : List String} (hnames : "" ∉ names) :
    (Evaluation.runPairs r (Evaluation.members r names) (Evaluation.indexPairs names)).map
        (fun final => r.commit final.fields) =
      interactAll maxDepth constraints (r.enroll defaultEnergies.network names)
        (Evaluation.indexPairs names) := by
  rw [← Evaluation.commit_members]
  apply Evaluation.runPairs_eq_interactAll
  intro p hp
  rw [Evaluation.commit_members]
  exact r.holds_enroll _ hnames hp

/-- A network of at least two named fields does what its pairs do as interactions, one after
the other, once the missing fields are there.  It fails with the fault of the first
interaction that fails, and then it keeps the registry. -/
theorem network_eq_chain_of_interactions (r : Registry α) (maxDepth : α)
    (names : List String) (constraints constraints' : String)
    (hlength : 2 ≤ names.length) (hnames : "" ∉ names) :
    let chain := interactAll maxDepth constraints' (r.enroll 70.0 names) (pairsByPlace names)
    (∀ final, chain = .ok final →
      (Operation.network names constraints).apply r maxDepth =
        (final, .applied (.networked names (pairsByPlace names) names.length))) ∧
    (∀ fault, chain = .error fault →
      (Operation.network names constraints).apply r maxDepth = (r, .failed fault)) := by
  intro chain
  have hchain : (Evaluation.runPairs r (Evaluation.members r names)
      (Evaluation.indexPairs names)).map (fun final => r.commit final.fields) = chain := by
    rw [runPairs_members maxDepth constraints' r hnames, indexPairs_eq_pairsByPlace]
    rfl
  have hcount : ¬ names.length < 2 := by omega
  rw [← indexPairs_eq_pairsByPlace, ← hchain]
  cases hrun : Evaluation.runPairs r (Evaluation.members r names)
      (Evaluation.indexPairs names) with
  | error fault =>
      constructor
      · intro final hfinal
        cases hfinal
      · intro fault' hfault
        cases hfault
        exact (Operation.Declines.networkUnbalanced hcount hnames hrun).apply_eq
  | ok staged =>
      constructor
      · intro final hfinal
        cases hfinal
        exact (Operation.Applies.network hcount hnames hrun).apply_eq
      · intro fault hfault
        cases hfault

/-- Three members, one of them at two places, make three pairs, one of them a self pair. -/
theorem network_eq_chain_of_interactions_repeated_name :
    2 ≤ ["a", "b", "a"].length ∧ "" ∉ ["a", "b", "a"] ∧
      ∃ final,
        interactAll (12.0 : Float) "" (Registry.empty.enroll 70.0 ["a", "b", "a"])
            [("a", "b"), ("a", "a"), ("b", "a")] = .ok final ∧
          (Operation.network ["a", "b", "a"] "").apply Registry.empty 12.0 =
            (final, .applied (.networked ["a", "b", "a"]
              [("a", "b"), ("a", "a"), ("b", "a")] 3)) := by
  have hlength : 2 ≤ ["a", "b", "a"].length := by decide
  have hnames : "" ∉ ["a", "b", "a"] := by decide
  have hpairs : pairsByPlace ["a", "b", "a"] = [("a", "b"), ("a", "a"), ("b", "a")] := by
    decide
  have hok : (interactAll (12.0 : Float) "" (Registry.empty.enroll 70.0 ["a", "b", "a"])
      [("a", "b"), ("a", "a"), ("b", "a")]).isOk = true := by
    decide +kernel
  have hchain := network_eq_chain_of_interactions (Registry.empty : Registry Float) 12.0
    ["a", "b", "a"] "" "" hlength hnames
  rw [hpairs] at hchain
  refine ⟨hlength, hnames, ?_⟩
  cases hrun : interactAll (12.0 : Float) "" (Registry.empty.enroll 70.0 ["a", "b", "a"])
      [("a", "b"), ("a", "a"), ("b", "a")] with
  | error fault =>
      rw [hrun] at hok
      cases hok
  | ok final =>
      exact ⟨final, rfl, hchain.1 final hrun⟩

end FieldCalculus
