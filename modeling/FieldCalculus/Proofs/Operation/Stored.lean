import FieldCalculus.Proofs.Exchange.Chain
import FieldCalculus.Proofs.Operation.Applied
/-!
# What an operation stores

Every field that an operation stores comes out of a transition of fields that it names, as
they are registered or as it creates them.  So a property of the named fields that the
transitions keep is a property of the stored fields, and a property of all fields stays one.
-/

namespace FieldCalculus

variable {α : Type}

/-! ## Properties of all registered fields -/

namespace Registry

/-- Every registered field has the property. -/
def Forall (P : EnergyField α → Prop) (r : Registry α) : Prop :=
  ∀ f ∈ r.fields, P f

variable {P : EnergyField α → Prop} {r : Registry α}

theorem forall_empty : (empty : Registry α).Forall P := by
  intro f hf
  cases hf

theorem forall_iff_get? : r.Forall P ↔ ∀ name f, r.get? name = some f → P f := by
  constructor
  · intro h name f hf
    exact h f (mem_fields_of_get? hf)
  · intro h f hf
    exact h f.name f (get?_of_mem_fields hf)

theorem Forall.put {f : EnergyField α} (h : r.Forall P) (hf : P f) : (r.put f).Forall P := by
  rw [forall_iff_get?] at h ⊢
  intro name g hg
  rw [get?_put] at hg
  split at hg
  · cases hg
    exact hf
  · exact h name g hg

theorem Forall.commit {fields : List (EnergyField α)} (h : r.Forall P)
    (hfields : ∀ f ∈ fields, P f) : (r.commit fields).Forall P := by
  induction fields generalizing r with
  | nil => exact h
  | cons f rest ih =>
      rw [commit_cons]
      apply ih (h.put (hfields f List.mem_cons_self))
      intro g hg
      exact hfields g (List.mem_cons_of_mem f hg)

/-- A pair stored under two names, or the same field stored twice. -/
theorem forall_commit_pair_iff (hr : r.Forall P) {f g : EnergyField α}
    (hsame : f.name = g.name → f = g) : (r.commit [f, g]).Forall P ↔ P f ∧ P g := by
  constructor
  · intro h
    rw [forall_iff_get?] at h
    exact ⟨h f.name f (r.get?_commit_first_of_same rfl hsame),
      h g.name g (r.get?_commit_second f rfl)⟩
  · rintro ⟨hf, hg⟩
    apply hr.commit
    simp [hf, hg]

theorem Forall.remove (h : r.Forall P) (name : String) : (r.remove name).Forall P := by
  intro f hf
  exact h f (List.mem_of_mem_filter hf)

theorem Forall.resolve [Scalar α] (h : r.Forall P)
    (hcreate : ∀ name energy, P (EnergyField.create name energy)) (name : String)
    (energy : α) : P (r.resolve name energy) := by
  cases hf : r.get? name with
  | none =>
      rw [Registry.resolve, hf]
      exact hcreate name energy
  | some f =>
      rw [resolve_of_get? energy hf]
      exact forall_iff_get?.mp h name f hf

end Registry

/-! ## Properties of stored fields -/

/-- A coupling of two fields with the property gives two fields with the property. -/
def EnergyField.Couples (P : EnergyField α → Prop)
    (couple : EnergyField α → EnergyField α → EnergyField α × EnergyField α) : Prop :=
  ∀ f g, P f → P g → P (couple f g).1 ∧ P (couple f g).2

theorem EnergyField.Couples.forall_mem {P : EnergyField α → Prop} {f g : EnergyField α}
    {couple : EnergyField α → EnergyField α → EnergyField α × EnergyField α}
    (h : Couples P couple) (hf : P f) (hg : P g) :
    ∀ e ∈ [(couple f g).1, (couple f g).2], P e := by
  obtain ⟨hleft, hright⟩ := h f g hf hg
  exact List.forall_mem_cons.mpr ⟨hleft, List.forall_mem_singleton.mpr hright⟩

variable [Scalar α]

/-- The transitions of the operation keep the property. -/
def Operation.Preserves (P : EnergyField α → Prop) (maxDepth : α) : Operation α → Prop
  | .entangle .. => EnergyField.Couples P EnergyField.entangle
  | .resonance .. => EnergyField.Couples P EnergyField.resonate
  | .phaseTransition .. => ∀ f target, P f → P (f.transition target)
  | .fractalSpawn _ _ depth =>
    ¬ maxDepth < depth → ∀ f i, P f → P (f.spawn depth (Scalar.exp2 depth) i)
  | .spatialFlow .. => EnergyField.Couples P EnergyField.flow
  | .network .. | .interaction .. => EnergyField.Couples P EnergyField.interact
  | .regenerate _ input => ∀ f, P f → P (f.regenerate input)
  | .decay _ rate => ∀ f, P f → P (f.decay rate)
  | .symbiosis .. => EnergyField.Couples P EnergyField.symbiosis
  | .creation name energy => P (EnergyField.create name energy)
  | .unidirectionalFlow .. | .unknown _ => True

/-- The fields that an operation would read under these names have the property. -/
def Registry.Reads (r : Registry α) (P : EnergyField α → Prop) (names : List String) : Prop :=
  ∀ name ∈ names, ∀ energy, P (r.resolve name energy)

theorem Registry.Reads.get? {r : Registry α} {P : EnergyField α → Prop} {names : List String}
    (h : r.Reads P names) {name : String} (hname : name ∈ names) {f : EnergyField α}
    (hf : r.get? name = some f) : P f := by
  have hresolve := h name hname f.energy.total
  rw [resolve_of_get? _ hf] at hresolve
  exact hresolve

namespace Evaluation

variable {P : EnergyField α → Prop} {r : Registry α}

theorem member_of_resolve {names : List String}
    (hread : ∀ name ∈ names, P (r.resolve name defaultEnergies.network)) {staged : Registry α}
    (hstaged : staged.Forall P) {name : String} (hname : name ∈ names) :
    P (member r staged name) := by
  unfold member
  cases hf : staged.get? name with
  | none => exact hread name hname
  | some f => exact Registry.forall_iff_get?.mp hstaged name f hf

theorem members_forall {names : List String}
    (hread : ∀ name ∈ names, P (r.resolve name defaultEnergies.network)) :
    (members r names).Forall P := by
  have hfold : ∀ (pending : List String) (staged : Registry α),
      (∀ name ∈ pending, name ∈ names) → staged.Forall P →
        (pending.foldl (fun staged name => staged.put (member r staged name)) staged).Forall P := by
    intro pending
    induction pending with
    | nil =>
        intro staged _ hstaged
        exact hstaged
    | cons name rest ih =>
        intro staged hsub hstaged
        apply ih _ fun other hother => hsub other (List.mem_cons_of_mem name hother)
        exact hstaged.put (member_of_resolve hread hstaged (hsub name List.mem_cons_self))
  exact hfold names .empty (fun _ h => h) Registry.forall_empty

/-- Every pair of a network keeps the property of the staged fields, and a pair that does not
balance is one of fields with the property. -/
theorem runPairs_spec {names : List String}
    (hread : ∀ name ∈ names, P (r.resolve name defaultEnergies.network))
    (hP : EnergyField.Couples P EnergyField.interact) (pairs : List (String × String)) :
    ∀ {staged : Registry α}, (∀ p ∈ pairs, p.1 ∈ names ∧ p.2 ∈ names) → staged.Forall P →
      (∀ final, runPairs r staged pairs = .ok final → final.Forall P) ∧
        ∀ fault, runPairs r staged pairs = .error fault →
          ∃ f g, P f ∧ P g ∧ gate .network (f, g) (f.interact g) = some fault := by
  induction pairs with
  | nil =>
      intro staged _ hstaged
      constructor
      · intro final hfinal
        cases hfinal
        exact hstaged
      · intro fault hfault
        cases hfault
  | cons p rest ih =>
      intro staged hpairs hstaged
      obtain ⟨a, b⟩ := p
      obtain ⟨ha, hb⟩ := hpairs (a, b) List.mem_cons_self
      have hf := member_of_resolve hread hstaged ha
      have hg := member_of_resolve hread hstaged hb
      obtain ⟨hleft, hright⟩ := hP _ _ hf hg
      rw [runPairs]
      split
      · next fault hgate =>
        constructor
        · intro final hfinal
          cases hfinal
        · intro fault' hfault
          cases hfault
          exact ⟨_, _, hf, hg, hgate⟩
      · exact ih (fun q hq => hpairs q (List.mem_cons_of_mem _ hq))
          ((hstaged.put hleft).put hright)

end Evaluation

namespace Operation

variable {P : EnergyField α → Prop} {r : Registry α} {maxDepth : α} {op : Operation α}

/-- A property of the fields that an operation reads passes to the fields that it stores. -/
theorem Applies.stores {outcome : Outcome α} {stored : List (EnergyField α)}
    (happlies : op.Applies r maxDepth outcome stored) (hop : op.Preserves P maxDepth)
    (hread : r.Reads P op.fields) : ∀ f ∈ stored, P f := by
  cases happlies with
  | @entangle a b _ _ _ _ hf hg | @symbiosis a b _ _ _ _ hf hg
  | @interaction a b _ _ _ _ _ hf hg =>
      subst hf hg
      exact hop.forall_mem (hread a (by simp [fields]) _) (hread b (by simp [fields]) _)
  | @resonance a b _ _ hf hg | @spatialFlow a b _ _ hf hg =>
      have ha : a ∈ [a, b] := List.mem_cons_self
      have hb : b ∈ [a, b] := List.mem_cons_of_mem a List.mem_cons_self
      exact hop.forall_mem (hread.get? ha hf) (hread.get? hb hg)
  | network _ _ hrun =>
      have hread' := fun name hname => hread name hname defaultEnergies.network
      exact (Evaluation.runPairs_spec hread' hop _ (fun _ hp => mem_of_mem_indexPairs hp)
        (Evaluation.members_forall hread')).1 _ hrun
  | regenerate _ hf =>
      subst hf
      exact List.forall_mem_singleton.mpr (hop _ (hread _ List.mem_cons_self _))
  | phaseTransition hf =>
      exact List.forall_mem_singleton.mpr (hop _ _ (hread.get? List.mem_cons_self hf))
  | decay hf => exact List.forall_mem_singleton.mpr (hop _ (hread.get? List.mem_cons_self hf))
  | fractalSpawn hf hdepth hspawns =>
      obtain ⟨n, _, rfl⟩ := Option.map_eq_some_iff.mp hspawns
      rw [List.forall_mem_map]
      exact fun i _ => hop hdepth _ i (hread.get? List.mem_cons_self hf)
  | creation => exact List.forall_mem_singleton.mpr hop
  | unknown => exact fun _ hf => absurd hf List.not_mem_nil

/-- A property of the fields that an operation reads and of all registered fields stays one of
all registered fields. -/
theorem apply_forall_of_reads (hop : op.Preserves P maxDepth) (hread : r.Reads P op.fields)
    (hr : r.Forall P) : (op.apply r maxDepth).1.Forall P := by
  rcases op.applies_or_declines r maxDepth with ⟨outcome, stored, happlies⟩ | ⟨verdict, hdeclines⟩
  · rw [happlies.apply_eq]
    exact hr.commit (happlies.stores hop hread)
  · rw [hdeclines.apply_eq]
    exact hr

theorem apply_forall (hop : op.Preserves P maxDepth)
    (hcreate : ∀ name energy, P (EnergyField.create name energy)) (hr : r.Forall P) :
    (op.apply r maxDepth).1.Forall P :=
  apply_forall_of_reads hop (fun name _ energy => hr.resolve hcreate name energy) hr

end Operation

end FieldCalculus
