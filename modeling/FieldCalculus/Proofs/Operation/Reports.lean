import Mathlib.Data.List.Perm.Basic
import FieldCalculus.Number.FloatScalar
import FieldCalculus.Proofs.Exact.Rational
import FieldCalculus.Proofs.Operation.Names
import FieldCalculus.Proofs.Run.Keys
/-!
# What outcomes report

An outcome is made from the fields on the way to their registry.  It still agrees with the
registries before and after the operation, also when the operation names one field twice:
then the second result is stored, and it is the one that the record of results keeps.
-/

namespace FieldCalculus

/-! ## Records of two entries -/

namespace KeyOrder

variable {β : Type} {key : β → String}

theorem sorted_perm (key : β → String) (entries : List β) : (sorted key entries).Perm entries := by
  have hindexed : (entries.filterMap fun e => (index? (key e)).map (·, e)).map Prod.snd =
      entries.filter fun e => (index? (key e)).isSome := by
    rw [List.map_filterMap, ← List.filterMap_eq_filter]
    congr 1
    funext e
    cases h : index? (key e) <;> simp [Option.guard, h]
  have hothers : (entries.filter fun e => (index? (key e)).isNone) =
      entries.filter fun e => !(index? (key e)).isSome := by
    simp
  have hsort := (List.mergeSort_perm
    (entries.filterMap fun e => (index? (key e)).map (·, e)) fun a b => a.1 ≤ b.1).map Prod.snd
  rw [hindexed] at hsort
  unfold sorted
  rw [hothers]
  exact (hsort.append_right _).trans (List.filter_append_perm _ entries)

theorem distinct_pair (x y : β) :
    distinct key [x, y] = if key x = key y then [y] else [x, y] := by
  simp only [distinct, List.foldl, insert]

/-- A record of two entries lists the second one, and the first one if it has another key. -/
theorem ordered_pair_perm (key : β → String) (x y : β) :
    (ordered key [x, y]).Perm (if key x = key y then [y] else [x, y]) := by
  rw [ordered, distinct_pair]
  exact sorted_perm key _

theorem eq_or_of_mem_ordered_pair {x y e : β} (h : e ∈ ordered key [x, y]) :
    e = y ∨ e = x ∧ key x ≠ key y := by
  rw [(ordered_pair_perm key x y).mem_iff] at h
  split at h
  · exact Or.inl (List.mem_singleton.mp h)
  · next hne => exact (List.mem_pair.mp h).symm.imp_right fun he => ⟨he, hne⟩

end KeyOrder

/-- The entries of a record with these two keys, which may be the same. -/
structure KeyedBy {β : Type} (key : β → String) (a b : String) (entries : List β) : Prop where
  nodup : (entries.map key).Nodup
  mem_iff : ∀ name, name ∈ entries.map key ↔ name = a ∨ name = b

theorem keyedBy_ordered_pair {β : Type} (key : β → String) (x y : β) :
    KeyedBy key (key x) (key y) (KeyOrder.ordered key [x, y]) := by
  have hperm := (KeyOrder.ordered_pair_perm key x y).map key
  constructor
  · rw [hperm.nodup_iff]
    split
    · simp
    · next hne => simpa using hne
  · intro name
    rw [hperm.mem_iff]
    split
    · next heq => simp [heq]
    · simp

/-! ## Snapshots -/

variable {α : Type}

/-- The snapshot gives the attributes that the field has. -/
structure Snapshot.Shows (s : Snapshot α) (f : EnergyField α) : Prop where
  energy : s.energy = f.energy.total
  kinetic : s.kinetic = f.energy.kinetic
  potential : s.potential = f.energy.potential
  entropy : s.entropy = f.energy.entropy
  coherence : s.coherence = f.energy.coherence
  angle : s.angle = f.energy.angle
  capacity : s.capacity = f.capacity
  age : s.age = f.age
  phase : s.phase = f.phase
  frequency : s.frequency = f.frequency
  fractalDepth : s.fractalDepth = f.fractalDepth
  partner : s.partner = f.partner
  position : s.position = f.position
  gradient : s.gradient = f.gradient

theorem EnergyField.snapshot_shows (f : EnergyField α) : f.snapshot.Shows f := by
  constructor <;> rfl

namespace Registry

variable (r : Registry α) {f g : EnergyField α} {name : String}

theorem get?_commit_of_nodup {fields : List (EnergyField α)}
    (hfields : (fields.map EnergyField.name).Nodup) (hf : f ∈ fields) :
    (r.commit fields).get? f.name = some f := by
  have hget : (⟨fields, hfields⟩ : Registry α).get? f.name = some f := get?_of_mem_fields hf
  have hcommit := r.get?_commit_fields ⟨fields, hfields⟩ f.name
  rw [hget] at hcommit
  exact hcommit

/-- The record of a pair lists snapshots of the fields that are stored. -/
theorem exists_get?_of_mem_ordered {entry : String × Snapshot α}
    (h : entry ∈ KeyOrder.ordered Prod.fst [f.entry, g.entry]) :
    ∃ e, (r.commit [f, g]).get? entry.1 = some e ∧ entry.2.Shows e := by
  rcases KeyOrder.eq_or_of_mem_ordered_pair h with rfl | ⟨rfl, hne⟩
  · exact ⟨g, r.get?_commit_second f rfl, g.snapshot_shows⟩
  · exact ⟨f, r.get?_commit_first rfl hne, f.snapshot_shows⟩

end Registry

variable [Scalar α]

/-! ## Agreement with the registries -/

/-- The outcome says of the operation what the registries before and after it show. -/
inductive Operation.Reports (before after : Registry α) : Operation α → Outcome α → Prop
  | interaction {a b constraints : String} {fields : List (String × Snapshot α)}
      (hkeys : KeyedBy Prod.fst a b fields)
      (hstored : ∀ entry ∈ fields, ∃ f, after.get? entry.1 = some f ∧ entry.2.Shows f) :
      Reports before after (.interaction [a, b] constraints) (.interacted fields)
  | entangle {a b : String} {f g : EnergyField α} (hf : after.get? a = some f)
      (hg : after.get? b = some g) (hcoherence : g.energy.coherence = f.energy.coherence)
      (hpartners : f.partner = some b ∧ g.partner = some a) :
      Reports before after (.entangle a b) (.entangled a b f.energy.coherence)
  | phaseTransition {name target : String} {f g : EnergyField α} (hf : before.get? name = some f)
      (hg : after.get? name = some g) :
      Reports before after (.phaseTransition name target)
        (.phaseChanged name f.phase g.phase (f.energy.total - g.energy.total))
  | fractalSpawn {name : String} {iterations depth : α} {f : EnergyField α}
      {spawns : List (EnergyField α)} (hf : before.get? name = some f)
      (hspawns : f.spawns? depth = some spawns)
      (hnodup : (spawns.map EnergyField.name).Nodup)
      (hstored : ∀ s ∈ spawns, after.get? s.name = some s)
      (hkept : ∀ other, other ∉ spawns.map EnergyField.name →
        after.get? other = before.get? other) :
      Reports before after (.fractalSpawn name iterations depth)
        (.fractal name depth (spawns.map EnergyField.name).length (spawns.map EnergyField.name))
  | spatialFlow {a b : String} {f : EnergyField α} (hf : after.get? a = some f) :
      Reports before after (.spatialFlow a b) (.flowed a b f.gradient)
  | network {names : List String} {constraints : String} :
      Reports before after (.network names constraints)
        (.networked names (pairsByPlace names) names.length)
  | regenerate {name : String} {input : α} {f g : EnergyField α}
      (hf : before.resolve name 50.0 = f) (hg : after.get? name = some g) :
      Reports before after (.regenerate name input)
        (.regenerated name (g.capacity - f.capacity) g.capacity)
  | decay {name : String} {rate : α} {f g : EnergyField α} (hf : before.get? name = some f)
      (hg : after.get? name = some g) :
      Reports before after (.decay name rate)
        (.decayed name (f.energy.total - g.energy.total) (g.energy.entropy - f.energy.entropy))
  | symbiosis {a b : String} {growth : List (String × α)} (hkeys : KeyedBy Prod.fst a b growth)
      (hgrowth : ∀ entry ∈ growth, ∃ g, after.get? entry.1 = some g ∧
        entry.2 = g.capacity - (before.resolve entry.1 80.0).capacity) :
      Reports before after (.symbiosis a b) (.symbiotic a b growth)
  | creation {name : String} {energy : α} {f : EnergyField α} (hf : after.get? name = some f) :
      Reports before after (.creation name energy) (.created name f.energy.total)

namespace Operation

variable {r : Registry α} {maxDepth : α} {op : Operation α} {outcome : Outcome α}
  {stored : List (EnergyField α)}

/-- Both sides of the flow of a field into itself turn its gradient alike. -/
def SelfFlowsAgree (r : Registry α) (op : Operation α) : Prop :=
  ∀ a f, op = .spatialFlow a a → r.get? a = some f →
    (f.flow f).1.gradient = (f.flow f).2.gradient

theorem Applies.reports (h : op.Applies r maxDepth outcome stored) (hflow : op.SelfFlowsAgree r)
    (hresonance : op.kind ≠ .resonance) (hunknown : op.kind ≠ .unknown) :
    op.Reports r (r.commit stored) outcome := by
  cases h with
  | resonance => exact absurd rfl hresonance
  | unknown => exact absurd rfl hunknown
  | @interaction a b _ f g _ _ hf hg =>
      have ha : f.name = a := hf ▸ r.name_resolve a _
      have hb : g.name = b := hg ▸ r.name_resolve b _
      subst ha hb
      exact .interaction
        (keyedBy_ordered_pair Prod.fst (f.interact g).1.entry (f.interact g).2.entry)
        fun _ => r.exists_get?_of_mem_ordered (f := (f.interact g).1) (g := (f.interact g).2)
  | @entangle a b f g _ _ hf hg =>
      have ha : (f.entangle g).1.name = a := hf ▸ r.name_resolve a _
      have hb : (f.entangle g).2.name = b := hg ▸ r.name_resolve b _
      have hsecond := r.get?_commit_second (f.entangle g).1 hb
      have hfirst : (r.commit [(f.entangle g).1, (f.entangle g).2]).get? a =
          some (f.entangle g).1 := by
        by_cases hab : a = b
        · -- a field entangled with itself comes out of both sides the same
          subst hab
          obtain rfl : f = g := hf.symm.trans hg
          exact hsecond
        · exact r.get?_commit_first ha (hb ▸ hab)
      exact .entangle hfirst hsecond rfl ⟨congrArg some hb, congrArg some ha⟩
  | @phaseTransition name target f phase hf =>
      have hname : (f.transition phase).name = name :=
        (f.name_transition phase).trans (Registry.name_of_get? hf)
      exact .phaseTransition hf (r.get?_commit_single hname)
  | @fractalSpawn _ _ depth f _ hf _ hspawns =>
      have hnodup : (stored.map EnergyField.name).Nodup := by
        rw [EnergyField.map_name_spawns hspawns]
        exact EnergyField.nodup_spawnNames f.name depth
      have hcount : stored.length = (stored.map EnergyField.name).length :=
        (List.length_map _).symm
      rw [hcount]
      refine .fractalSpawn hf hspawns hnodup (fun s => r.get?_commit_of_nodup hnodup) ?_
      intro other hother
      exact Registry.get?_commit_of_not_mem fun s hs hname =>
        hother (List.mem_map.mpr ⟨s, hs, hname⟩)
  | @spatialFlow a b f g hf hg =>
      have ha : (f.flow g).1.name = a := Registry.name_of_get? (f := f) hf
      have hb : (f.flow g).2.name = b := Registry.name_of_get? (f := g) hg
      have hstored : ∃ e, (r.commit [(f.flow g).1, (f.flow g).2]).get? a = some e ∧
          e.gradient = (f.flow g).1.gradient := by
        by_cases hab : a = b
        · subst hab
          obtain rfl : f = g := Option.some.inj (hf.symm.trans hg)
          exact ⟨_, r.get?_commit_second _ hb, (hflow a f rfl hf).symm⟩
        · exact ⟨_, r.get?_commit_first ha (hb ▸ hab), rfl⟩
      obtain ⟨e, he, hgradient⟩ := hstored
      rw [← hgradient]
      exact .spatialFlow he
  | network =>
      rw [indexPairs_eq_pairsByPlace]
      exact .network
  | @regenerate name input f _ hf =>
      have hname : (f.regenerate input).name = name := hf ▸ r.name_resolve name _
      exact .regenerate hf (r.get?_commit_single hname)
  | @decay name rate f hf =>
      have hname : (f.decay rate).name = name := Registry.name_of_get? (f := f) hf
      exact .decay hf (r.get?_commit_single hname)
  | @symbiosis a b f g _ _ hf hg =>
      have ha : (f.symbiosis g).1.name = a := hf ▸ r.name_resolve a _
      have hb : (f.symbiosis g).2.name = b := hg ▸ r.name_resolve b _
      refine .symbiosis (keyedBy_ordered_pair Prod.fst (a, _) (b, _)) fun entry hentry => ?_
      rcases KeyOrder.eq_or_of_mem_ordered_pair hentry with rfl | ⟨rfl, hne⟩
      · exact ⟨_, r.get?_commit_second _ hb, congrArg (_ - EnergyField.capacity ·) hg.symm⟩
      · exact ⟨_, r.get?_commit_first ha (hb ▸ hne), congrArg (_ - EnergyField.capacity ·) hf.symm⟩
  | creation => exact .creation (r.get?_put_self _)

end Operation

theorem ExactScalar.selfFlowsAgree {α : Type} [ExactScalar α] (r : Registry α)
    (op : Operation α) : op.SelfFlowsAgree r := by
  intro a f _ _
  simp [EnergyField.flow, EnergyField.flowed]

/-- An applied operation reports what it did: its outcome agrees with the registries before and
after it.  In exact arithmetic a field may also flow into itself. -/
theorem outcome_reports_registries :
    (∀ (α : Type) [Scalar α] (r : Registry α) (maxDepth : α) (op : Operation α)
      (outcome : Outcome α), (op.apply r maxDepth).2 = .applied outcome →
      op.kind ≠ .resonance → op.kind ≠ .unknown → (∀ a, op ≠ .spatialFlow a a) →
      op.Reports r (op.apply r maxDepth).1 outcome) ∧
    ∀ (α : Type) [ExactScalar α] (r : Registry α) (maxDepth : α) (op : Operation α)
      (outcome : Outcome α), (op.apply r maxDepth).2 = .applied outcome →
      op.kind ≠ .resonance → op.kind ≠ .unknown → op.Reports r (op.apply r maxDepth).1 outcome := by
  have hreports : ∀ (α : Type) [Scalar α] (r : Registry α) (maxDepth : α) (op : Operation α)
      (outcome : Outcome α), (op.apply r maxDepth).2 = .applied outcome → op.SelfFlowsAgree r →
      op.kind ≠ .resonance → op.kind ≠ .unknown →
      op.Reports r (op.apply r maxDepth).1 outcome := by
    intro α _ r maxDepth op outcome hverdict hflow hresonance hunknown
    obtain ⟨stored, happlies⟩ := Operation.apply_eq_applied_iff.mp hverdict
    rw [happlies.apply_eq]
    exact happlies.reports hflow hresonance hunknown
  constructor
  · intro α _ r maxDepth op outcome hverdict hresonance hunknown hself
    exact hreports α r maxDepth op outcome hverdict (fun a _ hop => absurd hop (hself a))
      hresonance hunknown
  · intro α _ r maxDepth op outcome hverdict
    exact hreports α r maxDepth op outcome hverdict (ExactScalar.selfFlowsAgree r op)

/-- A field in symbiosis with itself, and one that flows into itself. -/
theorem outcome_reports_registries_repeated_operand :
    let r : Registry Float := Registry.empty.put (EnergyField.create "a" 100.0)
    let s : Registry ℚ := Registry.empty.put (EnergyField.create "a" 100)
    let grow : Operation Float := .symbiosis "a" "a"
    let flow : Operation ℚ := .spatialFlow "a" "a"
    (∃ outcome, (grow.apply r 12.0).2 = .applied outcome ∧
      grow.Reports r (grow.apply r 12.0).1 outcome) ∧
    ∃ outcome, (flow.apply s 12).2 = .applied outcome ∧
      flow.Reports s (flow.apply s 12).1 outcome := by
  intro r s grow flow
  constructor
  · have happlied : (grow.apply r 12.0).2.status = .applied := by decide +kernel
    obtain ⟨outcome, stored, happlies, _⟩ := Operation.exists_applies happlied
    have hverdict := Operation.apply_eq_applied_iff.mpr ⟨stored, happlies⟩
    exact ⟨outcome, hverdict,
      outcome_reports_registries.1 Float r 12.0 grow outcome hverdict nofun nofun nofun⟩
  · have happlied : (flow.apply s 12).2.status = .applied := by decide +kernel
    obtain ⟨outcome, stored, happlies, _⟩ := Operation.exists_applies happlied
    have hverdict := Operation.apply_eq_applied_iff.mpr ⟨stored, happlies⟩
    exact ⟨outcome, hverdict,
      outcome_reports_registries.2 ℚ s 12 flow outcome hverdict nofun nofun⟩

end FieldCalculus
