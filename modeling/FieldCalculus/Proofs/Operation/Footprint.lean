import FieldCalculus.Proofs.Operation.Stored
/-!
# What an operation reads and writes

An operation reads the fields that it names and nothing else of a registry.  It writes
fields under the names that it gives, except that a split writes its spawns and not its
parent.  Everything outside the written names stays as it is.
-/

namespace FieldCalculus

variable {α : Type} [Scalar α]

/-- The names of the spawns of a split.  A split into too many parts has none. -/
def EnergyField.spawnNames (parent : String) (depth : α) : List String :=
  match spawnCount? depth with
  | none => []
  | some n => (List.range n).map (spawnName parent depth)

/-- The names that an operation may store fields under. -/
def Operation.writes : Operation α → List String
  | fractalSpawn field _ depth => EnergyField.spawnNames field depth
  | unidirectionalFlow .. | unknown _ => []
  | op => op.fields

omit [Scalar α] in
/-- Two registries that look these names up alike. -/
def Registry.AgreeOn (r s : Registry α) (names : List String) : Prop :=
  ∀ name ∈ names, r.get? name = s.get? name

theorem Registry.resolve_congr {r s : Registry α} {name : String}
    (h : r.get? name = s.get? name) (energy : α) :
    r.resolve name energy = s.resolve name energy := by
  rw [resolve, resolve, h]

namespace Evaluation

/-! ## What is read -/

section Reads

variable {r s : Registry α}

theorem member_congr {name : String} (h : r.get? name = s.get? name) (staged : Registry α) :
    member r staged name = member s staged name := by
  rw [member, member, Registry.resolve_congr h]

theorem members_congr {names : List String} (h : r.AgreeOn s names) :
    members r names = members s names := by
  apply List.foldl_ext
  intro staged name hname
  rw [member_congr (h name hname)]

theorem runPairs_congr {names : List String} (h : r.AgreeOn s names)
    (pairs : List (String × String)) :
    ∀ staged : Registry α, (∀ p ∈ pairs, p.1 ∈ names ∧ p.2 ∈ names) →
      runPairs r staged pairs = runPairs s staged pairs := by
  induction pairs with
  | nil =>
      intro staged _
      rfl
  | cons p rest ih =>
      intro staged hpairs
      obtain ⟨a, b⟩ := p
      obtain ⟨ha, hb⟩ := hpairs (a, b) List.mem_cons_self
      have hrest := fun staged' => ih staged' fun q hq => hpairs q (List.mem_cons_of_mem _ hq)
      simp only [runPairs, member_congr (h a ha), member_congr (h b hb), hrest]

end Reads

end Evaluation

theorem Registry.AgreeOn.resolve_eq {r s : Registry α} {names : List String}
    (h : r.AgreeOn s names) {name : String} (hname : name ∈ names) (energy : α) :
    s.resolve name energy = r.resolve name energy :=
  Registry.resolve_congr (h name hname).symm energy

theorem Registry.AgreeOn.runPairs_members {r s : Registry α} {names : List String}
    (h : r.AgreeOn s names) :
    Evaluation.runPairs s (Evaluation.members s names) (Evaluation.indexPairs names) =
      Evaluation.runPairs r (Evaluation.members r names) (Evaluation.indexPairs names) := by
  rw [Evaluation.members_congr h]
  exact (Evaluation.runPairs_congr h _ _ fun p hp => mem_of_mem_indexPairs hp).symm

namespace Operation

variable {r s : Registry α} {maxDepth : α} {op : Operation α}

/-- An operation that is applied does the same to a registry with the fields that it names. -/
theorem Applies.congr {outcome : Outcome α} {stored : List (EnergyField α)}
    (happlies : op.Applies r maxDepth outcome stored) (h : r.AgreeOn s op.fields) :
    op.Applies s maxDepth outcome stored := by
  have hget {name : String} (hname : name ∈ op.fields) : s.get? name = r.get? name :=
    (h name hname).symm
  cases happlies with
  | entangle ha hb hf hg =>
      exact .entangle ha hb ((h.resolve_eq (by simp [fields]) _).trans hf)
        ((h.resolve_eq (by simp [fields]) _).trans hg)
  | resonance hf hg =>
      exact .resonance ((hget (by simp [fields])).trans hf) ((hget (by simp [fields])).trans hg)
  | phaseTransition hf hphase =>
      exact .phaseTransition ((hget (by simp [fields])).trans hf) hphase
  | fractalSpawn hf hdepth hspawns =>
      exact .fractalSpawn ((hget (by simp [fields])).trans hf) hdepth hspawns
  | spatialFlow hf hg hgate =>
      exact .spatialFlow ((hget (by simp [fields])).trans hf)
        ((hget (by simp [fields])).trans hg) hgate
  | network hlength hnames hrun =>
      exact .network hlength hnames (h.runPairs_members.trans hrun)
  | regenerate hname hf => exact .regenerate hname ((h.resolve_eq (by simp [fields]) _).trans hf)
  | decay hf => exact .decay ((hget (by simp [fields])).trans hf)
  | symbiosis ha hb hf hg =>
      exact .symbiosis ha hb ((h.resolve_eq (by simp [fields]) _).trans hf)
        ((h.resolve_eq (by simp [fields]) _).trans hg)
  | interaction ha hb hf hg hgate =>
      exact .interaction ha hb ((h.resolve_eq (by simp [fields]) _).trans hf)
        ((h.resolve_eq (by simp [fields]) _).trans hg) hgate
  | creation => exact .creation
  | unknown => exact .unknown

/-- An operation that is not applied is not applied to a registry with the fields that it
names either, for the same reason. -/
theorem Declines.congr {verdict : Verdict α} (hdeclines : op.Declines r maxDepth verdict)
    (h : r.AgreeOn s op.fields) : op.Declines s maxDepth verdict := by
  have hget {name : String} (hname : name ∈ op.fields) : s.get? name = r.get? name :=
    (h name hname).symm
  cases hdeclines with
  | entangleUnnamed hname => exact .entangleUnnamed hname
  | resonanceIdle hmissing =>
      exact .resonanceIdle (hmissing.imp (hget (by simp [fields])).trans
        (hget (by simp [fields])).trans)
  | phaseTransitionIdle hmissing =>
      exact .phaseTransitionIdle ((hget (by simp [fields])).trans hmissing)
  | unknownPhase hf hphase => exact .unknownPhase ((hget (by simp [fields])).trans hf) hphase
  | fractalSpawnIdle hmissing =>
      exact .fractalSpawnIdle ((hget (by simp [fields])).trans hmissing)
  | depthLimit hf hdepth => exact .depthLimit ((hget (by simp [fields])).trans hf) hdepth
  | tooManySpawns hf hdepth hspawns =>
      exact .tooManySpawns ((hget (by simp [fields])).trans hf) hdepth hspawns
  | spatialFlowIdle hmissing =>
      exact .spatialFlowIdle (hmissing.imp (hget (by simp [fields])).trans
        (hget (by simp [fields])).trans)
  | spatialFlowUnbalanced hf hg hgate =>
      exact .spatialFlowUnbalanced ((hget (by simp [fields])).trans hf)
        ((hget (by simp [fields])).trans hg) hgate
  | networkCount hlength => exact .networkCount hlength
  | networkUnnamed hlength hname => exact .networkUnnamed hlength hname
  | networkUnbalanced hlength hnames hrun =>
      exact .networkUnbalanced hlength hnames (h.runPairs_members.trans hrun)
  | regenerateUnnamed => exact .regenerateUnnamed
  | decayIdle hmissing => exact .decayIdle ((hget (by simp [fields])).trans hmissing)
  | symbiosisUnnamed hname => exact .symbiosisUnnamed hname
  | interactionCount hlength => exact .interactionCount hlength
  | interactionUnnamed hname => exact .interactionUnnamed hname
  | interactionUnbalanced ha hb hf hg hgate =>
      exact .interactionUnbalanced ha hb ((h.resolve_eq (by simp [fields]) _).trans hf)
        ((h.resolve_eq (by simp [fields]) _).trans hg) hgate
  | unidirectionalFlow => exact .unidirectionalFlow

end Operation

/-! ## What is written -/

namespace EnergyField

theorem name_transition (f : EnergyField α) (target : Phase) :
    (f.transition target).name = f.name := by
  unfold transition
  dsimp only
  split <;> rfl

theorem map_name_spawns {f : EnergyField α} {depth : α} {spawns : List (EnergyField α)}
    (h : f.spawns? depth = some spawns) :
    spawns.map EnergyField.name = spawnNames f.name depth := by
  obtain ⟨n, hn, rfl⟩ := Option.map_eq_some_iff.mp h
  rw [spawnNames, hn, List.map_map]
  rfl

end EnergyField

namespace Operation

/-- Apart from a split, every transition gives fields with the names of the fields that go
into it. -/
theorem preserves_names (maxDepth : α) {op : Operation α} (hop : op.kind ≠ .fractalSpawn) :
    op.Preserves (·.name ∈ op.fields) maxDepth := by
  cases op with
  | fractalSpawn => exact absurd rfl hop
  | phaseTransition field target =>
      intro f phase hf
      rw [EnergyField.name_transition]
      exact hf
  | regenerate => exact fun _ hf => hf
  | decay => exact fun _ hf => hf
  | creation => exact List.mem_cons_self
  | unidirectionalFlow | unknown => trivial
  | _ => exact fun _ _ hf hg => ⟨hf, hg⟩

/-- An operation stores fields under the names that it writes and no others. -/
theorem Applies.name_mem_writes {r : Registry α} {maxDepth : α} {op : Operation α}
    {outcome : Outcome α} {stored : List (EnergyField α)}
    (happlies : op.Applies r maxDepth outcome stored) : ∀ f ∈ stored, f.name ∈ op.writes := by
  have hread : r.Reads (·.name ∈ op.fields) op.fields := by
    intro name hname energy
    rw [r.name_resolve]
    exact hname
  have hfields (hop : op.kind ≠ .fractalSpawn) : ∀ f ∈ stored, f.name ∈ op.fields :=
    happlies.stores (preserves_names maxDepth hop) hread
  cases happlies with
  | fractalSpawn hf _ hspawns =>
      intro s hs
      rw [writes, ← Registry.name_of_get? hf, ← EnergyField.map_name_spawns hspawns]
      exact List.mem_map_of_mem hs
  | unknown => exact fun _ hf => absurd hf List.not_mem_nil
  | _ => exact hfields nofun

/-- What an operation does to a registry, it does to every registry with the fields that it
names: it stores the same fields, under names that it writes, and has the same verdict. -/
theorem exists_stored (r : Registry α) (maxDepth : α) (op : Operation α) :
    ∃ stored : List (EnergyField α), (∀ f ∈ stored, f.name ∈ op.writes) ∧
      ∀ s : Registry α, r.AgreeOn s op.fields →
        op.apply s maxDepth = (s.commit stored, (op.apply r maxDepth).2) := by
  rcases op.applies_or_declines r maxDepth with ⟨outcome, stored, happlies⟩ | ⟨verdict, hdeclines⟩
  · refine ⟨stored, happlies.name_mem_writes, fun s hs => ?_⟩
    rw [happlies.apply_eq, (happlies.congr hs).apply_eq]
  · refine ⟨[], fun _ hf => absurd hf List.not_mem_nil, fun s hs => ?_⟩
    rw [hdeclines.apply_eq, (hdeclines.congr hs).apply_eq, Registry.commit_nil]

end Operation

end FieldCalculus
