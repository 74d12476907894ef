import FieldCalculus.Proofs.Operation.Applied
import FieldCalculus.Proofs.Operation.Independence
/-!
# The names after an operation

An applied operation keeps every registered name in its place and appends the names that it
stores first, in the order in which it comes to them.  It touches nothing outside the fields
that it names and the spawns of a split, and a split does not touch its parent.
-/

namespace FieldCalculus

variable {α : Type} [Scalar α]

/-! ## The names of a network -/

theorem Registry.names_enroll (r : Registry α) (energy : α) (names : List String) :
    (r.enroll energy names).names = r.names ++ (names.filter (· ∉ r.names)).eraseDups := by
  have hstore : ∀ (r : Registry α) (name : String), (enrollOne energy r name).names =
      if name ∈ r.names then r.names else r.names ++ [name] := by
    intro r name
    rw [enrollOne_eq_put, names_put, name_resolve]
  have hnames := names_foldl id hstore names r
  rwa [List.map_id] at hnames

namespace Evaluation

theorem name_member (r staged : Registry α) (name : String) :
    (member r staged name).name = name := by
  rw [member_eq_resolve, Registry.name_resolve]

theorem names_runPairs {r final : Registry α} {pairs : List (String × String)} :
    ∀ {staged : Registry α}, (∀ p ∈ pairs, p.1 ∈ staged.names ∧ p.2 ∈ staged.names) →
      runPairs r staged pairs = .ok final → final.names = staged.names := by
  induction pairs with
  | nil =>
      intro staged _ h
      cases h
      rfl
  | cons p rest ih =>
      intro staged hpairs h
      obtain ⟨a, b⟩ := p
      obtain ⟨ha, hb⟩ := hpairs (a, b) List.mem_cons_self
      rw [runPairs] at h
      split at h
      · cases h
      · -- both fields of the pair are staged already, so they are replaced in place
        have hfirst : ((member r staged a).interact (member r staged b)).1.name = a :=
          name_member r staged a
        have hsecond : ((member r staged a).interact (member r staged b)).2.name = b :=
          name_member r staged b
        have hkept : ((staged.put ((member r staged a).interact (member r staged b)).1).put
            ((member r staged a).interact (member r staged b)).2).names = staged.names := by
          rw [Registry.names_put, Registry.names_put, hfirst, hsecond, if_pos ha, if_pos hb]
        rw [ih _ h, hkept]
        intro q hq
        rw [hkept]
        exact hpairs q (List.mem_cons_of_mem _ hq)

theorem mem_names_members (r : Registry α) (names : List String) {name : String}
    (h : name ∈ names) : name ∈ (members r names).names := by
  have hstore : ∀ (staged : Registry α) (name : String),
      (staged.put (member r staged name)).names =
        if name ∈ staged.names then staged.names else staged.names ++ [name] := by
    intro staged name
    rw [Registry.names_put, name_member]
  have hnames := Registry.names_foldl id hstore names .empty
  rw [members, hnames]
  simpa using h

theorem names_staged {r staged : Registry α} {names : List String}
    (h : runPairs r (members r names) (indexPairs names) = .ok staged) :
    staged.names = (members r names).names := by
  refine names_runPairs (fun p hp => ?_) h
  obtain ⟨h1, h2⟩ := mem_of_mem_indexPairs hp
  exact ⟨mem_names_members r names h1, mem_names_members r names h2⟩

/-- A network that runs through has the names of its members as they came first. -/
theorem names_commit_network {r staged : Registry α} {names : List String}
    (h : runPairs r (members r names) (indexPairs names) = .ok staged) :
    (r.commit staged.fields).names = r.names ++ (names.filter (· ∉ r.names)).eraseDups := by
  calc
    (r.commit staged.fields).names = (r.commit (members r names).fields).names := by
      rw [Registry.names_commit_fields, Registry.names_commit_fields, names_staged h]
    _ = r.names ++ (names.filter (· ∉ r.names)).eraseDups := by
      rw [commit_members, Registry.names_enroll]

end Evaluation

/-! ## The names of a split -/

namespace EnergyField

theorem spawnName_injective {parent : String} {depth : α} {i j : Nat}
    (h : spawnName parent depth i = spawnName parent depth j) : i = j := by
  simp only [spawnName, String.append_right_inj] at h
  have hnumber := congrArg (fun digits => Nat.ofDigitChars 10 digits.toList 0) h
  simpa [Nat.toString_eq_ofList_toDigits] using hnumber

theorem spawnName_ne (parent : String) (depth : α) (i : Nat) :
    spawnName parent depth i ≠ parent := by
  intro h
  have hlength := congrArg String.length h
  have hmark : "_fractal_".length = 9 := by decide
  simp only [spawnName, String.length_append, hmark] at hlength
  omega

theorem parent_not_mem_spawnNames (parent : String) (depth : α) :
    parent ∉ spawnNames parent depth := by
  unfold spawnNames
  split
  · exact List.not_mem_nil
  · intro hmem
    obtain ⟨i, _, hi⟩ := List.mem_map.mp hmem
    exact spawnName_ne parent depth i hi

theorem nodup_spawnNames (parent : String) (depth : α) : (spawnNames parent depth).Nodup := by
  unfold spawnNames
  split
  · exact List.nodup_nil
  · exact List.nodup_range.map fun _ _ h => spawnName_injective h

end EnergyField

/-! ## The names of an operation -/

namespace Operation

/-- The names of the spawns of an operation, in the order of their numbers. -/
def spawnNames : Operation α → List String
  | fractalSpawn field _ depth => EnergyField.spawnNames field depth
  | _ => []

theorem mem_fields_or_spawnNames {op : Operation α} {name : String} (h : name ∈ op.writes) :
    name ∈ op.fields ∨ name ∈ op.spawnNames := by
  cases op with
  | fractalSpawn => exact Or.inr h
  | unidirectionalFlow | unknown => cases h
  | _ => exact Or.inl h

variable {r : Registry α} {maxDepth : α} {op : Operation α} {outcome : Outcome α}
  {stored : List (EnergyField α)}

/-- Apart from a network, which stores each of its fields once, an operation stores a field
for each name that it writes. -/
theorem Applies.map_name_stored (h : op.Applies r maxDepth outcome stored)
    (hop : op.kind ≠ .network) : stored.map EnergyField.name = op.writes := by
  cases h with
  | network => exact absurd rfl hop
  | @entangle a b _ _ _ _ hf hg | @symbiosis a b _ _ _ _ hf hg
  | @interaction a b _ _ _ _ _ hf hg =>
      have ha : _ = a := hf ▸ r.name_resolve a _
      have hb : _ = b := hg ▸ r.name_resolve b _
      exact congrArg₂ (fun a b => [a, b]) ha hb
  | @resonance a b _ _ hf hg | @spatialFlow a b _ _ hf hg =>
      have ha : _ = a := Registry.name_of_get? hf
      have hb : _ = b := Registry.name_of_get? hg
      exact congrArg₂ (fun a b => [a, b]) ha hb
  | @regenerate a _ _ _ hf =>
      have ha : _ = a := hf ▸ r.name_resolve a _
      exact congrArg (fun a => [a]) ha
  | @decay a _ _ hf =>
      have ha : _ = a := Registry.name_of_get? hf
      exact congrArg (fun a => [a]) ha
  | phaseTransition hf =>
      rw [List.map_singleton, EnergyField.name_transition, Registry.name_of_get? hf]
      rfl
  | fractalSpawn hf _ hspawns =>
      rw [EnergyField.map_name_spawns hspawns, Registry.name_of_get? hf, writes]
  | creation | unknown => rfl

theorem Applies.names_commit (h : op.Applies r maxDepth outcome stored) :
    (r.commit stored).names = r.names ++ (op.writes.filter (· ∉ r.names)).eraseDups := by
  by_cases hop : op.kind = .network
  · cases h with
    | network _ _ hrun => exact Evaluation.names_commit_network hrun
    | _ => cases hop
  · rw [Registry.names_commit, h.map_name_stored hop]

end Operation

/-- An applied operation appends the new names that it stores to the registered ones, in the
order in which it comes to them, and changes nothing outside the fields that it names and
the spawns of a split.  The parent of a split stays as it is. -/
theorem footprint_of_applied {r : Registry α} {maxDepth : α} {op : Operation α}
    (happlied : (op.apply r maxDepth).2.status = .applied) :
    let after := (op.apply r maxDepth).1
    after.names = r.names ++ (op.writes.filter (· ∉ r.names)).eraseDups ∧
    after.names.Nodup ∧
    (∀ name ∈ after.names, ∃ f, after.get? name = some f ∧ f.name = name) ∧
    (∀ name ∈ after.names, name ∈ r.names ∨ name ∈ op.fields ∨ name ∈ op.spawnNames) ∧
    (∀ name, name ∉ op.fields → name ∉ op.spawnNames → after.get? name = r.get? name) ∧
    ∀ field iterations depth, op = .fractalSpawn field iterations depth →
      after.get? field = r.get? field ∧
      ∃ n, EnergyField.spawnCount? depth = some n ∧
        after.names = r.names ++
          ((List.range n).map (EnergyField.spawnName field depth)).filter (· ∉ r.names) := by
  intro after
  obtain ⟨outcome, stored, happlies, hafter⟩ := Operation.exists_applies happlied
  have hnames : after.names = r.names ++ (op.writes.filter (· ∉ r.names)).eraseDups := by
    rw [← happlies.names_commit]
    exact congrArg Registry.names hafter
  have hframe : ∀ name, name ∉ op.writes → after.get? name = r.get? name := fun _ =>
    Operation.get?_apply_of_not_mem r maxDepth
  refine ⟨hnames, after.nodup, ?_, ?_, ?_, ?_⟩
  · intro name hname
    obtain ⟨f, hf⟩ := Registry.exists_get?_of_mem_names hname
    exact ⟨f, hf, Registry.name_of_get? hf⟩
  · intro name hname
    rw [hnames, List.mem_append, List.mem_eraseDups, List.mem_filter] at hname
    exact hname.imp_right fun hnew => Operation.mem_fields_or_spawnNames hnew.1
  · intro name hfields hspawns
    exact hframe name fun hwritten =>
      (Operation.mem_fields_or_spawnNames hwritten).elim hfields hspawns
  · rintro field iterations depth rfl
    cases happlies with
    | fractalSpawn _ _ hspawns =>
      obtain ⟨n, hn, _⟩ := Option.map_eq_some_iff.mp hspawns
      have hwrites : (Operation.fractalSpawn field iterations depth).writes =
          (List.range n).map (EnergyField.spawnName field depth) := by
        rw [Operation.writes, EnergyField.spawnNames, hn]
      refine ⟨hframe field (EnergyField.parent_not_mem_spawnNames field depth), n, hn, ?_⟩
      have hnodup : (Operation.fractalSpawn field iterations depth).writes.Nodup :=
        EnergyField.nodup_spawnNames field depth
      rw [hnames, ← hwrites, Registry.eraseDups_of_nodup (hnodup.filter _)]

/-- The second spawn of `a` is registered before `a` is split, so it keeps its place. -/
theorem footprint_of_applied_registered_spawn :
    let r : Registry ℚ :=
      (Registry.empty.put (EnergyField.create "a_fractal_1_1" 5)).put (EnergyField.create "a" 100)
    let op : Operation ℚ := .fractalSpawn "a" 2 1
    let after := (op.apply r 12).1
    (op.apply r 12).2.status = .applied ∧
    after.names = ["a_fractal_1_1", "a", "a_fractal_1_0"] ∧
    after.get? "a" = r.get? "a" := by
  intro r op after
  have happlied : (op.apply r 12).2.status = .applied := by decide +kernel
  exact ⟨happlied, by decide +kernel,
    ((footprint_of_applied happlied).2.2.2.2.2 "a" 2 1 rfl).1⟩

end FieldCalculus
