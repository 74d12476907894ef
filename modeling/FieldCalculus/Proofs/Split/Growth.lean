import FieldCalculus.Proofs.Exact.Rational
import FieldCalculus.Proofs.Operation.Names
import FieldCalculus.Proofs.Run.Verdicts
/-!
# What a split adds to a registry

A split stores its parts under names that it makes from the name of the parent, the depth and a
number.  Parts with new names are added beside what is registered; a part whose name is taken
replaces the field that has it.
-/

namespace FieldCalculus

variable {α : Type}

namespace Registry

/-- Every field of the first registry is in the second one as it was. -/
def KeptBy (r s : Registry α) : Prop :=
  ∀ name f, r.get? name = some f → s.get? name = some f

/-- A registry grows by the fields that are stored, less those that take the place of another. -/
theorem size_commit_of_nodup (r : Registry α) {fields : List (EnergyField α)}
    (hfields : (fields.map EnergyField.name).Nodup) :
    (r.commit fields).size + ((fields.map EnergyField.name).filter (· ∈ r.names)).length =
      r.size + fields.length := by
  have hnew : (r.commit fields).names =
      r.names ++ (fields.map EnergyField.name).filter (· ∉ r.names) := by
    rw [names_commit, eraseDups_of_nodup (hfields.filter _)]
  have hlength := congrArg List.length hnew
  have hsplit := List.length_eq_length_filter_add (l := fields.map EnergyField.name)
    (fun name => decide (name ∈ r.names))
  simp only [length_names, List.length_append, List.length_map, decide_not] at hlength hsplit
  omega

/-- Storing fields of different names adds all of them and takes nothing away if and only if none
of their names was taken. -/
theorem adds_iff_names_free (r : Registry α) {fields : List (EnergyField α)}
    (hfields : (fields.map EnergyField.name).Nodup) :
    r.KeptBy (r.commit fields) ∧ (r.commit fields).size = r.size + fields.length ↔
      ∀ name ∈ fields.map EnergyField.name, name ∉ r.names := by
  have hsize := r.size_commit_of_nodup hfields
  constructor
  · rintro ⟨_, hgrown⟩ name hname htaken
    have hmem : name ∈ (fields.map EnergyField.name).filter (· ∈ r.names) :=
      List.mem_filter.mpr ⟨hname, decide_eq_true htaken⟩
    have hpos := List.length_pos_of_mem hmem
    omega
  · intro hfree
    have hnone : (fields.map EnergyField.name).filter (· ∈ r.names) = [] := by
      rw [List.filter_eq_nil_iff]
      exact fun name hname => by simpa using hfree name hname
    rw [hnone, List.length_nil, add_zero] at hsize
    refine ⟨fun name f hf => ?_, hsize⟩
    rw [get?_commit_of_not_mem, hf]
    intro g hg hname
    exact hfree _ (List.mem_map_of_mem hg) (hname ▸ mem_names_of_get? hf)

end Registry

variable [Scalar α]

theorem Execution.exists_parts_of_applied {e : Execution α} {line parent : String}
    {iterations depth : α}
    (hsplit : (recognize line : Operation α) = .fractalSpawn parent iterations depth)
    (happlied : (e.verdict line).status = .applied) :
    ∃ parts, parts.map EnergyField.name = EnergyField.spawnNames parent depth ∧
      e.effect line = (e.interpreter.registry.commit parts,
        .applied (.fractal parent depth parts.length (parts.map EnergyField.name))) := by
  have heffect : e.effect line = (Operation.fractalSpawn parent iterations depth).apply
      e.interpreter.registry e.interpreter.maxFractalDepth := by
    rw [effect, hsplit]
  rw [verdict, heffect] at happlied
  rw [heffect]
  obtain ⟨outcome, stored, happlies, _⟩ := Operation.exists_applies happlied
  cases happlies with
  | @fractalSpawn _ _ _ f _ hf hdepth hspawns =>
      have hnames := EnergyField.map_name_spawns hspawns
      rw [Registry.name_of_get? hf] at hnames
      have happlies : (Operation.fractalSpawn parent iterations depth).Applies
          e.interpreter.registry e.interpreter.maxFractalDepth _ stored :=
        .fractalSpawn hf hdepth hspawns
      exact ⟨stored, hnames, happlies.apply_eq⟩

/-- An applied split leaves alone what its parts are not stored over, and the registry grows by
the number of parts less that of the names that were taken.  So it keeps every field and grows by
as many as it reports if and only if none of the names was taken. -/
theorem split_adds_iff_names_free {e : Execution α} {line parent : String} {iterations depth : α}
    (hsplit : (recognize line : Operation α) = .fractalSpawn parent iterations depth)
    (happlied : (e.verdict line).status = .applied) :
    let before := e.interpreter.registry
    let after := (e.step line).interpreter.registry
    let names := EnergyField.spawnNames parent depth
    (e.verdict line).outcome? = some (.fractal parent depth names.length names) ∧
      (∀ name ∈ names, name ∈ after.names) ∧
      (∀ name, name ∉ names → after.get? name = before.get? name) ∧
      after.get? parent = before.get? parent ∧
      after.size + (names.filter (· ∈ before.names)).length = before.size + names.length ∧
      (before.KeptBy after ∧ after.size = before.size + names.length ↔
        ∀ name ∈ names, name ∉ before.names) := by
  intro before after names
  obtain ⟨parts, hnames, heffect⟩ := Execution.exists_parts_of_applied hsplit happlied
  have hlength : parts.length = names.length := by
    rw [← List.length_map EnergyField.name, hnames]
  have hnodup : (parts.map EnergyField.name).Nodup := by
    rw [hnames]
    exact EnergyField.nodup_spawnNames parent depth
  have hafter : after = before.commit parts := by
    have hregistry := e.step_registry line
    rwa [heffect] at hregistry
  have hframe : ∀ name, name ∉ names → after.get? name = before.get? name := by
    intro name hname
    rw [hafter]
    refine Registry.get?_commit_of_not_mem fun part hpart heq => hname ?_
    have hmem := List.mem_map_of_mem (f := EnergyField.name) hpart
    rwa [hnames, heq] at hmem
  refine ⟨?_, ?_, hframe, ?_, ?_, ?_⟩
  · rw [Execution.verdict, heffect, hlength, hnames]
    rfl
  · intro name hname
    rw [hafter, Registry.mem_names_commit]
    exact Or.inr (List.mem_map.mp (hnames ▸ hname))
  · exact hframe parent (EnergyField.parent_not_mem_spawnNames parent depth)
  · have hsize := before.size_commit_of_nodup hnodup
    rwa [hnames, ← hafter, hlength] at hsize
  · have hadds := before.adds_iff_names_free hnodup
    rwa [hnames, ← hafter, hlength] at hadds

/-- A part is split in its turn, and all its parts are new. -/
theorem split_adds_iff_names_free_of_part :
    let e := ((Interpreter.new : Interpreter ℚ).execute "a = 100\n∮^1(a, 1)").interpreter.start
    let line := "∮^2(a_fractal_1_0, 2)"
    (recognize line : Operation ℚ) = .fractalSpawn "a_fractal_1_0" 2 2 ∧
      (e.verdict line).status = .applied ∧
      e.interpreter.registry.KeptBy (e.step line).interpreter.registry ∧
      (e.step line).interpreter.registry.size = e.interpreter.registry.size + 4 := by
  intro e line
  have hsplit : (recognize line : Operation ℚ) = .fractalSpawn "a_fractal_1_0" 2 2 := by
    decide +kernel
  have happlied : (e.verdict line).status = .applied := by
    decide +kernel
  have hfree : ∀ name ∈ EnergyField.spawnNames "a_fractal_1_0" (2 : ℚ),
      name ∉ e.interpreter.registry.names := by
    decide +kernel
  have hcount : (EnergyField.spawnNames "a_fractal_1_0" (2 : ℚ)).length = 4 := by
    decide +kernel
  obtain ⟨-, -, -, -, -, hiff⟩ := split_adds_iff_names_free hsplit happlied
  obtain ⟨hkept, hsize⟩ := hiff.mpr hfree
  exact ⟨hsplit, happlied, hkept, hcount ▸ hsize⟩

/-- A field is split twice to the same depth.  The second time brings no new field and takes
away the phase that a part of the first one has reached. -/
theorem split_again_replaces_parts :
    let e := ((Interpreter.new : Interpreter ℚ).execute
      "a = 100\n∮^1(a, 1)\n∂phase(a_fractal_1_0, liquid)").interpreter.start
    let line := "∮^1(a, 1)"
    (recognize line : Operation ℚ) = .fractalSpawn "a" 1 1 ∧
      (e.verdict line).status = .applied ∧
      (e.step line).interpreter.registry.size = e.interpreter.registry.size ∧
      ¬ e.interpreter.registry.KeptBy (e.step line).interpreter.registry := by
  intro e line
  have hbefore : (e.interpreter.registry.get? "a_fractal_1_0").map (·.phase) = some .liquid := by
    decide +kernel
  have hafter : ((e.step line).interpreter.registry.get? "a_fractal_1_0").map (·.phase) =
      some .normal := by
    decide +kernel
  refine ⟨by decide +kernel, by decide +kernel, by decide +kernel, fun hkept => ?_⟩
  obtain ⟨part, hpart, hliquid⟩ := Option.map_eq_some_iff.mp hbefore
  rw [hkept _ _ hpart, Option.map_some, hliquid] at hafter
  cases hafter

end FieldCalculus
