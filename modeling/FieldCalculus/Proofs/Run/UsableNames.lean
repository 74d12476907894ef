import FieldCalculus.Number.FloatScalar
import FieldCalculus.Proofs.Binary64.Notation
import FieldCalculus.Proofs.Grammar.FieldNames
import FieldCalculus.Proofs.Operation.Names
import FieldCalculus.Proofs.Run.Calls
/-!
# Registered names can be used

A registered name is not empty, has no blanks at its ends and stays on one line, so scripts
can name every field that they or a client create.  The names of a line are trimmed, empty
ones are refused, and spawns add to a registered name what has no blanks.
-/

namespace FieldCalculus

open Text

/-- A name that a line can refer to. -/
structure UsableName (name : String) : Prop where
  ne_empty : name ≠ ""
  trim_eq : trim name = name
  single_line : '\n' ∉ name.toList

theorem NameIn.usableName {text : List Char} {name : String} (h : NameIn text name)
    (htext : '\n' ∉ text) (hname : name ≠ "") : UsableName name :=
  ⟨hname, h.trim_eq, fun hmem => htext (h.mem_text _ hmem)⟩

theorem trim_eq_self_iff {name : String} :
    trim name = name ↔ (∀ c ∈ name.toList.head?, isBlank c = false) ∧
      ∀ c ∈ name.toList.getLast?, isBlank c = false := by
  rw [← trimmed_eq_self_iff, trim, ← String.toList_inj, String.toList_ofList]

/-- A name with a piece behind it that has no blanks. -/
theorem UsableName.append {name more : String} (h : UsableName name) (hmore : Solid more) :
    UsableName (name ++ more) := by
  obtain ⟨hname, htrim, hline⟩ := h
  obtain ⟨hhead, hlast⟩ := trim_eq_self_iff.mp htrim
  have hchars : name.toList ≠ [] := fun hnil => hname (String.toList_eq_nil_iff.mp hnil)
  refine ⟨fun hempty => hname (String.append_eq_empty_iff.mp hempty).1,
    trim_eq_self_iff.mpr ⟨?_, ?_⟩, ?_⟩
  · rwa [String.toList_append, List.head?_append_of_ne_nil _ hchars]
  · intro c hc
    rw [String.toList_append, List.getLast?_append, Option.mem_def, Option.or_eq_some_iff] at hc
    rcases hc with hc | ⟨_, hc⟩
    · exact hmore c (List.mem_of_getLast? hc)
    · exact hlast c hc
  · rw [String.toList_append, List.mem_append, not_or]
    exact ⟨hline, fun hmem => absurd (hmore _ hmem) (by decide)⟩

/-! ## The names that an operation writes -/

theorem usableName_spawnName {parent : String} (h : UsableName parent) (depth : Float) (i : Nat) :
    UsableName (EnergyField.spawnName parent depth i) := by
  have hmark : Solid "_fractal_" := by decide
  have hline : Solid "_" := by decide
  have hdepth : Solid (Scalar.text depth) := Notation.solid_shortest depth
  exact (((h.append hmark).append hdepth).append hline).append (.number i)

theorem usableName_of_mem_spawnNames {parent name : String} {depth : Float} (h : UsableName parent)
    (hname : name ∈ EnergyField.spawnNames parent depth) : UsableName name := by
  unfold EnergyField.spawnNames at hname
  split at hname
  · cases hname
  · obtain ⟨i, _, rfl⟩ := List.mem_map.mp hname
    exact usableName_spawnName h depth i

namespace Operation

variable {r : Registry Float} {maxDepth : Float} {op : Operation Float} {outcome : Outcome Float}
  {stored : List (EnergyField Float)}

/-- The names of the operation can be used unless they are empty, and it creates no field
without a name. -/
def Tidy (op : Operation Float) : Prop :=
  (∀ name ∈ op.fields, name ≠ "" → UsableName name) ∧
    ∀ name energy, op = .creation name energy → name ≠ ""

theorem tidy_recognize {line : String} (hline : '\n' ∉ line.toList) :
    (recognize line : Operation Float).Tidy := by
  constructor
  · intro name hname
    exact (nameIn_of_recognize rfl hname).usableName hline
  · intro name energy hop
    exact creation_name_ne_empty_of_recognize hop

/-- An operation that is applied either checks that a name is not empty or finds it among the
registered ones. -/
theorem Applies.usableName_of_mem_writes (h : op.Applies r maxDepth outcome stored)
    (hop : op.Tidy) (hr : ∀ name ∈ r.names, UsableName name) :
    ∀ name ∈ op.writes, UsableName name := by
  intro name hname
  cases h with
  | entangle ha hb | symbiosis ha hb | interaction ha hb =>
      refine hop.1 name hname ?_
      rcases List.mem_pair.mp hname with rfl | rfl
      · exact ha
      · exact hb
  | regenerate hne =>
      refine hop.1 name hname ?_
      rwa [List.mem_singleton.mp hname]
  | network _ hnames => exact hop.1 name hname fun hempty => hnames (hempty ▸ hname)
  | resonance hf hg | spatialFlow hf hg =>
      rcases List.mem_pair.mp hname with rfl | rfl
      · exact hr name (Registry.mem_names_of_get? hf)
      · exact hr name (Registry.mem_names_of_get? hg)
  | phaseTransition hf | decay hf =>
      rw [List.mem_singleton.mp hname]
      exact hr _ (Registry.mem_names_of_get? hf)
  | fractalSpawn hf =>
      exact usableName_of_mem_spawnNames (hr _ (Registry.mem_names_of_get? hf)) hname
  | creation =>
      refine hop.1 name hname ?_
      rw [List.mem_singleton.mp hname]
      exact hop.2 _ _ rfl
  | unknown => cases hname

end Operation

/-! ## Runs -/

theorem Registry.forall_usableName_iff {r : Registry Float} :
    r.Forall (UsableName ·.name) ↔ ∀ name ∈ r.names, UsableName name := by
  rw [Forall, names, List.forall_mem_map]

/-- A line without a line feed keeps the registered names usable. -/
theorem Execution.forall_usableName_step {e : Execution Float} {line : String}
    (hline : '\n' ∉ line.toList) (he : e.interpreter.registry.Forall (UsableName ·.name)) :
    (e.step line).interpreter.registry.Forall (UsableName ·.name) := by
  rw [step_registry, effect]
  rcases (recognize line).applies_or_declines e.interpreter.registry
    e.interpreter.maxFractalDepth with ⟨outcome, stored, happlies⟩ | ⟨verdict, hdeclines⟩
  · rw [happlies.apply_eq]
    refine he.commit fun f hf => ?_
    exact happlies.usableName_of_mem_writes (Operation.tidy_recognize hline)
      (Registry.forall_usableName_iff.mp he) f.name (happlies.name_mem_writes f hf)
  · rw [hdeclines.apply_eq]
    exact he

theorem Execution.newline_not_mem_of_mem_lineRuns {α : Type} [Scalar α] {lines : List String}
    (hlines : ∀ line ∈ lines, '\n' ∉ line.toList) :
    ∀ {e : Execution α}, ∀ run ∈ e.lineRuns lines, '\n' ∉ run.2.toList := by
  induction lines with
  | nil =>
      intro e run hrun
      cases hrun
  | cons line rest ih =>
      intro e run hrun
      rcases List.mem_cons.mp hrun with rfl | hrun
      · exact hlines line List.mem_cons_self
      · exact ih (fun line hline => hlines line (List.mem_cons_of_mem _ hline)) run hrun

theorem Interpreter.newline_not_mem_of_mem_lineRuns {α : Type} [Scalar α] (calls : List (Call α)) :
    ∀ {i : Interpreter α}, ∀ run ∈ i.lineRuns calls, '\n' ∉ run.2.toList := by
  induction calls with
  | nil =>
      intro i run hrun
      cases hrun
  | cons c rest ih =>
      intro i run hrun
      cases c with
      | createField | removeField => exact ih run hrun
      | execute script =>
          rcases List.mem_append.mp hrun with hrun | hrun
          · exact Execution.newline_not_mem_of_mem_lineRuns
              (fun line => newline_not_mem_of_mem_splitLines) run hrun
          · exact ih run hrun

/-- Every registered name is usable in every state on the way through scripts and removals, and
through creations with usable names. -/
theorem reachable_names_usable (options : Options Float) (calls : List (Call Float))
    (hcalls : ∀ c ∈ calls, c.Creates (UsableName ·.name)) :
    ∀ r ∈ (Interpreter.new options).registries calls, ∀ name ∈ r.names, UsableName name := by
  -- the lines of a script have no line feed, so none of them breaks the property
  have hkeeps : Execution.Keeps (UsableName ·.name)
      (fun e line => '\n' ∈ line.toList ∧
        ¬ (e.step line).interpreter.registry.Forall (UsableName ·.name))
      options.maxFractalDepth := by
    intro e line _ he
    by_cases hline : '\n' ∈ line.toList
    · simp [hline]
    · exact iff_of_true (Execution.forall_usableName_step hline he) fun h => hline h.1
  have hruns := Interpreter.registries_forall_iff hkeeps hcalls (i := Interpreter.new options)
    rfl Registry.forall_empty
  intro r hr
  exact Registry.forall_usableName_iff.mp <| hruns.mpr
    (fun run hrun h => Interpreter.newline_not_mem_of_mem_lineRuns calls run hrun h.1) r hr

/-- A name with a blank inside, one that is blank altogether, and one between tabs. -/
theorem reachable_names_usable_blanks :
    let calls : List (Call Float) :=
      [.execute "⊗( old oak , sun )\n⊗(moon,  )\n∮regenerate(\tmoss\t, 5)", .removeField "sun"]
    let reached := (Interpreter.new Options.standard).registries calls
    (∀ c ∈ calls, c.Creates (UsableName ·.name)) ∧
      reached.map Registry.names =
        [[], ["old oak", "sun"], ["old oak", "sun"], ["old oak", "sun", "moss"],
          ["old oak", "sun", "moss"], ["old oak", "moss"]] ∧
      ∀ r ∈ reached, ∀ name ∈ r.names, UsableName name := by
  intro calls reached
  have hcalls : ∀ c ∈ calls, c.Creates (UsableName ·.name) := by
    simp [calls, Call.Creates]
  exact ⟨hcalls, by decide +kernel, reachable_names_usable Options.standard calls hcalls⟩

end FieldCalculus
