import FieldCalculus.Proofs.Operation.Stored
import FieldCalculus.Proofs.Run.Verdicts
/-!
# What a client of an interpreter can reach

A client creates and removes fields and executes scripts.  Every line of a script is run in
the state that the lines before it left, so a property of all registered fields holds all the
way if no line that is run breaks it.
-/

namespace FieldCalculus

variable {α : Type}

/-- One call of an interpreter. -/
inductive Call (α : Type)
  | createField (name : String) (energy frequency : α) (position : Vector3 α)
  | removeField (name : String)
  | execute (script : String)

variable [Scalar α]

namespace Execution

/-- The registries that the lines are run on, and the one after the last line. -/
def registries (e : Execution α) : List String → List (Registry α)
  | [] => [e.interpreter.registry]
  | line :: rest => e.interpreter.registry :: registries (e.step line) rest

/-- The lines, each with the execution that runs it. -/
def lineRuns (e : Execution α) : List String → List (Execution α × String)
  | [] => []
  | line :: rest => (e, line) :: lineRuns (e.step line) rest

end Execution

namespace Interpreter

/-- The interpreter after a call. -/
def call (i : Interpreter α) : Call α → Interpreter α
  | .createField name energy frequency position => i.createField name energy frequency position
  | .removeField name => i.removeField name
  | .execute script => (i.execute script).interpreter

/-- The registries that some calls go through, line by line where they run scripts. -/
def registries (i : Interpreter α) : List (Call α) → List (Registry α)
  | [] => [i.registry]
  | .execute script :: rest =>
    i.start.registries (Text.splitLines script) ++ registries (i.call (.execute script)) rest
  | c :: rest => i.registry :: registries (i.call c) rest

/-- The lines of the scripts among some calls, each with the execution that runs it. -/
def lineRuns (i : Interpreter α) : List (Call α) → List (Execution α × String)
  | [] => []
  | .execute script :: rest =>
    i.start.lineRuns (Text.splitLines script) ++ lineRuns (i.call (.execute script)) rest
  | c :: rest => lineRuns (i.call c) rest

end Interpreter

/-- A field that the call creates has the property. -/
def Call.Creates (P : EnergyField α → Prop) : Call α → Prop
  | createField name energy frequency position =>
    P (EnergyField.create name energy frequency position)
  | removeField _ | execute _ => True

/-- A line keeps a property of all registered fields, unless it is one of the `breaking`
lines: those always take it away. -/
def Execution.Keeps (P : EnergyField α → Prop) (breaking : Execution α → String → Prop)
    (maxDepth : α) : Prop :=
  ∀ (e : Execution α) (line : String), e.interpreter.maxFractalDepth = maxDepth →
    e.interpreter.registry.Forall P →
      ((e.step line).interpreter.registry.Forall P ↔ ¬ breaking e line)

variable {P : EnergyField α → Prop} {breaking : Execution α → String → Prop} {maxDepth : α}

namespace Execution

theorem run_maxFractalDepth (e : Execution α) (lines : List String) :
    (e.run lines).interpreter.maxFractalDepth = e.interpreter.maxFractalDepth := by
  induction lines generalizing e with
  | nil => rfl
  | cons line rest ih => exact (ih (e.step line)).trans (step_maxFractalDepth e line)

theorem step_forall {e : Execution α} {line : String}
    (hline : (recognize line : Operation α).Preserves P e.interpreter.maxFractalDepth)
    (hcreate : ∀ name energy, P (EnergyField.create name energy))
    (he : e.interpreter.registry.Forall P) : (e.step line).interpreter.registry.Forall P := by
  rw [step_registry]
  exact Operation.apply_forall hline hcreate he

theorem run_registry_mem_registries (e : Execution α) (lines : List String) :
    (e.run lines).interpreter.registry ∈ e.registries lines := by
  induction lines generalizing e with
  | nil => exact List.mem_cons_self
  | cons line rest ih => exact List.mem_cons_of_mem _ (ih (e.step line))

theorem mem_registries (e : Execution α) (lines : List String) :
    e.interpreter.registry ∈ e.registries lines := by
  cases lines <;> exact List.mem_cons_self

theorem registries_forall_iff (hkeeps : Keeps P breaking maxDepth) {e : Execution α}
    (hdepth : e.interpreter.maxFractalDepth = maxDepth) (he : e.interpreter.registry.Forall P)
    (lines : List String) :
    (∀ r ∈ e.registries lines, r.Forall P) ↔ ∀ run ∈ e.lineRuns lines, ¬ breaking run.1 run.2 := by
  induction lines generalizing e with
  | nil => simpa [registries, lineRuns] using he
  | cons line rest ih =>
      have hstep := hkeeps e line hdepth he
      have hdepth' := (step_maxFractalDepth e line).trans hdepth
      simp only [registries, lineRuns, List.forall_mem_cons]
      constructor
      · rintro ⟨_, hrest⟩
        have hafter := hrest _ (mem_registries (e.step line) rest)
        exact ⟨hstep.mp hafter, (ih hdepth' hafter).mp hrest⟩
      · rintro ⟨hline, hrest⟩
        exact ⟨he, (ih hdepth' (hstep.mpr hline)).mpr hrest⟩

end Execution

namespace Interpreter

theorem mem_registries (i : Interpreter α) (calls : List (Call α)) :
    i.registry ∈ i.registries calls := by
  cases calls with
  | nil => exact List.mem_cons_self
  | cons c rest =>
      cases c with
      | execute script =>
          exact List.mem_append_left _ (i.start.mem_registries (Text.splitLines script))
      | _ => exact List.mem_cons_self

/-- A property holds in all states on the way through some calls if and only if no line that
is run breaks it. -/
theorem registries_forall_iff (hkeeps : Execution.Keeps P breaking maxDepth)
    {calls : List (Call α)} (hcreate : ∀ c ∈ calls, c.Creates P) {i : Interpreter α}
    (hdepth : i.maxFractalDepth = maxDepth) (hi : i.registry.Forall P) :
    (∀ r ∈ i.registries calls, r.Forall P) ↔
      ∀ run ∈ i.lineRuns calls, ¬ breaking run.1 run.2 := by
  induction calls generalizing i with
  | nil => simpa [registries, lineRuns] using hi
  | cons c rest ih =>
      obtain ⟨hc, hrest⟩ := List.forall_mem_cons.mp hcreate
      cases c with
      | createField name energy frequency position =>
          have hafter := ih hrest (i := i.call (.createField name energy frequency position))
            hdepth (hi.put hc)
          simpa only [registries, lineRuns, List.forall_mem_cons, hi, true_and] using hafter
      | removeField name =>
          have hafter := ih hrest (i := i.call (.removeField name)) hdepth (hi.remove name)
          simpa only [registries, lineRuns, List.forall_mem_cons, hi, true_and] using hafter
      | execute script =>
          have hlines := Execution.registries_forall_iff hkeeps (e := i.start) hdepth hi
            (Text.splitLines script)
          have hdepth' := (i.start.run_maxFractalDepth (Text.splitLines script)).trans hdepth
          simp only [registries, lineRuns, List.forall_mem_append]
          constructor
          · rintro ⟨hscript, hafter⟩
            have hi' := hafter _ (mem_registries (i.call (.execute script)) rest)
            exact ⟨hlines.mp hscript, (ih hrest hdepth' hi').mp hafter⟩
          · rintro ⟨hscript, hafter⟩
            have hregistries := hlines.mpr hscript
            have hi' := hregistries _
              (i.start.run_registry_mem_registries (Text.splitLines script))
            exact ⟨hregistries, (ih hrest hdepth' hi').mpr hafter⟩

end Interpreter

end FieldCalculus
