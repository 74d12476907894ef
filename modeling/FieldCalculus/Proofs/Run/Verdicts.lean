import FieldCalculus.Interpreter
import FieldCalculus.Proofs.Operation.Applied
/-!
# Runs as lists of verdicts

A run gives every line a verdict.  The verdicts determine what the run stores and what it
logs, and they depend on the execution through its registry alone: the results, warnings
and journal so far have no influence on the lines to come.
-/

namespace FieldCalculus

variable {α : Type}

/-- Outcomes under their keys, the first with number `n`. -/
def ResultLog.numbered (n : Nat) : List (Outcome α) → ResultLog α
  | [] => []
  | o :: rest => (o.key n, o) :: numbered (n + 1) rest

namespace ResultLog

@[simp] theorem length_numbered (n : Nat) (outcomes : List (Outcome α)) :
    (numbered n outcomes).length = outcomes.length := by
  induction outcomes generalizing n with
  | nil => rfl
  | cons o rest ih => simp [numbered, ih]

theorem numbered_append (n : Nat) (outcomes more : List (Outcome α)) :
    numbered n (outcomes ++ more) =
      numbered n outcomes ++ numbered (n + outcomes.length) more := by
  induction outcomes generalizing n with
  | nil => rfl
  | cons o rest ih =>
      have hshift : n + (rest.length + 1) = n + 1 + rest.length := by omega
      simp only [List.cons_append, numbered, ih, List.length_cons, hshift]

end ResultLog

variable [Scalar α]

/-- The outcome that a verdict adds to the result log.  A skip adds none. -/
def Verdict.outcome? : Verdict α → Option (Outcome α)
  | applied outcome => some outcome
  | skipped _ => none
  | failed fault => some (Outcome.ofFault fault)

theorem Verdict.outcome?_of_skipped {v : Verdict α} (h : v.status = .skipped) :
    v.outcome? = none := by
  cases v with
  | applied outcome => cases h
  | skipped reason => rfl
  | failed fault => cases h

theorem Verdict.outcome?_of_failed {v : Verdict α} (h : v.status = .failed) :
    ∃ fault, v.outcome? = some (Outcome.ofFault fault) := by
  cases v with
  | applied outcome => cases h
  | skipped reason => cases h
  | failed fault => exact ⟨fault, rfl⟩

/-- A script before its first line. -/
def Interpreter.start (i : Interpreter α) : Execution α := ⟨i, [], []⟩

namespace Execution

/-- What a line does as the execution stands: the registry that it leaves and its verdict. -/
def effect (e : Execution α) (line : String) : Registry α × Verdict α :=
  (recognize line).apply e.interpreter.registry e.interpreter.maxFractalDepth

/-- The verdict that a line gets as the execution stands. -/
def verdict (e : Execution α) (line : String) : Verdict α := (e.effect line).2

/-- The verdicts that some lines get one after the other. -/
def verdicts (e : Execution α) : List String → List (Verdict α)
  | [] => []
  | line :: rest => e.verdict line :: verdicts (e.step line) rest

/-! ## One line -/

theorem step_registry (e : Execution α) (line : String) :
    (e.step line).interpreter.registry = (e.effect line).1 := by
  unfold step effect
  rcases (recognize line).apply e.interpreter.registry e.interpreter.maxFractalDepth with
    ⟨after, outcome | reason | fault⟩ <;> rfl

theorem step_maxFractalDepth (e : Execution α) (line : String) :
    (e.step line).interpreter.maxFractalDepth = e.interpreter.maxFractalDepth := by
  unfold step
  rcases (recognize line).apply e.interpreter.registry e.interpreter.maxFractalDepth with
    ⟨after, outcome | reason | fault⟩ <;> rfl

theorem step_results (e : Execution α) (line : String) :
    (e.step line).results =
      e.results ++ ResultLog.numbered e.results.length (e.verdict line).outcome?.toList := by
  unfold step verdict effect
  rcases (recognize line).apply e.interpreter.registry e.interpreter.maxFractalDepth with
    ⟨after, outcome | reason | fault⟩
  · rfl
  · exact (List.append_nil _).symm
  · rfl

theorem length_results_step (e : Execution α) (line : String) :
    (e.step line).results.length =
      e.results.length + (e.verdict line).outcome?.toList.length := by
  rw [step_results, List.length_append, ResultLog.length_numbered]

/-! ## Some lines -/

theorem run_append (e : Execution α) (lines more : List String) :
    e.run (lines ++ more) = (e.run lines).run more :=
  List.foldl_append

theorem verdicts_append (e : Execution α) (lines more : List String) :
    e.verdicts (lines ++ more) = e.verdicts lines ++ (e.run lines).verdicts more := by
  induction lines generalizing e with
  | nil => rfl
  | cons line rest ih => exact congrArg (e.verdict line :: ·) (ih (e.step line))

/-- The result log lists the outcomes of the lines that are not skipped. -/
theorem run_results (e : Execution α) (lines : List String) :
    (e.run lines).results =
      e.results ++
        ResultLog.numbered e.results.length ((e.verdicts lines).filterMap Verdict.outcome?) := by
  induction lines generalizing e with
  | nil => exact (List.append_nil _).symm
  | cons line rest ih =>
      have hsplit : (e.verdicts (line :: rest)).filterMap Verdict.outcome? =
          (e.verdict line).outcome?.toList ++
            ((e.step line).verdicts rest).filterMap Verdict.outcome? := by
        rw [verdicts, List.filterMap_cons]
        cases (e.verdict line).outcome? <;> rfl
      have hrest := ih (e.step line)
      rw [step_results, List.length_append, ResultLog.length_numbered] at hrest
      rw [hsplit, ResultLog.numbered_append, ← List.append_assoc]
      exact hrest

/-- Two executions that the lines to come cannot tell apart. -/
def Alike (e e' : Execution α) : Prop :=
  e.interpreter.registry = e'.interpreter.registry ∧
    e.interpreter.maxFractalDepth = e'.interpreter.maxFractalDepth

theorem Alike.verdict_eq {e e' : Execution α} (h : Alike e e') (line : String) :
    e.verdict line = e'.verdict line := by
  rw [verdict, verdict, effect, effect, h.1, h.2]

theorem Alike.step {e e' : Execution α} (h : Alike e e') (line : String) :
    Alike (e.step line) (e'.step line) := by
  constructor
  · rw [step_registry, step_registry, effect, effect, h.1, h.2]
  · rw [step_maxFractalDepth, step_maxFractalDepth, h.2]

theorem Alike.run {e e' : Execution α} (h : Alike e e') (lines : List String) :
    Alike (e.run lines) (e'.run lines) := by
  induction lines generalizing e e' with
  | nil => exact h
  | cons line rest ih => exact ih (h.step line)

theorem Alike.verdicts_eq {e e' : Execution α} (h : Alike e e') (lines : List String) :
    e.verdicts lines = e'.verdicts lines := by
  induction lines generalizing e e' with
  | nil => rfl
  | cons line rest ih => rw [verdicts, verdicts, h.verdict_eq, ih (h.step line)]

/-- A line that is not applied changes nothing that later lines read. -/
theorem alike_step_of_not_applied {e : Execution α} {line : String}
    (h : (e.verdict line).status ≠ .applied) : Alike (e.step line) e := by
  constructor
  · exact (e.step_registry line).trans (Operation.apply_of_not_applied h)
  · exact step_maxFractalDepth e line

end Execution

/-- The results of a script are the outcomes of its lines, numbered from zero. -/
theorem Interpreter.results_execute (i : Interpreter α) (script : String) :
    (i.execute script).results =
      ResultLog.numbered 0
        ((i.start.verdicts (Text.splitLines script)).filterMap Verdict.outcome?) :=
  Execution.run_results i.start (Text.splitLines script)

end FieldCalculus
