import FieldCalculus.Number.FloatScalar
import FieldCalculus.Proofs.Run.Verdicts
import FieldCalculus.Proofs.Text.Lines
/-!
# Lines that are not applied leave no trace

An operation that is skipped or fails leaves its registry as it was.  A script without
such a line therefore ends in the same registry and gives every other line the same
verdict.  The keys of later outcomes count the outcomes before them, so they move down by
one behind a line that failed and stay behind a line that was skipped.
-/

namespace FieldCalculus

variable {α : Type} [Scalar α]

namespace Execution

/-- What a run owes to the lines around a line that is not applied. -/
theorem alike_run_without {e : Execution α} {before after : List String} {line : String}
    (h : ((e.run before).verdict line).status ≠ .applied) :
    Alike (e.run (before ++ line :: after)) (e.run (before ++ after)) := by
  rw [run_append, run_append]
  exact (alike_step_of_not_applied h).run after

theorem verdicts_around {e : Execution α} {before after : List String} {line : String}
    (h : ((e.run before).verdict line).status ≠ .applied) :
    e.verdicts (before ++ line :: after) =
      e.verdicts before ++ (e.run before).verdict line :: (e.run before).verdicts after := by
  rw [verdicts_append, verdicts, (alike_step_of_not_applied h).verdicts_eq]

end Execution

open Execution ResultLog in
/-- An operation that is not applied keeps the registry, and so a line that is skipped or
fails can be deleted from a script.  Any line can be deleted: `shorter` is any script with
the lines of `script` except for that one.  The registry and the verdicts of all other
lines stay the same, and the results differ in the outcome of the deleted line and the
numbers behind it. -/
theorem unapplied_leaves_no_trace :
    (∀ (r : Registry α) (maxDepth : α) (op : Operation α),
      (op.apply r maxDepth).2.status ≠ .applied → (op.apply r maxDepth).1 = r) ∧
    (∀ (script : String) (before after : List String) (line : String),
      Text.splitLines script = before ++ line :: after →
      ∃ shorter, Text.splitLines shorter = before ++ after) ∧
    (∀ (i : Interpreter α) (script shorter : String) (before after : List String)
        (line : String),
      Text.splitLines script = before ++ line :: after →
      Text.splitLines shorter = before ++ after →
      let verdict := (i.start.run before).verdict line
      let earlier := i.start.verdicts before
      let later := (i.start.run before).verdicts after
      let first := earlier.filterMap Verdict.outcome?
      let rest := later.filterMap Verdict.outcome?
      verdict.status ≠ .applied →
        (i.execute shorter).interpreter.registry = (i.execute script).interpreter.registry ∧
        i.start.verdicts (Text.splitLines script) = earlier ++ verdict :: later ∧
        i.start.verdicts (Text.splitLines shorter) = earlier ++ later ∧
        (i.execute shorter).results = numbered 0 first ++ numbered first.length rest ∧
        (verdict.status = .skipped → (i.execute script).results = (i.execute shorter).results) ∧
        (verdict.status = .failed → ∃ fault, verdict.outcome? = some (.ofFault fault) ∧
          (i.execute script).results =
            numbered 0 first ++
              ((Outcome.ofFault fault).key first.length, .ofFault fault) ::
                numbered (first.length + 1) rest)) := by
  refine ⟨fun r maxDepth op h => Operation.apply_of_not_applied h, ?_, ?_⟩
  · intro script before after line hscript
    apply Text.exists_splitLines_of_sublist
    rw [hscript]
    exact (List.sublist_cons_self line after).append_left before
  intro i script shorter before after line hscript hshorter verdict earlier later first rest
    hverdict
  have hwhole : i.start.verdicts (Text.splitLines script) = earlier ++ verdict :: later := by
    rw [hscript]
    exact verdicts_around hverdict
  have hless : i.start.verdicts (Text.splitLines shorter) = earlier ++ later := by
    rw [hshorter]
    exact verdicts_append _ _ _
  have hresults : (i.execute shorter).results =
      numbered 0 first ++ numbered first.length rest := by
    rw [Interpreter.results_execute, hless, List.filterMap_append, numbered_append,
      Nat.zero_add]
  refine ⟨?_, hwhole, hless, hresults, ?_, ?_⟩
  · have halike : Alike (i.start.run (before ++ line :: after))
        (i.start.run (before ++ after)) := alike_run_without hverdict
    rw [← hscript, ← hshorter] at halike
    exact halike.1.symm
  · intro hskipped
    have hnone : verdict.outcome? = none := Verdict.outcome?_of_skipped hskipped
    rw [hresults, Interpreter.results_execute, hwhole, List.filterMap_append,
      List.filterMap_cons_none hnone, numbered_append, Nat.zero_add]
  · intro hfailed
    obtain ⟨fault, hsome⟩ := Verdict.outcome?_of_failed hfailed
    refine ⟨fault, hsome, ?_⟩
    rw [Interpreter.results_execute, hwhole, List.filterMap_append,
      List.filterMap_cons_some hsome, numbered_append, Nat.zero_add, numbered]

/-- The line in the middle asks for a phase that does not exist, so it fails. -/
theorem unapplied_leaves_no_trace_unknown_phase :
    let i : Interpreter Float := .new
    let script := "a = 10\n∂phase(a, vapour)\nb = 20"
    let shorter := "a = 10\nb = 20"
    Text.splitLines script = ["a = 10"] ++ "∂phase(a, vapour)" :: ["b = 20"] ∧
      Text.splitLines shorter = ["a = 10"] ++ ["b = 20"] ∧
      ((i.start.run ["a = 10"]).verdict "∂phase(a, vapour)").status = .failed ∧
      (i.execute shorter).interpreter.registry = (i.execute script).interpreter.registry := by
  intro i script shorter
  have hscript : Text.splitLines script = ["a = 10"] ++ "∂phase(a, vapour)" :: ["b = 20"] := by
    decide +kernel
  have hshorter : Text.splitLines shorter = ["a = 10"] ++ ["b = 20"] := by
    decide +kernel
  have hfailed : ((i.start.run ["a = 10"]).verdict "∂phase(a, vapour)").status = .failed := by
    decide +kernel
  have hnot : ((i.start.run ["a = 10"]).verdict "∂phase(a, vapour)").status ≠ .applied := by
    rw [hfailed]
    decide
  exact ⟨hscript, hshorter, hfailed,
    (unapplied_leaves_no_trace.2.2 i script shorter _ _ _ hscript hshorter hnot).1⟩

end FieldCalculus
