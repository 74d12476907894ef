import FieldCalculus.Proofs.Binary64.WholeNumbers
import FieldCalculus.Proofs.Run.Concatenation
import FieldCalculus.Scenario.Basic
/-!
# Scenarios as single scripts

A scenario runs its scripts one after the other, each with a result log of its own.  One script
that has all of them on lines of their own ends in the same registry, gives the same outcomes and
makes the same records, except that the keys of a log count from zero in each script.
-/

namespace FieldCalculus

/-- A record without its key. -/
def JournalEntry.unkeyed (entry : JournalEntry) : JournalEntry := { entry with key := none }

variable {α : Type} [Scalar α]

/-- A journal without the keys of its records. -/
def Journal.unkeyed (j : Journal α) : Journal α :=
  { j with entries := j.entries.map JournalEntry.unkeyed }

omit [Scalar α] in
@[simp] theorem Journal.nextSeq_unkeyed (j : Journal α) : j.unkeyed.nextSeq = j.nextSeq := rfl

/-- What a journal drops depends on the number of its records alone. -/
theorem Journal.unkeyed_keep (j : Journal α) (entry : JournalEntry) :
    (j.keep entry).unkeyed = j.unkeyed.keep entry.unkeyed := by
  simp only [keep, unkeyed, retain_eq_drop, List.map_drop, List.map_append, List.map_singleton,
    List.length_append, List.length_map, List.length_singleton]

namespace Execution

/-- Two executions that stand at the same fields and the same records but for the keys, which
count the results that each of them has. -/
structure Agree (e e' : Execution α) : Prop where
  alike : Alike e e'
  journal : e.interpreter.journal.unkeyed = e'.interpreter.journal.unkeyed

namespace Agree

variable {e e' : Execution α}

theorem step (h : Agree e e') (line : String) : Agree (e.step line) (e'.step line) where
  alike := h.alike.step line
  journal := by
    have hseq := congrArg Journal.nextSeq h.journal
    rw [Journal.nextSeq_unkeyed, Journal.nextSeq_unkeyed] at hseq
    have hentry : (e.record line).1.unkeyed = (e'.record line).1.unkeyed := by
      rw [record_entry, record_entry, h.alike.verdict_eq line, hseq]
      rfl
    have hkeep : ∀ e : Execution α,
        (e.step line).interpreter.journal = e.interpreter.journal.keep (e.record line).1 :=
      fun e => step_journal e line
    rw [hkeep, hkeep, Journal.unkeyed_keep, Journal.unkeyed_keep, h.journal, hentry]

theorem run (h : Agree e e') (lines : List String) : Agree (e.run lines) (e'.run lines) := by
  induction lines generalizing e e' with
  | nil => exact h
  | cons line rest ih => exact ih (h.step line)

end Agree

theorem outcomes_run (e : Execution α) (lines : List String) :
    (e.run lines).results.map Prod.snd =
      e.results.map Prod.snd ++ (e.verdicts lines).filterMap Verdict.outcome? := by
  rw [run_results, List.map_append, ResultLog.map_snd_numbered]

end Execution

namespace Scenario

/-! ## The three loops as one -/

/-- The scripts of a scenario in the order in which they run. -/
def scripts (s : Scenario α) : List String :=
  let round := s.steps.flatMap fun step => List.replicate (rounds step.times) step.script
  (List.replicate (rounds s.cycles) round).flatten

/-- A loop that does not look at its counter runs over copies of what it uses. -/
theorem foldl_range_eq_foldl_replicate {σ β : Type} (f : σ → β → σ) (x : β) (n : ℕ) (start : σ) :
    (List.range n).foldl (fun done _ => f done x) start = (List.replicate n x).foldl f start := by
  have hcopies : List.replicate n x = (List.range n).map fun _ => x := by simp
  rw [hcopies, List.foldl_map]

/-- The loops over the cycles, the steps and the repeats of a step run the scripts in order. -/
theorem run_eq_foldl (s : Scenario α) (options : Options α) :
    s.run options =
      let done := s.scripts.foldl ScenarioRun.advance ⟨s.seeded options, [], [.log s.opening]⟩
      { done with messages := done.messages ++ [.log (s.closing done)] } := by
  have hcycle (start : ScenarioRun α) :
      (s.steps.flatMap fun step => List.replicate (rounds step.times) step.script).foldl
          ScenarioRun.advance start =
        s.steps.foldl (fun run step => (List.range (rounds step.times)).foldl
          (fun run _ => run.advance step.script) run) start := by
    simp only [List.foldl_flatMap, foldl_range_eq_foldl_replicate]
  rw [scripts, List.foldl_flatten, ← foldl_range_eq_foldl_replicate
    fun (run : ScenarioRun α) (round : List String) => round.foldl ScenarioRun.advance run]
  simp only [hcycle, run, List.forIn_pure_yield_eq_foldl, pure_bind]
  rfl

/-! ## The scripts as one -/

/-- A scenario that has come as far as an execution: both stand at the same fields and records,
and the result logs of the scenario, put together, have the outcomes of the execution. -/
structure Follows (run : ScenarioRun α) (e : Execution α) : Prop where
  agree : Execution.Agree run.interpreter.start e
  outcomes : run.results.flatMap (·.map Prod.snd) = e.results.map Prod.snd

namespace Follows

variable {run : ScenarioRun α} {e : Execution α}

theorem advance (h : Follows run e) (script : String) :
    Follows (run.advance script) (e.run (Text.splitLines script)) where
  agree := by
    -- the next script starts where this one ends, only its log is empty
    obtain ⟨halike, hjournal⟩ := h.agree.run (Text.splitLines script)
    exact ⟨halike, hjournal⟩
  outcomes := by
    have hlog : (run.interpreter.execute script).results.map Prod.snd =
        (e.verdicts (Text.splitLines script)).filterMap Verdict.outcome? := by
      rw [Interpreter.results_execute, ResultLog.map_snd_numbered,
        h.agree.alike.verdicts_eq (Text.splitLines script)]
    have hresults : (run.advance script).results =
        run.results ++ [(run.interpreter.execute script).results] := rfl
    rw [hresults, List.flatMap_append, List.flatMap_singleton, h.outcomes, hlog,
      Execution.outcomes_run]

theorem foldl_advance (h : Follows run e) (scripts : List String) :
    Follows (scripts.foldl ScenarioRun.advance run) (e.run (scripts.flatMap Text.splitLines)) := by
  induction scripts generalizing run e with
  | nil => exact h
  | cons script rest ih =>
      rw [List.flatMap_cons, Execution.run_append]
      exact ih (h.advance script)

end Follows

theorem length_results_foldl_advance (run : ScenarioRun α) (scripts : List String) :
    (scripts.foldl ScenarioRun.advance run).results.length =
      run.results.length + scripts.length := by
  induction scripts generalizing run with
  | nil => rfl
  | cons script rest ih =>
      have hstep : (run.advance script).results.length = run.results.length + 1 :=
        List.length_append
      rw [List.foldl_cons, ih, hstep, List.length_cons]
      omega

/-- The one script has the lines of all scripts, from the interpreter with the seeds. -/
theorem follows_run (s : Scenario α) (options : Options α) :
    Follows (s.run options) ((s.seeded options).execute ("\n".intercalate s.scripts)) := by
  have hstart : Follows ⟨s.seeded options, [], [.log s.opening]⟩ (s.seeded options).start :=
    ⟨⟨⟨rfl, rfl⟩, rfl⟩, rfl⟩
  have hrun := hstart.foldl_advance s.scripts
  rw [← Text.splitLines_intercalate] at hrun
  rw [run_eq_foldl]
  exact ⟨hrun.agree, hrun.outcomes⟩

theorem length_results_run (s : Scenario α) (options : Options α) :
    (s.run options).results.length = s.scripts.length := by
  rw [run_eq_foldl]
  exact (length_results_foldl_advance _ s.scripts).trans (Nat.zero_add _)

open Binary64 in
/-- The count is a natural number, or is left out and then stands for one. -/
inductive Counts : Option Float → ℕ → Prop
  | given {count : Float} {n : ℕ} : HasValue count n → Counts (some count) n
  | missing : Counts none 1

theorem Counts.rounds_eq {count : Option Float} {n : ℕ} (h : Counts count n) :
    rounds count = n := by
  cases h with
  | given hvalue => exact hvalue.rounds_eq
  | missing => exact (Binary64.hasValue_one : Binary64.HasValue 1.0 ((1 : ℕ) : ℚ)).rounds_eq

end Scenario

open Scenario in
/-- A scenario is the one script that has every script of a step as often as the step is repeated,
and all of that once for each cycle.  There is one result log for each of these scripts; run as
one script from the seeds they leave the same registry, and the same records in the journal but
for the keys, and the outcomes of that script are those of the logs in order. -/
theorem scenario_runs_flattened_script (s : Scenario Float) (options : Options Float) {cycles : ℕ}
    {times : ScenarioStep Float → ℕ} (hcycles : Counts s.cycles cycles)
    (htimes : ∀ step ∈ s.steps, Counts step.times (times step)) :
    let scripts := (List.replicate cycles
      (s.steps.flatMap fun step => List.replicate (times step) step.script)).flatten
    let seeded := s.seeds.foldl
      (fun i seed => i.createField seed.name seed.energy seed.frequency seed.position)
      (Interpreter.new options)
    let run := s.run options
    let single := seeded.execute ("\n".intercalate scripts)
    run.results.length = scripts.length ∧
    run.interpreter.registry = single.interpreter.registry ∧
    run.interpreter.journal.entries.map
        (fun entry => (entry.seq, entry.line, entry.status, entry.reason)) =
      single.interpreter.journal.entries.map
        (fun entry => (entry.seq, entry.line, entry.status, entry.reason)) ∧
    run.results.flatMap (·.map Prod.snd) = single.results.map Prod.snd := by
  intro scripts seeded run single
  have hscripts : s.scripts = scripts := by
    have hround : (s.steps.flatMap fun step => List.replicate (rounds step.times) step.script) =
        s.steps.flatMap fun step => List.replicate (times step) step.script :=
      List.flatMap_congr fun step hstep => by rw [(htimes step hstep).rounds_eq]
    rw [Scenario.scripts, hround, hcycles.rounds_eq]
  have hfollows : Follows run single := by
    have hrun := s.follows_run options
    rwa [hscripts] at hrun
  refine ⟨?_, hfollows.agree.alike.1, ?_, hfollows.outcomes⟩
  · rw [← hscripts]
    exact s.length_results_run options
  · have hentries := congrArg Journal.entries hfollows.agree.journal
    have hread := congrArg
      (List.map fun entry => (entry.seq, entry.line, entry.status, entry.reason)) hentries
    simp only [Journal.unkeyed, List.map_map] at hread
    exact hread

open Scenario in
/-- Two cycles of a line that is repeated and of a script of three lines, in a journal that has
room for three records. -/
theorem scenario_runs_flattened_script_two_cycles :
    let two : Float := (2 : ℕ)
    let split := "∂phase(a, gas)\n~(a ≈ b)\nb = 1"
    let s : Scenario Float :=
      { id := "two-cycles"
        title := "Two cycles"
        seeds := [.plain "a" 100.0]
        steps := [⟨"∂decay(a)", some two⟩, .once split]
        cycles := some two }
    let options : Options Float := { Options.standard with journalCapacity := 3.0 }
    let times := fun step : ScenarioStep Float => if step.times.isSome then 2 else 1
    let flat := "∂decay(a)\n∂decay(a)\n" ++ split ++ "\n∂decay(a)\n∂decay(a)\n" ++ split
    Counts s.cycles 2 ∧ (∀ step ∈ s.steps, Counts step.times (times step)) ∧
      (s.run options).results.length = 6 ∧
      (s.run options).interpreter.registry =
        ((s.seeded options).execute flat).interpreter.registry := by
  intro two split s options times flat
  have htwo : Counts (some two) 2 := .given (Binary64.hasValue_natCast (by norm_num))
  have htimes : ∀ step ∈ s.steps, Counts step.times (times step) := by
    intro step hstep
    rcases List.mem_pair.mp hstep with rfl | rfl
    · exact htwo
    · exact .missing
  have hscript : "\n".intercalate (List.replicate 2
      (s.steps.flatMap fun step => List.replicate (times step) step.script)).flatten = flat := by
    decide +kernel
  obtain ⟨hlength, hregistry, _⟩ := scenario_runs_flattened_script s options htwo htimes
  rw [hscript] at hregistry
  -- a script that is not known cannot be run to compare the registries
  clear_value flat
  exact ⟨htwo, htimes, hlength, hregistry⟩

end FieldCalculus
