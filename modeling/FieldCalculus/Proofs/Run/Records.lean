import FieldCalculus.Proofs.Run.Atomicity
import FieldCalculus.Proofs.Run.Errors
import FieldCalculus.Proofs.Run.Keys
/-!
# The records of a run

Every line makes one record in the journal, whatever becomes of it.  The records of a
script and its result log tell the same story: a record that is not skipped carries the
key of the entry that its line added to the log, and a failed one repeats its error text.
-/

namespace FieldCalculus

variable {α : Type} [Scalar α]

/-- Why a line with this verdict was skipped or failed. -/
def Verdict.reason? : Verdict α → Option String
  | applied _ => none
  | skipped reason => some reason.reason
  | failed fault => some fault.message

theorem Verdict.reason?_ne_empty (v : Verdict α) : v.reason? ≠ some "" := by
  cases v with
  | applied outcome => exact nofun
  | skipped reason => exact fun h => reason.reason_ne_empty (Option.some.inj h)
  | failed fault => exact fun h => fault.message_ne_empty (Option.some.inj h)

/-- The journal with one entry more. -/
def Journal.keep (j : Journal α) (entry : JournalEntry) : Journal α where
  capacity := j.capacity
  entries := Journal.retain j.capacity (j.entries ++ [entry])
  nextSeq := j.nextSeq + 1

theorem Journal.record_eq_keep (j : Journal α) (line : String) (status : Status)
    (key reason : Option String) :
    (j.record line status key reason).2 = j.keep (j.record line status key reason).1 :=
  rfl

namespace Execution

/-- The record that a line makes as the execution stands: its entry and the journal after. -/
def record (e : Execution α) (line : String) : JournalEntry × Journal α :=
  e.interpreter.journal.record line (e.verdict line).status
    ((e.verdict line).outcome?.map e.nextKey) (e.verdict line).reason?

/-- The entries that some lines make one after the other. -/
def records (e : Execution α) : List String → List JournalEntry
  | [] => []
  | line :: rest => (e.record line).1 :: records (e.step line) rest

theorem step_journal (e : Execution α) (line : String) :
    (e.step line).interpreter.journal = (e.record line).2 := by
  unfold step record verdict effect
  rcases (recognize line).apply e.interpreter.registry e.interpreter.maxFractalDepth with
    ⟨after, outcome | reason | fault⟩ <;> rfl

theorem run_journal (e : Execution α) (lines : List String) :
    (e.run lines).interpreter.journal =
      (e.records lines).foldl Journal.keep e.interpreter.journal := by
  induction lines generalizing e with
  | nil => rfl
  | cons line rest ih =>
      have hrest := ih (e.step line)
      rw [step_journal, record, Journal.record_eq_keep] at hrest
      exact hrest

/-- Neither keys nor reasons are ever empty, so a record keeps what it is given. -/
theorem record_entry (e : Execution α) (line : String) :
    (e.record line).1 =
      { seq := e.interpreter.journal.nextSeq
        line := line
        status := (e.verdict line).status
        key := (e.verdict line).outcome?.map e.nextKey
        reason := (e.verdict line).reason? } := by
  have hkey : ((e.verdict line).outcome?.map e.nextKey).filter (· ≠ "") =
      (e.verdict line).outcome?.map e.nextKey := by
    cases (e.verdict line).outcome? with
    | none => rfl
    | some outcome => simp [nextKey, Outcome.key_ne_empty]
  have hreason : (e.verdict line).reason?.filter (· ≠ "") = (e.verdict line).reason? := by
    have hne := (e.verdict line).reason?_ne_empty
    cases hr : (e.verdict line).reason? with
    | none => rfl
    | some reason =>
        have hreason : reason ≠ "" := fun h => hne (hr.trans (congrArg some h))
        simp [hreason]
  rw [record, Journal.record, hkey, hreason]

theorem map_line_records (e : Execution α) (lines : List String) :
    (e.records lines).map JournalEntry.line = lines := by
  induction lines generalizing e with
  | nil => rfl
  | cons line rest ih => rw [records, List.map_cons, record_entry, ih]

theorem map_seq_records (e : Execution α) (lines : List String) :
    (e.records lines).map JournalEntry.seq =
      List.range' e.interpreter.journal.nextSeq lines.length := by
  induction lines generalizing e with
  | nil => rfl
  | cons line rest ih =>
      have hnext : (e.step line).interpreter.journal.nextSeq =
          e.interpreter.journal.nextSeq + 1 := by
        rw [step_journal]
        rfl
      rw [records, List.map_cons, record_entry, ih, hnext, List.length_cons, List.range'_succ]

/-- A line that is skipped adds nothing to the log and its record carries no key. -/
theorem record_of_skipped {e : Execution α} {line : String}
    (h : (e.record line).1.status = .skipped) :
    (e.verdict line).outcome? = none ∧ (e.record line).1.key = none ∧
      (e.record line).1.reason.isSome := by
  rw [record_entry] at h ⊢
  cases hv : e.verdict line with
  | applied outcome => rw [hv] at h; cases h
  | skipped reason => exact ⟨rfl, rfl, rfl⟩
  | failed fault => rw [hv] at h; cases h

end Execution

/-- A record and an entry of the result log that tell of the same line. -/
structure JournalEntry.Tells (entry : JournalEntry) (result : String × Outcome α) : Prop where
  key : entry.key = some result.1
  failed : entry.status = .failed ↔
    result.2.typeName = "conservation_violation" ∨ result.2.typeName = "execution_error"
  reason : entry.reason = result.2.error?

namespace Execution

theorem record_tells {e : Execution α} {line : String}
    (h : (e.record line).1.status ≠ .skipped) :
    ∃ outcome, (e.verdict line).outcome? = some outcome ∧
      (e.record line).1.Tells (e.nextKey outcome, outcome) := by
  rw [record_entry] at h ⊢
  cases hv : e.verdict line with
  | applied outcome =>
      have hnone : outcome.error? = none := Operation.error?_of_applied hv
      refine ⟨outcome, rfl, rfl, ?_, hnone.symm⟩
      rw [← Outcome.isSome_error?_iff, hnone]
      exact ⟨nofun, nofun⟩
  | skipped reason => rw [hv] at h; exact absurd rfl h
  | failed fault =>
      have hsome := Outcome.error?_ofFault fault
      refine ⟨.ofFault fault, rfl, rfl, ?_, hsome.symm⟩
      rw [← Outcome.isSome_error?_iff, hsome]
      exact ⟨fun _ => rfl, fun _ => rfl⟩

/-- The records that are not skipped and the entries that the lines add to the log, both
in the order of the lines. -/
theorem records_tell (e : Execution α) (lines : List String) :
    List.Forall₂ JournalEntry.Tells
      ((e.records lines).filter (·.status ≠ .skipped))
      (ResultLog.numbered e.results.length
        ((e.verdicts lines).filterMap Verdict.outcome?)) := by
  induction lines generalizing e with
  | nil => exact .nil
  | cons line rest ih =>
      have hrest := ih (e.step line)
      rw [records, verdicts, List.filter_cons]
      by_cases hskip : (e.record line).1.status = .skipped
      · -- the log does not grow, so the next key keeps its number
        have hnone := (record_of_skipped hskip).1
        rw [length_results_step, hnone] at hrest
        rw [if_neg (by simp [hskip]), List.filterMap_cons_none hnone]
        exact hrest
      · obtain ⟨outcome, hsome, htells⟩ := record_tells hskip
        rw [length_results_step, hsome] at hrest
        rw [if_pos (by simp [hskip]), List.filterMap_cons_some hsome]
        exact .cons htells hrest

theorem records_of_skipped (e : Execution α) (lines : List String) :
    ∀ entry ∈ e.records lines, entry.status = .skipped →
      entry.key = none ∧ entry.reason.isSome := by
  induction lines generalizing e with
  | nil => exact nofun
  | cons line rest ih =>
      intro entry hmem hskip
      rcases List.mem_cons.mp hmem with rfl | hrest
      · exact (record_of_skipped hskip).2
      · exact ih (e.step line) entry hrest hskip

end Execution

open Execution in
/-- Every line of a script makes one record, with the line and the next number, and the
journal keeps what its capacity allows.  The results have one entry for each record that is
not skipped, in the order of the lines and numbered from zero; a key begins with the word of
its outcome's type.  The keys are distinct, so a map that stores them one after the other keeps
them all. -/
theorem execute_logs_agree (i : Interpreter α) (script : String) :
    let lines := Text.splitLines script
    let records := i.start.records lines
    let results := (i.execute script).results
    (i.execute script).interpreter.journal = records.foldl Journal.keep i.journal ∧
    records.map JournalEntry.line = lines ∧
    records.map JournalEntry.seq = List.range' i.journal.nextSeq lines.length ∧
    List.Forall₂ JournalEntry.Tells (records.filter (·.status ≠ .skipped)) results ∧
    (∀ entry ∈ records, entry.status = .skipped →
      entry.key = none ∧ entry.reason.isSome) ∧
    results = (results.map Prod.snd).mapIdx (fun number outcome =>
      (outcome.keyWord ++ "_" ++ toString number, outcome)) ∧
    (∀ result ∈ results,
      Outcome.keyWords.lookup result.2.typeName = some result.2.keyWord) ∧
    (results.map Prod.fst).Nodup ∧
    KeyOrder.distinct Prod.fst results = results := by
  intro lines records results
  have hresults : results =
      ResultLog.numbered 0 ((i.start.verdicts lines).filterMap Verdict.outcome?) :=
    i.results_execute script
  have hnodup : (results.map Prod.fst).Nodup := by
    rw [hresults]
    exact ResultLog.nodup_keys_numbered 0 _
  refine ⟨run_journal i.start lines, map_line_records i.start lines,
    map_seq_records i.start lines, ?_, records_of_skipped i.start lines, ?_,
    fun result _ => result.2.lookup_keyWords, hnodup, KeyOrder.distinct_of_nodup hnodup⟩
  · rw [hresults]
    exact records_tell i.start lines
  · rw [hresults, ResultLog.map_snd_numbered, ResultLog.numbered_eq_mapIdx]
    simp only [Nat.zero_add, Outcome.key]

example :
    ((Interpreter.new : Interpreter Float).execute
        "a = 10\n∂decay(b)\n∂phase(a, vapour)").interpreter.journal.entries.map
      (fun entry => (entry.status, entry.key)) =
    [(.applied, some "creation_0"), (.skipped, none), (.failed, some "error_1")] := by
  decide +kernel

end FieldCalculus
