import FieldCalculus.Proofs.Run.Records
import Mathlib.Data.List.Forall2
/-!
# Scripts one after the other

Two scripts on lines of their own run as one script does.  Only the numbers in the keys
tell the difference: they count the outcomes of a script from zero, so in the one script
the outcomes of the first move the later numbers up.
-/

namespace FieldCalculus

variable {α : Type} [Scalar α]

namespace Journal

/-- How many of the first entries a journal drops when it holds `size` entries. -/
def excess (capacity : α) (size : Nat) : Nat :=
  if capacity < (size : α) then
    min size ((Scalar.units? ((size : α) - capacity)).getD size)
  else 0

theorem excess_le (capacity : α) (size : Nat) : excess capacity size ≤ size := by
  unfold excess
  split <;> omega

theorem retain_eq_drop (capacity : α) (entries : List JournalEntry) :
    retain capacity entries = entries.drop (excess capacity entries.length) := by
  unfold retain excess
  dsimp only
  split
  · cases Scalar.units? ((entries.length : α) - capacity) with
    | none => simp
    | some units =>
        rcases Nat.le_total entries.length units with h | h
        · simp [Nat.min_eq_left h, List.drop_eq_nil_of_le h]
        · simp [Nat.min_eq_right h]
  · rfl

/-- How many of the first entries are gone once a journal of `size` entries has kept some
more.  It does not depend on what the entries are. -/
def dropped (capacity : α) (size : Nat) : Nat → Nat
  | 0 => 0
  | more + 1 =>
    excess capacity (size + 1) +
      dropped capacity (size + 1 - excess capacity (size + 1)) more

theorem foldl_keep_eq (j : Journal α) (added : List JournalEntry) :
    added.foldl keep j =
      { capacity := j.capacity
        entries := (j.entries ++ added).drop
          (dropped j.capacity j.entries.length added.length)
        nextSeq := j.nextSeq + added.length } := by
  induction added generalizing j with
  | nil => rw [List.append_nil]; rfl
  | cons entry rest ih =>
      have hentries : (j.keep entry).entries =
          (j.entries ++ [entry]).drop (excess j.capacity (j.entries.length + 1)) := by
        rw [keep, retain_eq_drop, List.length_append, List.length_singleton]
      have hle : excess j.capacity (j.entries.length + 1) ≤ (j.entries ++ [entry]).length := by
        rw [List.length_append, List.length_singleton]
        exact excess_le _ _
      have hnext : (j.keep entry).nextSeq + rest.length =
          j.nextSeq + (entry :: rest).length := by
        simp only [keep, List.length_cons]
        omega
      -- the first drop stays within what is there by then, so the drops add up
      have hrest := ih (j.keep entry)
      rw [hnext, hentries, ← List.drop_append_of_le_length hle, List.drop_drop,
        List.append_assoc, List.length_drop, List.length_append] at hrest
      exact hrest

end Journal

/-- Two entries that differ only in their keys: the number of the second is higher by
`shift`. -/
structure JournalEntry.Renumbered (shift : Nat) (entry other : JournalEntry) : Prop where
  seq : other.seq = entry.seq
  line : other.line = entry.line
  status : other.status = entry.status
  reason : other.reason = entry.reason
  key : (entry.key = none ∧ other.key = none) ∨
    ∃ word number, entry.key = some (word ++ "_" ++ toString number) ∧
      other.key = some (word ++ "_" ++ toString (shift + number))

namespace Execution

/-- Two executions that agree except that the second has `shift` more outcomes. -/
structure Shifted (shift : Nat) (e e' : Execution α) : Prop where
  alike : Alike e e'
  nextSeq : e'.interpreter.journal.nextSeq = e.interpreter.journal.nextSeq
  length : e'.results.length = shift + e.results.length

namespace Shifted

variable {shift : Nat} {e e' : Execution α}

theorem record (h : Shifted shift e e') (line : String) :
    (e.record line).1.Renumbered shift (e'.record line).1 := by
  have hverdict : e'.verdict line = e.verdict line := (h.alike.verdict_eq line).symm
  rw [record_entry, record_entry, hverdict]
  refine ⟨h.nextSeq, rfl, rfl, rfl, ?_⟩
  cases (e.verdict line).outcome? with
  | none => exact .inl ⟨rfl, rfl⟩
  | some outcome =>
      refine .inr ⟨outcome.keyWord, e.results.length, rfl, ?_⟩
      rw [← h.length]
      rfl

theorem step (h : Shifted shift e e') (line : String) :
    Shifted shift (e.step line) (e'.step line) where
  alike := h.alike.step line
  nextSeq := by
    rw [step_journal, step_journal]
    exact congrArg (· + 1) h.nextSeq
  length := by
    rw [length_results_step, length_results_step, ← h.alike.verdict_eq line, h.length,
      Nat.add_assoc]

theorem records (h : Shifted shift e e') (lines : List String) :
    List.Forall₂ (JournalEntry.Renumbered shift) (e.records lines) (e'.records lines) := by
  induction lines generalizing e e' with
  | nil => exact .nil
  | cons line rest ih => exact .cons (h.record line) (ih (h.step line))

end Shifted

omit [Scalar α] in
/-- A script that goes on and a script that begins on the same interpreter. -/
theorem shifted_start (e : Execution α) : Shifted e.results.length e.interpreter.start e :=
  ⟨⟨rfl, rfl⟩, rfl, rfl⟩

end Execution

theorem Interpreter.execute_append (i : Interpreter α) (s t : String) :
    i.execute (s ++ "\n" ++ t) = (i.execute s).run (Text.splitLines t) := by
  have hrun : i.execute (s ++ "\n" ++ t) =
      i.start.run (Text.splitLines s ++ Text.splitLines t) := by
    rw [← Text.splitLines_append]
    rfl
  rw [hrun, Execution.run_append]
  rfl

open Execution in
/-- Two scripts joined by a line end leave the registry that they leave one after the
other.  The journals differ only in the keys of the records of the second script: both
drop the same number of entries, and the keys that are renumbered go with lines, numbers,
statuses and reasons that are not.  The results of the second script follow those of the
first, every key with its word and with a number that counts on. -/
theorem execute_append_renumbers (i : Interpreter α) (s t : String) :
    let first := i.execute s
    let second := first.interpreter.execute t
    let whole := i.execute (s ++ "\n" ++ t)
    let shift := first.results.length
    let records := first.interpreter.start.records (Text.splitLines t)
    whole.interpreter.registry = second.interpreter.registry ∧
    (∃ renumbered dropped,
      List.Forall₂ (JournalEntry.Renumbered shift) records renumbered ∧
      second.interpreter.journal.entries =
        (first.interpreter.journal.entries ++ records).drop dropped ∧
      whole.interpreter.journal =
        { second.interpreter.journal with
          entries := (first.interpreter.journal.entries ++ renumbered).drop dropped }) ∧
    second.results = (second.results.map Prod.snd).mapIdx (fun number outcome =>
      (outcome.key number, outcome)) ∧
    whole.results = first.results ++
      (second.results.map Prod.snd).mapIdx (fun number outcome =>
        (outcome.key (shift + number), outcome)) := by
  intro first second whole shift records
  have hwhole : whole = first.run (Text.splitLines t) := i.execute_append s t
  have hshifted : Shifted shift first.interpreter.start first := shifted_start first
  have hverdicts := hshifted.alike.verdicts_eq (Text.splitLines t)
  have hsecond : second.results = ResultLog.numbered 0 _ :=
    first.interpreter.results_execute t
  refine ⟨?_, ?_, ?_, ?_⟩
  · rw [hwhole]
    exact (hshifted.alike.run (Text.splitLines t)).1.symm
  · have hrenumbered := hshifted.records (Text.splitLines t)
    have htwo : second.interpreter.journal =
        records.foldl Journal.keep first.interpreter.journal :=
      run_journal first.interpreter.start (Text.splitLines t)
    have hone : whole.interpreter.journal =
        (first.records (Text.splitLines t)).foldl Journal.keep first.interpreter.journal := by
      rw [hwhole, run_journal]
    rw [Journal.foldl_keep_eq] at htwo hone
    rw [← hrenumbered.length_eq] at hone
    exact ⟨_, _, hrenumbered, congrArg Journal.entries htwo, by rw [hone, htwo]⟩
  · rw [hsecond, ResultLog.map_snd_numbered, ResultLog.numbered_eq_mapIdx]
    simp only [Nat.zero_add]
  · rw [hwhole, run_results, hsecond, ResultLog.map_snd_numbered, hverdicts,
      ResultLog.numbered_eq_mapIdx]

end FieldCalculus
