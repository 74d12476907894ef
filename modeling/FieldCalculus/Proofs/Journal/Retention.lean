import FieldCalculus.Proofs.Exact
import FieldCalculus.Proofs.Binary64.WholeNumbers
import FieldCalculus.Proofs.Run.Concatenation
/-!
# The window of a journal

A journal whose capacity is a natural number keeps that many of the latest entries.  It
appends before it cuts, so it is at most one entry over when it drops, and then it drops one.
-/

namespace FieldCalculus.Journal

variable {α : Type} [Scalar α]

/-- A call that records a line. -/
structure Call where
  line : String
  status : Status
  key : Option String
  reason : Option String

/-- The entry that a call makes with this number. -/
def Call.entry (call : Call) (seq : ℕ) : JournalEntry where
  seq := seq
  line := call.line
  status := call.status
  key := call.key.filter (· ≠ "")
  reason := call.reason.filter (· ≠ "")

/-- The entries that some calls make, numbered from zero. -/
def Call.entries (calls : List Call) : List JournalEntry :=
  calls.mapIdx fun seq call => call.entry seq

/-- Records lines one after the other: the entries that the calls return and the journal at
the end. -/
def recordAll (j : Journal α) : List Call → List JournalEntry × Journal α
  | [] => ([], j)
  | call :: rest =>
    let (entry, next) := j.record call.line call.status call.key call.reason
    let (entries, last) := recordAll next rest
    (entry :: entries, last)

theorem recordAll_returned (j : Journal α) (calls : List Call) :
    (j.recordAll calls).1 = calls.mapIdx fun number call => call.entry (j.nextSeq + number) := by
  induction calls generalizing j with
  | nil => rfl
  | cons call rest ih =>
      have hrest := ih (j.record call.line call.status call.key call.reason).2
      have hnext : ∀ number, j.nextSeq + 1 + number = j.nextSeq + (number + 1) := by omega
      simp only [record, hnext] at hrest
      rw [List.mapIdx_cons]
      exact congrArg (List.cons _) hrest

theorem recordAll_kept (j : Journal α) (calls : List Call) :
    (j.recordAll calls).2 = (j.recordAll calls).1.foldl keep j := by
  induction calls generalizing j with
  | nil => rfl
  | cons call rest ih => exact ih (j.record call.line call.status call.key call.reason).2

/-- The capacity is the natural number `c` to the comparison with a length of at most `bound`,
and one entry more than `c` is one too many. -/
structure Reads (capacity : α) (c bound : ℕ) : Prop where
  lt_iff : ∀ size ≤ bound, capacity < (size : α) ↔ c < size
  one_over : c < bound → Scalar.units? (((c + 1 : ℕ) : α) - capacity) = some 1

namespace Reads

variable {capacity : α} {c bound : ℕ}

theorem excess_eq (h : Reads capacity c bound) {size : ℕ} (hsize : size ≤ c)
    (hbound : size + 1 ≤ bound) : excess capacity (size + 1) = size + 1 - c := by
  unfold excess
  split
  · next hover =>
    have hlt : c < size + 1 := (h.lt_iff _ hbound).mp hover
    obtain rfl : size = c := by omega
    rw [h.one_over hbound, Option.getD_some]
    omega
  · next hroom =>
    have hle : ¬ c < size + 1 := mt (h.lt_iff _ hbound).mpr hroom
    omega

theorem dropped_eq (h : Reads capacity c bound) {size more : ℕ} (hsize : size ≤ c)
    (hbound : min (size + more) (c + 1) ≤ bound) :
    dropped capacity size more = size + more - c := by
  induction more generalizing size with
  | zero =>
      rw [dropped]
      omega
  | succ more ih =>
      rw [dropped, h.excess_eq hsize (by omega), ih (by omega) (by omega)]
      omega

end Reads

/-- What some calls on a new journal with `c` places return and leave behind. -/
structure KeepsLatest (capacity : α) (c : ℕ) (calls : List Call) : Prop where
  /-- A call returns an entry with the number of the calls before it. -/
  returned : ((empty capacity).recordAll calls).1 = Call.entries calls
  /-- The latest entries are kept, in their order. -/
  entries : ((empty capacity).recordAll calls).2.entries =
    (Call.entries calls).drop (calls.length - min calls.length c)
  seqs : ((empty capacity).recordAll calls).2.entries.map JournalEntry.seq =
    List.range' (calls.length - min calls.length c) (min calls.length c)
  /-- There are never more entries than places. -/
  size_le : ∀ before, before <+: calls → ((empty capacity).recordAll before).2.size ≤ c
  failures : ((empty capacity).recordAll calls).2.failures =
    ((Call.entries calls).drop (calls.length - min calls.length c)).filter (·.status = .failed)

namespace Reads

variable {capacity : α} {c : ℕ} {calls : List Call}

theorem mono {bound bound' : ℕ} (h : Reads capacity c bound) (hle : bound' ≤ bound) :
    Reads capacity c bound' :=
  ⟨fun size hsize => h.lt_iff size (hsize.trans hle), fun hc => h.one_over (hc.trans_le hle)⟩

theorem entries_eq (h : Reads capacity c (min calls.length (c + 1))) :
    ((empty capacity).recordAll calls).2.entries =
      (Call.entries calls).drop (calls.length - min calls.length c) := by
  have hdropped : dropped capacity 0 calls.length = calls.length - min calls.length c := by
    rw [h.dropped_eq (Nat.zero_le c) (by omega)]
    omega
  rw [recordAll_kept, recordAll_returned, foldl_keep_eq]
  simp only [empty, Call.entries, List.nil_append, List.length_nil, List.length_mapIdx,
    Nat.zero_add, hdropped]

theorem keepsLatest (h : Reads capacity c (min calls.length (c + 1))) :
    KeepsLatest capacity c calls where
  returned := by
    rw [recordAll_returned]
    simp only [empty, Call.entries, Nat.zero_add]
  entries := h.entries_eq
  seqs := by
    have hseqs : (Call.entries calls).map JournalEntry.seq = List.range calls.length :=
      List.ext_getElem (by simp [Call.entries]) (by simp [Call.entries, Call.entry])
    rw [h.entries_eq, List.map_drop, hseqs, List.range_eq_range', List.drop_range']
    congr 1 <;> omega
  size_le := by
    intro before hprefix
    have hlength := hprefix.length_le
    have hbefore : Reads capacity c (min before.length (c + 1)) := h.mono (by omega)
    rw [size, hbefore.entries_eq, List.length_drop, Call.entries, List.length_mapIdx]
    omega
  failures := by rw [Journal.failures, h.entries_eq]

end Reads

theorem reads_natCast {α : Type} [ExactScalar α] (c bound : ℕ) : Reads (c : α) c bound where
  lt_iff size _ := Nat.cast_lt
  one_over _ := by
    have hdiff : ((c + 1 : ℕ) : α) - c = (1 : ℕ) := by
      push_cast
      ring
    rw [hdiff, ExactScalar.units?_natCast]

open Binary64 in
theorem reads_of_hasValue {capacity : Float} {c : ℕ} (h : HasValue capacity c) {bound : ℕ}
    (hbound : bound ≤ 2 ^ 53) : Reads capacity c bound where
  lt_iff size hsize := by
    rw [h.lt_iff (hasValue_natCast (hsize.trans hbound)), Nat.cast_lt]
  one_over hc := by
    have hdiff : ((c + 1 : ℕ) : ℚ) - c = (1 : ℕ) := by
      push_cast
      ring
    have hsmall : |((c + 1 : ℕ) : ℚ) - c| ≤ 2 ^ (1000 : ℤ) := by
      rw [hdiff]
      exact abs_natCast_le_pow (by norm_num)
    have hnext : c + 1 ≤ 2 ^ 53 := (Nat.succ_le_of_lt hc).trans hbound
    obtain ⟨q, hq, hrounds⟩ := (hasValue_natCast hnext).sub h hsmall
    rw [hdiff] at hrounds
    rw [hrounds.eq_natCast (by norm_num)] at hq
    change units? _ = _
    rw [hq.units?_eq, Nat.floor_natCast]

open Binary64 in
/-- A new journal whose capacity is a natural number keeps exactly the latest entries, as many
as it has places, whatever is recorded.  In binary64 the number of entries is exact up to
`2 ^ 53`, so there the window is at most that long or has not been filled yet. -/
theorem journal_keeps_latest :
    (∀ (α : Type) [ExactScalar α] (c : ℕ) (calls : List Call), KeepsLatest (c : α) c calls) ∧
    ∀ (capacity : Float) (c : ℕ) (calls : List Call), HasValue capacity c →
      min calls.length (c + 1) ≤ 2 ^ 53 → KeepsLatest capacity c calls :=
  ⟨fun _ _ c _ => (reads_natCast c _).keepsLatest,
    fun _ _ _ hcapacity hbound => (reads_of_hasValue hcapacity hbound).keepsLatest⟩

/-- Three calls on a journal with two places and on one without any. -/
theorem journal_keeps_latest_two_and_none :
    let calls : List Call :=
      [⟨"a = 1", .applied, some "creation_0", none⟩, ⟨"∂decay(b)", .skipped, none, some "absent"⟩,
        ⟨"∂phase(a, gas)", .failed, some "error_1", some "unknown"⟩]
    let second : JournalEntry := ⟨1, "∂decay(b)", .skipped, none, some "absent"⟩
    let third : JournalEntry := ⟨2, "∂phase(a, gas)", .failed, some "error_1", some "unknown"⟩
    let two : Float := (2 : ℕ)
    let zero : Float := (0 : ℕ)
    KeepsLatest two 2 calls ∧ KeepsLatest zero 0 calls ∧
      ((empty two).recordAll calls).2.entries = [second, third] ∧
      ((empty two).recordAll calls).2.failures = [third] ∧
      ((empty zero).recordAll calls).2.entries = [] := by
  intro calls second third two zero
  have htwo := journal_keeps_latest.2 two 2 calls (Binary64.hasValue_natCast (by norm_num))
    (by decide)
  have hzero := journal_keeps_latest.2 zero 0 calls (Binary64.hasValue_natCast (by norm_num))
    (by decide)
  refine ⟨htwo, hzero, ?_, ?_, ?_⟩
  · rw [htwo.entries]
    rfl
  · rw [htwo.failures]
    rfl
  · rw [hzero.entries]
    rfl

end FieldCalculus.Journal
