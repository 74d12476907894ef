import FieldCalculus.Proofs.Operation.Reports
/-!
# The order of a record

Which keys write an array index, and in which order a record lists entries with keys of their
own: the indexed ones ascending, then the others as they were given, and none is lost.
-/

namespace FieldCalculus.KeyOrder

/-! ## Array indices -/

theorem ofDigits_toDigits (n : ℕ) : Numeral.ofDigits (Nat.toDigits 10 n) = n := by
  change Nat.ofDigitChars 10 (Nat.toDigits 10 n) 0 = n
  exact Nat.ofDigitChars_ten_toDigits

theorem toList_toString (n : ℕ) : (toString n).toList = Nat.toDigits 10 n := by
  rw [Nat.toString_eq_ofList_toDigits, String.toList_ofList]

/-- A key writes an array index if it is the notation of a small enough number. -/
theorem index?_eq_some_iff {key : String} {n : ℕ} :
    index? key = some n ↔ key = toString n ∧ n ≤ maxIndex := by
  simp only [index?, Option.ite_none_right_eq_some, Option.some.injEq, Bool.and_eq_true,
    decide_eq_true_eq]
  constructor
  · rintro ⟨⟨⟨-, hdigits⟩, hmax⟩, rfl⟩
    refine ⟨?_, hmax⟩
    rw [← String.toList_inj, toList_toString, hdigits]
  · rintro ⟨rfl, hmax⟩
    have hall : (Nat.toDigits 10 n).all Char.isDigit = true :=
      List.all_eq_true.mpr fun _ hc => Nat.isDigit_of_mem_toDigits (by decide) (by decide) hc
    rw [toList_toString, ofDigits_toDigits]
    exact ⟨⟨⟨hall, rfl⟩, hmax⟩, rfl⟩

theorem index?_eq_none_iff {key : String} :
    index? key = none ↔ ∀ n ≤ maxIndex, key ≠ toString n := by
  rw [Option.eq_none_iff_forall_ne_some]
  constructor
  · intro hnone n hmax hkey
    exact hnone n (index?_eq_some_iff.mpr ⟨hkey, hmax⟩)
  · intro hkeys n hsome
    obtain ⟨hkey, hmax⟩ := index?_eq_some_iff.mp hsome
    exact hkeys n hmax hkey

/-! ## Listing -/

variable {β : Type} {key : β → String} {given : List β}

/-- The entries of a record as they are listed, from the order in which they were given. -/
structure Lists (key : β → String) (given listed : List β) : Prop where
  perm : listed.Perm given
  split : ∃ (indexed : List (ℕ × β)) (others : List β),
    listed = indexed.map Prod.snd ++ others ∧
    (∀ entry ∈ indexed, key entry.2 = toString entry.1 ∧ entry.1 ≤ maxIndex) ∧
    indexed.Pairwise (fun a b => a.1 < b.1) ∧
    others.Sublist given ∧
    ∀ entry ∈ others, ∀ n ≤ maxIndex, key entry ≠ toString n

/-- The entries whose keys write array indices, with these indices. -/
def indexed (key : β → String) (given : List β) : List (ℕ × β) :=
  given.filterMap fun entry => (index? (key entry)).map (·, entry)

theorem mem_indexed_iff {entry : ℕ × β} :
    entry ∈ indexed key given ↔ entry.2 ∈ given ∧ index? (key entry.2) = some entry.1 := by
  obtain ⟨n, entry⟩ := entry
  simp only [indexed, List.mem_filterMap, Option.map_eq_some_iff, Prod.mk.injEq]
  constructor
  · rintro ⟨_, hmem, _, hindex, rfl, rfl⟩
    exact ⟨hmem, hindex⟩
  · rintro ⟨hmem, hindex⟩
    exact ⟨entry, hmem, n, hindex, rfl, rfl⟩

/-- Different keys write different indices. -/
theorem nodup_index (h : (given.map key).Nodup) : ((indexed key given).map Prod.fst).Nodup := by
  rw [indexed, List.map_filterMap]
  unfold List.Nodup
  rw [List.pairwise_filterMap]
  refine (List.pairwise_map.mp h).imp ?_
  intro a b hne m hm n hn hmn
  simp only [Option.map_map, Option.map_eq_some_iff] at hm hn
  obtain ⟨m', hm, rfl⟩ := hm
  obtain ⟨n', hn, rfl⟩ := hn
  obtain rfl : m' = n' := hmn
  exact hne ((index?_eq_some_iff.mp hm).1.trans (index?_eq_some_iff.mp hn).1.symm)

theorem pairwise_sorted_index (h : (given.map key).Nodup) :
    ((indexed key given).mergeSort fun a b => a.1 ≤ b.1).Pairwise (fun a b => a.1 < b.1) := by
  set sorted := (indexed key given).mergeSort fun a b => a.1 ≤ b.1
  have hle : sorted.Pairwise fun a b => a.1 ≤ b.1 := by
    refine (List.pairwise_mergeSort ?_ ?_ _).imp of_decide_eq_true
    · intro a b c hab hbc
      exact decide_eq_true ((of_decide_eq_true hab).trans (of_decide_eq_true hbc))
    · intro a b
      simpa using le_total a.1 b.1
  -- sorting only gives `≤`, but different keys never write one index
  have hne : sorted.Pairwise fun a b => a.1 ≠ b.1 := by
    rw [← List.pairwise_map]
    exact (((List.mergeSort_perm _ _).map Prod.fst).nodup_iff).mpr (nodup_index h)
  exact hle.imp₂ (fun _ _ hle hne => lt_of_le_of_ne hle hne) hne

/-- A record lists entries with keys of their own in its order and loses none of them. -/
theorem ordered_lists (h : (given.map key).Nodup) : Lists key given (ordered key given) := by
  rw [ordered, distinct_of_nodup h]
  refine ⟨sorted_perm key given, (indexed key given).mergeSort fun a b => a.1 ≤ b.1, _, rfl, ?_,
    pairwise_sorted_index h, List.filter_sublist, ?_⟩
  · intro entry hentry
    rw [List.mem_mergeSort, mem_indexed_iff] at hentry
    exact index?_eq_some_iff.mp hentry.2
  · intro entry hentry
    rw [List.mem_filter, Option.isNone_iff_eq_none] at hentry
    exact index?_eq_none_iff.mp hentry.2

end FieldCalculus.KeyOrder
