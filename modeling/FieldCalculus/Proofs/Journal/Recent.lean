import FieldCalculus.Journal
import FieldCalculus.Proofs.Binary64.WholeNumbers
/-!
# The latest entries of a journal

How many entries a limit lets through.  The whole units of the limit are counted from the
end, and a limit between zero and one has none: nothing is cut off then.
-/

namespace FieldCalculus.Journal

variable {α : Type} [Scalar α]

theorem recent_suffix (j : Journal α) (limit : α) : j.recent limit <:+ j.entries := by
  unfold recent
  split
  · split
    · exact List.suffix_rfl
    · exact List.suffix_rfl
    · exact List.drop_suffix _ _
  · exact List.nil_suffix

theorem length_recent_of_units {j : Journal α} {limit : α} {n : ℕ} (hpos : 0.0 < limit)
    (hunits : Scalar.units? limit = some n) (hn : n ≠ 0) :
    (j.recent limit).length = min n j.size := by
  obtain ⟨k, rfl⟩ := Nat.exists_eq_succ_of_ne_zero hn
  unfold recent
  rw [if_pos hpos, hunits]
  change (j.entries.drop (j.entries.length - (k + 1))).length = min (k + 1) j.entries.length
  rw [List.length_drop]
  omega

theorem recent_of_none_cut {j : Journal α} {limit : α} (hpos : 0.0 < limit)
    (hunits : Scalar.units? limit = none ∨ Scalar.units? limit = some 0) :
    j.recent limit = j.entries := by
  rw [recent, if_pos hpos]
  rcases hunits with hinfinite | hfraction
  · rw [hinfinite]
  · rw [hfraction]
    rfl

open Binary64

variable {j : Journal Float} {limit : Float} {q : ℚ}

theorem recent_of_nonpos (h : HasValue limit q) (hq : q ≤ 0) : j.recent limit = [] := by
  have hpos : ¬ 0.0 < limit := mt (hasValue_zero.lt_iff h).mp (not_lt.mpr hq)
  rw [recent, if_neg hpos]

theorem recent_of_lt_one (h : HasValue limit q) (hpos : 0 < q) (hq : q < 1) :
    j.recent limit = j.entries := by
  have hunits : units? limit = some 0 := by rw [h.units?_eq, Nat.floor_eq_zero.mpr hq]
  exact recent_of_none_cut ((hasValue_zero.lt_iff h).mpr hpos) (.inr hunits)

theorem length_recent_of_one_le (h : HasValue limit q) (hq : 1 ≤ q) :
    (j.recent limit).length = min ⌊q⌋₊ j.size := by
  have hfloor : ⌊q⌋₊ ≠ 0 := (Nat.floor_pos.mpr hq).ne'
  exact length_recent_of_units ((hasValue_zero.lt_iff h).mpr (one_pos.trans_le hq)) h.units?_eq
    hfloor

theorem length_recent_le_iff (h : HasValue limit q) :
    ((j.recent limit).length : ℚ) ≤ max q 0 ↔ ¬ (0 < q ∧ q < 1 ∧ j.entries ≠ []) := by
  rcases le_or_gt q 0 with hq | hpos
  · rw [recent_of_nonpos h hq]
    exact iff_of_true (le_max_right q 0) fun hslip => absurd hslip.1 (not_lt.mpr hq)
  rw [max_eq_left hpos.le]
  rcases lt_or_ge q 1 with hq | hq
  · rw [recent_of_lt_one h hpos hq]
    constructor
    · rintro hle ⟨-, -, hne⟩
      have hlength : (1 : ℚ) ≤ j.entries.length := by
        exact_mod_cast List.length_pos_of_ne_nil hne
      exact absurd (hlength.trans hle) (not_le.mpr hq)
    · intro hslip
      have hnil : j.entries = [] := by
        by_contra hne
        exact hslip ⟨hpos, hq, hne⟩
      rw [hnil]
      exact hpos.le
  · rw [length_recent_of_one_le h hq]
    refine iff_of_true ?_ fun hslip => absurd hslip.2.1 (not_lt.mpr hq)
    calc
      ((min ⌊q⌋₊ j.size : ℕ) : ℚ) ≤ (⌊q⌋₊ : ℕ) := by exact_mod_cast min_le_left _ _
      _ ≤ q := Nat.floor_le hpos.le

/-- The latest entries are a suffix of the journal with at most as many entries as the limit
says, unless the limit lies strictly between zero and one: that one cuts nothing off.  A
positive whole limit lets through as many as there are, and one that is not finite lets all
entries through or none. -/
theorem recent_within_limit_iff (j : Journal Float) (limit : Float) :
    j.recent limit <:+ j.entries ∧
    (limit.isFinite = false → j.recent limit = if 0.0 < limit then j.entries else []) ∧
    (limit.isFinite = true → ∃ q, HasValue limit q ∧
      (((j.recent limit).length : ℚ) ≤ max q 0 ↔ ¬ (0 < q ∧ q < 1 ∧ j.entries ≠ [])) ∧
      ∀ n : ℕ, 0 < n → q = n → (j.recent limit).length = min n j.size) := by
  refine ⟨recent_suffix j limit, ?_, ?_⟩
  · intro hinfinite
    split
    · next hpos => exact recent_of_none_cut hpos (.inl (units?_of_infinite hinfinite hpos))
    · next hpos => rw [recent, if_neg hpos]
  · intro hfinite
    obtain ⟨q, hq⟩ := exists_hasValue hfinite
    refine ⟨q, hq, length_recent_le_iff hq, ?_⟩
    rintro n hn rfl
    rw [length_recent_of_one_le hq (by exact_mod_cast hn), Nat.floor_natCast]

/-- Three entries, of which a limit of one and a half lets one through. -/
theorem recent_within_limit_iff_three_halves :
    let entry (seq : ℕ) : JournalEntry := ⟨seq, "a = 1", .applied, some "creation_0", none⟩
    let j : Journal Float := ⟨10.0, [entry 0, entry 1, entry 2], 3⟩
    HasValue 1.5 (3 / 2) ∧ ((j.recent 1.5).length : ℚ) ≤ 3 / 2 ∧ j.recent 1.5 = [entry 2] := by
  intro entry j
  have hunpack : (1.5 : Float).toModel.unpack =
      .finite .positive 6755399441055744 (-52) (by omega) := rfl
  have hvalue : HasValue 1.5 (3 / 2) := by
    have h := hasValue_of_unpack hunpack
    norm_num [signed] at h
    exact h
  obtain ⟨q, hq, hbound, -⟩ := (recent_within_limit_iff j 1.5).2.2 hvalue.isFinite
  obtain rfl : q = 3 / 2 := Option.some.inj (hq.symm.trans hvalue)
  have hlength := hbound.mpr (by norm_num)
  rw [max_eq_left (by norm_num)] at hlength
  exact ⟨hvalue, hlength, by decide +kernel⟩

/-- A limit of one half lets the only entry through. -/
theorem recent_half_above_limit :
    let j : Journal Float := ⟨10.0, [⟨0, "a = 1", .applied, some "creation_0", none⟩], 1⟩
    HasValue 0.5 (1 / 2) ∧ ¬ ((j.recent 0.5).length : ℚ) ≤ max (1 / 2) 0 := by
  intro j
  have hunpack : (0.5 : Float).toModel.unpack =
      .finite .positive 4503599627370496 (-53) (by omega) := rfl
  have hvalue : HasValue 0.5 (1 / 2) := by
    have h := hasValue_of_unpack hunpack
    norm_num [signed] at h
    exact h
  refine ⟨hvalue, ?_⟩
  rw [recent_of_lt_one hvalue (by norm_num) (by norm_num)]
  norm_num [j]

end FieldCalculus.Journal
