import FieldCalculus.Text.Blank
import FieldCalculus.Text.Word
/-!
# Word characters

Which characters are no part of a bare name: blanks, and the signs that forms begin with.
-/

namespace FieldCalculus.Text

theorem isWordChar_eq_false {c : Char} {first last : Nat}
    (hranges : ((letterRanges ++ numeralRanges).all fun range =>
      last.blt range.1 || range.2.blt first) = true)
    (hfirst : first ≤ c.toNat) (hlast : c.toNat ≤ last) (hline : c ≠ '_') :
    isWordChar c = false := by
  have hoff : ∀ ranges ⊆ letterRanges ++ numeralRanges, inRanges ranges c = false := by
    intro ranges hsub
    refine List.any_eq_false.mpr fun range hrange => ?_
    have houtside := List.all_eq_true.mp hranges range (hsub hrange)
    simp only [Bool.or_eq_true, Nat.blt_eq] at houtside
    simp only [Bool.and_eq_true, decide_eq_true_eq]
    omega
  have hletter := hoff letterRanges (List.subset_append_left _ _)
  have hnumeral := hoff numeralRanges (List.subset_append_right _ _)
  simp [isWordChar, isLetter, isNumeral, hletter, hnumeral, hline]

/-- The blanks as runs of code points. -/
def blankRanges : List (Nat × Nat) :=
  [(9, 13), (0x20, 0x20), (0xA0, 0xA0), (0x1680, 0x1680), (0x2000, 0x200A), (0x2028, 0x2029),
   (0x202F, 0x202F), (0x205F, 0x205F), (0x3000, 0x3000), (0xFEFF, 0xFEFF)]

theorem exists_range_of_isBlank {c : Char} (h : isBlank c = true) :
    ∃ range ∈ blankRanges, range.1 ≤ c.toNat ∧ c.toNat ≤ range.2 := by
  simp only [isBlank, Bool.or_eq_true, Bool.and_eq_true, decide_eq_true_eq] at h
  simp only [blankRanges, List.mem_cons, List.not_mem_nil, or_false, exists_eq_or_imp,
    exists_eq_left]
  omega

theorem isWordChar_of_isBlank {c : Char} (h : isBlank c = true) : isWordChar c = false := by
  obtain ⟨range, hrange, hfirst, hlast⟩ := exists_range_of_isBlank h
  have hapart : (blankRanges.all fun blank => (letterRanges ++ numeralRanges).all fun word =>
      blank.2.blt word.1 || word.2.blt blank.1) = true := by
    decide +kernel
  refine isWordChar_eq_false (List.all_eq_true.mp hapart range hrange) hfirst hlast ?_
  rintro rfl
  exact absurd h (by decide)

theorem isWordChar_of_sign {c : Char} (h : c ∈ ['⊗', '~', '∂', '∮', '∇']) :
    isWordChar c = false := by
  have hapart : (['⊗', '~', '∂', '∮', '∇'].all fun sign =>
      (letterRanges ++ numeralRanges).all fun word =>
        sign.toNat.blt word.1 || word.2.blt sign.toNat) = true := by
    decide +kernel
  refine isWordChar_eq_false (List.all_eq_true.mp hapart c h) (Nat.le_refl _) (Nat.le_refl _) ?_
  rintro rfl
  exact absurd h (by decide)

end FieldCalculus.Text
