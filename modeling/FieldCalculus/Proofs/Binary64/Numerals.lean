import Mathlib.Data.List.TakeWhile
import FieldCalculus.Number.Numeric
import FieldCalculus.Proofs.Binary64.Notation
import FieldCalculus.Proofs.Binary64.WholeNumbers
import FieldCalculus.Proofs.State.KeyOrder
import FieldCalculus.Proofs.Text.Cuts
/-!
# Numerals are read as they are

A text of decimal digits announces no base, has no sign and is no word, so it is read as the
number it writes.  Up to `2 ^ 53` that number needs no rounding.
-/

namespace FieldCalculus.Numeric

open Binary64

section

variable {text : List Char}

theorem base?_of_digits (h : ∀ c ∈ text, c.isDigit = true) : base? text = none := by
  unfold base?
  split
  · next c rest =>
    have hc : c.isDigit = true := h c (by simp)
    have hne : ∀ d : Char, d.isDigit = false → c ≠ d := by
      rintro d hd rfl
      exact Bool.false_ne_true (hd.symm.trans hc)
    simp [hne]
  · rfl

theorem sign_of_digits (h : ∀ c ∈ text, c.isDigit = true) : sign text = (false, text) := by
  unfold sign
  split
  · exact absurd (h '-' List.mem_cons_self) (by decide)
  · exact absurd (h '+' List.mem_cons_self) (by decide)
  · rfl

theorem decimal?_of_digits (h : ∀ c ∈ text, c.isDigit = true) (hne : text ≠ []) :
    decimal? text = some (Numeral.ofDigits text, 0) := by
  have hwhole : text.takeWhile Char.isDigit = text := List.takeWhile_eq_self_iff.mpr h
  have hrest : text.dropWhile Char.isDigit = [] := List.dropWhile_eq_nil_iff.mpr h
  simp [decimal?, hwhole, hrest, exponent?, hne]

end

variable {n : ℕ}

theorem read_toString (n : ℕ) : read (toString n) = scaled false n 0 := by
  have hdigits : ∀ c ∈ (toString n).toList, c.isDigit = true := by
    rw [KeyOrder.toList_toString]
    exact fun _ hc => Nat.isDigit_of_mem_toDigits (by decide) (by decide) hc
  have hne : (toString n).toList ≠ [] := by
    rw [KeyOrder.toList_toString]
    exact Nat.toDigits_ne_nil
  have htrimmed : Text.trimmed (toString n).toList = (toString n).toList :=
    Text.trimmed_of_not_blank (Solid.number n)
  have hword : (toString n).toList ≠ "Infinity".toList := fun h =>
    absurd (hdigits 'I' (h ▸ by decide)) (by decide)
  simp only [read, htrimmed, base?_of_digits hdigits, sign_of_digits hdigits,
    decimal?_of_digits hdigits hne]
  rw [if_neg (by simp), if_neg hword, KeyOrder.toList_toString, KeyOrder.ofDigits_toDigits]

theorem hasValue_scaled (hn : n ≤ 2 ^ 53) : HasValue (scaled false n 0) n := by
  have hlength : (Nat.toDigits 10 n).length ≤ 16 := by
    rw [Nat.length_toDigits_le_iff (by decide) (by decide)]
    omega
  have hlow : ¬ ((Nat.toDigits 10 n).length : ℤ) + 0 < -400 := by omega
  have hhigh : ¬ 400 < ((Nat.toDigits 10 n).length : ℤ) + 0 := by omega
  rcases Nat.eq_zero_or_pos n with rfl | hpos
  · exact hasValue_zero
  · have hscaled : scaled false n 0 = (n : Float) := by
      simp only [scaled, hpos.ne', hlow, hhigh, or_self, if_false]
      rfl
    rw [hscaled]
    exact hasValue_natCast hn

/-- A whole number is read from its decimal notation. -/
theorem hasValue_read_toString (hn : n ≤ 2 ^ 53) : HasValue (read (toString n)) n := by
  rw [read_toString]
  exact hasValue_scaled hn

end FieldCalculus.Numeric
