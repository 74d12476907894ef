import FieldCalculus.Proofs.Binary64.Value
/-!
# Binary64 arithmetic

Sums, differences, products and quotients of finite numbers are the exact results rounded,
as long as these are far below the greatest numbers.
-/

namespace FieldCalculus.Binary64

open Float.Model
open Float.Model.UnpackedFloat

/-! ## Numbers that need no rounding -/

theorem signed_eq_apply (s : Sign) (m : ℕ) (e : ℤ) :
    signed s (m * 2 ^ e) = ((s.apply m : ℤ) : ℚ) * 2 ^ e := by
  cases s with
  | positive => simp [signed, Sign.apply]
  | negative => simp [signed, Sign.apply]

theorem rounded_of_canonical {u : UnpackedFloat} {q : ℚ} (hcanonical : Canonical u)
    (hq : rational? u = some q) : Rounded q u := by
  refine ⟨hcanonical, q, hq, ?_⟩
  obtain ⟨s, rfl, rfl⟩ | ⟨s, m, e, hm, rfl, rfl⟩ := rational?_cases hq
  · exact RoundsTo.zero
  · obtain ⟨hlt, hleast, hfull⟩ := hcanonical
    have hpos := two_zpow_pos e
    have habs : |signed s (m * 2 ^ e)| = m * 2 ^ e := by
      rw [abs_signed, abs_of_pos (magnitude_pos hm e)]
    apply RoundsTo.refl_of_onGrid (s := e)
    · refine ⟨hleast, ?_, ?_⟩
      · rw [habs, add_comm]
        calc
          (m : ℚ) * 2 ^ e < 2 ^ 53 * 2 ^ e :=
            mul_lt_mul_of_pos_right (by exact_mod_cast hlt) hpos
          _ = 2 ^ (53 + e) := (two_zpow_natCast_add 53 e).symm
      · rcases hfull with hfull | hleast'
        · right
          rw [habs, add_comm]
          calc
            (2 : ℚ) ^ (52 + e) = 2 ^ 52 * 2 ^ e := two_zpow_natCast_add 52 e
            _ ≤ m * 2 ^ e := mul_le_mul_of_nonneg_right (by exact_mod_cast hfull) hpos.le
        · exact Or.inl hleast'
    · exact ⟨s.apply m, signed_eq_apply s m e⟩

theorem canonical_neg {u : UnpackedFloat} (h : Canonical u) : Canonical u.neg := by
  cases u with
  | finite s m e hm => exact h
  | _ => trivial

theorem canonical_abs {u : UnpackedFloat} (h : Canonical u) : Canonical u.abs := by
  cases u with
  | finite s m e hm => exact h
  | _ => trivial

theorem rational?_neg {u : UnpackedFloat} {q : ℚ} (h : rational? u = some q) :
    rational? u.neg = some (-q) := by
  obtain ⟨s, rfl, rfl⟩ | ⟨s, m, e, hm, rfl, rfl⟩ := rational?_cases h
  · exact congrArg some neg_zero.symm
  · cases s with
    | positive => rfl
    | negative => exact congrArg some (neg_neg _).symm

theorem rational?_abs {u : UnpackedFloat} {q : ℚ} (h : rational? u = some q) :
    rational? u.abs = some |q| := by
  obtain ⟨s, rfl, rfl⟩ | ⟨s, m, e, hm, rfl, rfl⟩ := rational?_cases h
  · exact congrArg some abs_zero.symm
  · rw [abs_signed, abs_of_pos (magnitude_pos hm e)]
    rfl

/-! ## Sums and differences -/

/-- A number at a lower exponent. -/
theorem aligned (s : Sign) (m : ℕ) {e low : ℤ} (hlow : low ≤ e) :
    ((s.apply ((m <<< (e - low).toNat : ℕ)) : ℤ) : ℚ) * 2 ^ low = signed s (m * 2 ^ e) := by
  have hdown : e - ((e - low).toNat : ℤ) = low := by omega
  rw [← signed_eq_apply, ← shiftLeft_value m (e - low).toNat e, hdown]

theorem rounded_add {u v : UnpackedFloat} {a b : ℚ} (hu : Canonical u) (hv : Canonical v)
    (ha : rational? u = some a) (hb : rational? v = some b) :
    Rounded (a + b) (UnpackedFloat.add Format.binary64 u v) := by
  obtain ⟨s, rfl, rfl⟩ | ⟨s, m, e, hm, rfl, rfl⟩ := rational?_cases ha
  · rw [zero_add]
    obtain ⟨t, rfl, rfl⟩ | ⟨t, n, k, hn, rfl, rfl⟩ := rational?_cases hb
    · cases s <;> cases t <;> exact rounded_of_canonical trivial rfl
    · exact rounded_of_canonical hv hb
  · obtain ⟨t, rfl, rfl⟩ | ⟨t, n, k, hn, rfl, rfl⟩ := rational?_cases hb
    · rw [add_zero]
      exact rounded_of_canonical hu ha
    · rw [← aligned s m (min_le_left e k), ← aligned t n (min_le_right e k), ← add_mul,
        ← Int.cast_add]
      exact rounded_normalize _ _ _

theorem apply_neg (s : Sign) (n : ℤ) : (-s).apply n = -s.apply n := by
  cases s with
  | positive => rfl
  | negative => exact (neg_neg n).symm

theorem unpackedSub_eq (u v : UnpackedFloat) :
    UnpackedFloat.sub Format.binary64 u v = UnpackedFloat.add Format.binary64 u v.neg := by
  cases u with
  | finite s m e hm =>
      cases v with
      | finite t n k hn =>
          have hadd : UnpackedFloat.add Format.binary64 (.finite s m e hm) (.finite (-t) n k hn) =
              UnpackedFloat.normalize Format.binary64
                (s.apply ((m <<< (e - min e k).toNat : ℕ)) +
                  (-t).apply ((n <<< (k - min e k).toNat : ℕ))) (min e k) .positive := rfl
          change _ = UnpackedFloat.add Format.binary64 (.finite s m e hm) (.finite (-t) n k hn)
          rw [hadd, apply_neg]
          rfl
      | _ => rfl
  | _ => cases v <;> rfl

theorem rounded_sub {u v : UnpackedFloat} {a b : ℚ} (hu : Canonical u) (hv : Canonical v)
    (ha : rational? u = some a) (hb : rational? v = some b) :
    Rounded (a - b) (UnpackedFloat.sub Format.binary64 u v) := by
  rw [unpackedSub_eq, sub_eq_add_neg]
  exact rounded_add hu (canonical_neg hv) ha (rational?_neg hb)

/-! ## Products and quotients -/

theorem signed_mul (s t : Sign) (x y : ℚ) : signed s x * signed t y = signed (s * t) (x * y) := by
  cases s <;> cases t
  · exact neg_mul_neg x y
  · exact neg_mul x y
  · exact mul_neg x y
  · rfl

theorem signed_div (s t : Sign) (x y : ℚ) : signed s x / signed t y = signed (s / t) (x / y) := by
  cases s <;> cases t
  · exact neg_div_neg_eq x y
  · exact neg_div y x
  · exact div_neg x
  · rfl

theorem rounded_mul {u v : UnpackedFloat} {a b : ℚ} (hu : Canonical u) (hv : Canonical v)
    (ha : rational? u = some a) (hb : rational? v = some b) :
    Rounded (a * b) (UnpackedFloat.mul Format.binary64 u v) := by
  obtain ⟨s, rfl, rfl⟩ | ⟨s, m, e, hm, rfl, rfl⟩ := rational?_cases ha
  · rw [zero_mul]
    obtain ⟨t, rfl, rfl⟩ | ⟨t, n, k, hn, rfl, rfl⟩ := rational?_cases hb
    · exact rounded_of_canonical trivial rfl
    · exact rounded_of_canonical trivial rfl
  · obtain ⟨t, rfl, rfl⟩ | ⟨t, n, k, hn, rfl, rfl⟩ := rational?_cases hb
    · rw [mul_zero]
      exact rounded_of_canonical trivial rfl
    · have hvalue : (m : ℚ) * 2 ^ e * (n * 2 ^ k) = ((m * n : ℕ) : ℚ) * 2 ^ (e + k) := by
        rw [two_zpow_add]
        push_cast
        ring
      have hbits : e + k ≤ -1074 ∨ 52 ≤ (m * n).log2 := by
        have hne : m * n ≠ 0 := (Nat.mul_pos hm hn).ne'
        rcases hu.2.2 with hfull | hleast
        · exact Or.inr ((Nat.le_log2 hne).mpr (hfull.trans (Nat.le_mul_of_pos_right m hn)))
        · rcases hv.2.2 with hfull' | hleast'
          · exact Or.inr ((Nat.le_log2 hne).mpr (hfull'.trans (Nat.le_mul_of_pos_left n hm)))
          · left
            omega
      rw [signed_mul, hvalue]
      exact rounded_roundWithAccuracy (s * t) (Stands.exact (m * n)) hbits

/-- The dividend is given zeros until the quotient has 53 bits. -/
theorem log2_quotient {m n shift : ℕ} (hm : 0 < m) (hn : 0 < n)
    (hshift : n.log2 + 53 ≤ m.log2 + shift) : 52 ≤ ((m <<< shift) / n).log2 := by
  have hn' : n ≤ 2 ^ (n.log2 + 1) := Nat.lt_log2_self.le
  have hm' : 2 ^ m.log2 ≤ m := Nat.log2_self_le hm.ne'
  have hquotient : 2 ^ 52 ≤ (m <<< shift) / n := by
    rw [Nat.le_div_iff_mul_le hn, Nat.shiftLeft_eq]
    calc
      2 ^ 52 * n ≤ 2 ^ 52 * 2 ^ (n.log2 + 1) := Nat.mul_le_mul_left _ hn'
      _ = 2 ^ (n.log2 + 53) := by
        rw [← pow_add]
        congr 1
        omega
      _ ≤ 2 ^ (m.log2 + shift) := Nat.pow_le_pow_right two_pos hshift
      _ = 2 ^ m.log2 * 2 ^ shift := pow_add 2 _ _
      _ ≤ m * 2 ^ shift := Nat.mul_le_mul_right _ hm'
  exact (Nat.le_log2 (by omega)).mpr hquotient

theorem rounded_div {u v : UnpackedFloat} {a b : ℚ} (ha : rational? u = some a)
    (hb : rational? v = some b) (hne : b ≠ 0) :
    Rounded (a / b) (UnpackedFloat.div Format.binary64 u v) := by
  obtain ⟨t, rfl, rfl⟩ | ⟨t, n, k, hn, rfl, rfl⟩ := rational?_cases hb
  · exact absurd rfl hne
  obtain ⟨s, rfl, rfl⟩ | ⟨s, m, e, hm, rfl, rfl⟩ := rational?_cases ha
  · rw [zero_div]
    exact rounded_of_canonical trivial rfl
  · have hn' : (n : ℚ) ≠ 0 := by exact_mod_cast hn.ne'
    set low := min (e - k) (Format.binary64.targetExponent (totalExponent m e - totalExponent n k))
      with hlow
    set shift := (e - k - low).toNat with hshift
    have htarget : Format.binary64.targetExponent (totalExponent m e - totalExponent n k) =
        max (m.log2 + 1 + e - (n.log2 + 1 + k) - 53) (-1074) := rfl
    have hdown : e - k - shift = low := by omega
    have hvalue : (m : ℚ) * 2 ^ e / (n * 2 ^ k) = ((m <<< shift : ℕ) : ℚ) / n * 2 ^ low := by
      calc
        (m : ℚ) * 2 ^ e / (n * 2 ^ k) = m * 2 ^ (e - k) / n := by
          rw [zpow_sub₀ (by norm_num)]
          field_simp
        _ = ((m <<< shift : ℕ) : ℚ) * 2 ^ low / n := by rw [← hdown, shiftLeft_value]
        _ = ((m <<< shift : ℕ) : ℚ) / n * 2 ^ low := by ring
    have hbits : low ≤ -1074 ∨ 52 ≤ ((m <<< shift) / n).log2 := by
      by_cases hleast : low ≤ -1074
      · exact Or.inl hleast
      · exact Or.inr (log2_quotient hm hn (by omega))
    rw [signed_div, hvalue]
    exact rounded_roundWithAccuracy (s / t) (Stands.quotient (m <<< shift) hn) hbits

/-! ## Numbers as they are kept -/

namespace HasValue

variable {x y : Float} {a b : ℚ}

theorem isFinite (hx : HasValue x a) : x.isFinite = true := by
  change x.toModel.unpack.isFinite = true
  obtain ⟨s, hs, _⟩ | ⟨s, m, e, hm, hs, _⟩ := rational?_cases hx
  · rw [hs]
    rfl
  · rw [hs]
    rfl

theorem isNaN (hx : HasValue x a) : x.isNaN = false := by
  change x.toModel.unpack.isNaN = false
  obtain ⟨s, hs, _⟩ | ⟨s, m, e, hm, hs, _⟩ := rational?_cases hx
  · rw [hs]
    rfl
  · rw [hs]
    rfl

theorem neg (hx : HasValue x a) : HasValue (-x) (-a) := by
  have hfits : Fits x.toModel.unpack.neg := by
    have h := fits_unpack x.toModel.toBits.toBitVec
    change Fits x.toModel.unpack at h
    cases hu : x.toModel.unpack <;> rw [hu] at h <;> exact h
  exact hasValue_pack (canonical_neg (canonical_unpack _)) hfits (rational?_neg hx)

theorem abs (hx : HasValue x a) : HasValue x.abs |a| := by
  have hfits : Fits x.toModel.unpack.abs := by
    have h := fits_unpack x.toModel.toBits.toBitVec
    change Fits x.toModel.unpack at h
    cases hu : x.toModel.unpack <;> rw [hu] at h <;> exact h
  exact hasValue_pack (canonical_abs (canonical_unpack _)) hfits (rational?_abs hx)

theorem add (hx : HasValue x a) (hy : HasValue y b) (h : |a + b| ≤ 2 ^ (1000 : ℤ)) :
    ∃ q, HasValue (x + y) q ∧ RoundsTo (a + b) q :=
  (rounded_add (canonical_unpack _) (canonical_unpack _) hx hy).hasValue h

theorem sub (hx : HasValue x a) (hy : HasValue y b) (h : |a - b| ≤ 2 ^ (1000 : ℤ)) :
    ∃ q, HasValue (x - y) q ∧ RoundsTo (a - b) q :=
  (rounded_sub (canonical_unpack _) (canonical_unpack _) hx hy).hasValue h

theorem mul (hx : HasValue x a) (hy : HasValue y b) (h : |a * b| ≤ 2 ^ (1000 : ℤ)) :
    ∃ q, HasValue (x * y) q ∧ RoundsTo (a * b) q :=
  (rounded_mul (canonical_unpack _) (canonical_unpack _) hx hy).hasValue h

theorem div (hx : HasValue x a) (hy : HasValue y b) (hb : b ≠ 0)
    (h : |a / b| ≤ 2 ^ (1000 : ℤ)) : ∃ q, HasValue (x / y) q ∧ RoundsTo (a / b) q :=
  (rounded_div hx hy hb).hasValue h

end HasValue

end FieldCalculus.Binary64
