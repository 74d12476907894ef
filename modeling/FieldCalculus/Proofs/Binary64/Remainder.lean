import FieldCalculus.Proofs.Binary64.WholeNumbers
/-!
# Remainders in binary64

The remainder of two finite numbers is computed on their mantissas and needs no rounding: it
has no more bits than the divisor or the dividend, and its last bit is in a place that one of
them has.
-/

namespace FieldCalculus.Binary64

open Float.Model
open Float.Model.UnpackedFloat

/-! ## Numbers from their bits -/

theorem toNat_fields (s : Sign) {biased fraction : ℕ} (hbiased : biased < 2 ^ 11)
    (hfraction : fraction < 2 ^ 52) :
    (packComponents Format.binary64 s (BitVec.ofNat 11 biased)
      (BitVec.ofNat 52 fraction)).toNat =
      (if isNegative s then 2 ^ 63 else 0) + biased * 2 ^ 52 + fraction := by
  have hsign : s.toBitVec.toNat = if isNegative s then 1 else 0 := by
    cases s <;> rfl
  have hfront : (s.toBitVec ++ BitVec.ofNat 11 biased).toNat =
      s.toBitVec.toNat * 2 ^ 11 + biased := by
    rw [BitVec.toNat_append, BitVec.toNat_ofNat, Nat.mod_eq_of_lt hbiased,
      ← Nat.shiftLeft_add_eq_or_of_lt hbiased, Nat.shiftLeft_eq]
  have hall : (s.toBitVec ++ BitVec.ofNat 11 biased ++ BitVec.ofNat 52 fraction).toNat =
      (s.toBitVec ++ BitVec.ofNat 11 biased).toNat * 2 ^ 52 + fraction := by
    rw [BitVec.toNat_append, BitVec.toNat_ofNat, Nat.mod_eq_of_lt hfraction,
      ← Nat.shiftLeft_add_eq_or_of_lt hfraction, Nat.shiftLeft_eq]
  rw [hfront, hsign] at hall
  refine Eq.trans hall ?_
  split <;> omega

/-- The fields of a number stand side by side in its bits. -/
theorem toBitVec_fields (s : Sign) {biased fraction : ℕ} (hbiased : biased < 2 ^ 11)
    (hfraction : fraction < 2 ^ 52) :
    (UInt64.ofNat
      ((if isNegative s then 2 ^ 63 else 0) + biased * 2 ^ 52 + fraction)).toBitVec =
      packComponents Format.binary64 s (BitVec.ofNat 11 biased) (BitVec.ofNat 52 fraction) := by
  apply BitVec.eq_of_toNat_eq
  rw [toNat_fields s hbiased hfraction, UInt64.toNat_toBitVec, UInt64.toNat_ofNat']
  apply Nat.mod_eq_of_lt
  split <;> omega

theorem hasValue_ofFields (s : Sign) {biased fraction : ℕ} {q : ℚ} (hbiased : biased < 2 ^ 11)
    (hfraction : fraction < 2 ^ 52)
    (h : rational? (ofBitFields s (BitVec.ofNat 11 biased) (BitVec.ofNat 52 fraction)) =
      some q) :
    HasValue (Float.ofBits (.ofNat
      ((if isNegative s then 2 ^ 63 else 0) + biased * 2 ^ 52 + fraction))) q := by
  rw [← unpack_packComponents, ← toBitVec_fields s hbiased hfraction] at h
  exact hasValue_pack (canonical_unpack _) (fits_unpack _) h

/-- A mantissa with an exponent that fits it is written as it is. -/
theorem hasValue_written (s : Sign) {k : ℕ} {e : ℤ} (hlt : k < 2 ^ 53) (hleast : -1074 ≤ e)
    (hmost : e ≤ 971) (hfull : 2 ^ 52 ≤ k ∨ e = -1074 ∨ k = 0) :
    HasValue (Float.ofBits (.ofNat ((if isNegative s then 2 ^ 63 else 0) +
      (if k < 2 ^ 52 then 0 else (e + 1075).toNat) * 2 ^ 52 + k % 2 ^ 52)))
      (signed s (k * 2 ^ e)) := by
  have hbits : BitVec.ofNat 52 (k % 2 ^ 52) = BitVec.ofNat 52 k := by
    apply BitVec.eq_of_toNat_eq
    rw [BitVec.toNat_ofNat, BitVec.toNat_ofNat, Nat.mod_mod]
  apply hasValue_ofFields s
  · split <;> omega
  · omega
  · rw [hbits]
    split
    · next hsmall =>
      rcases Nat.eq_zero_or_pos k with rfl | hpos
      · rw [Nat.cast_zero, zero_mul]
        cases s with
        | positive => rfl
        | negative => exact congrArg some neg_zero.symm
      · have he : e = -1074 := by omega
        rw [@ofBitFields_subnormal s k hpos hsmall, he]
        rfl
    · next hlarge =>
      have he : (((e + 1075).toNat : ℕ) : ℤ) - 1075 = e := by omega
      have hpos : 0 < k := by omega
      rw [@ofBitFields_normal s k _ hpos (not_lt.mp hlarge) hlt (by omega) (by omega), he]
      rfl

/-- A mantissa is shifted until it has 53 bits or the exponent is the least one. -/
theorem shifted_bounds {m shift room : ℕ} (hlt : m < 2 ^ 53)
    (hshift : shift = min room (52 - m.log2)) :
    m * 2 ^ shift < 2 ^ 53 ∧ (2 ^ 52 ≤ m * 2 ^ shift ∨ shift = room ∨ m * 2 ^ shift = 0) := by
  -- zero has no first bit, and stays zero however far it is shifted
  rcases Nat.eq_zero_or_pos m with rfl | hm
  · simp
  have hlog : m.log2 < 53 := (Nat.log2_lt hm.ne').mpr hlt
  constructor
  · calc
      m * 2 ^ shift < 2 ^ (m.log2 + 1) * 2 ^ shift :=
        Nat.mul_lt_mul_of_pos_right Nat.lt_log2_self (by positivity)
      _ = 2 ^ (m.log2 + 1 + shift) := (pow_add 2 _ _).symm
      _ ≤ 2 ^ 53 := Nat.pow_le_pow_right (by omega) (by omega)
  · by_cases hroom : shift = room
    · exact Or.inr (Or.inl hroom)
    · left
      calc
        2 ^ 52 ≤ 2 ^ (m.log2 + shift) := Nat.pow_le_pow_right (by omega) (by omega)
        _ = 2 ^ m.log2 * 2 ^ shift := pow_add 2 _ _
        _ ≤ m * 2 ^ shift := Nat.mul_le_mul_right _ (Nat.log2_self_le hm.ne')

/-- A mantissa of at most 53 bits needs no rounding, if its exponent can be kept. -/
theorem hasValue_ofParts (s : Sign) {m : ℕ} {e : ℤ} (hm : m < 2 ^ 53) (hleast : -1074 ≤ e)
    (hmost : e ≤ 971) : HasValue (ofParts (isNegative s) m e) (signed s (m * 2 ^ e)) := by
  obtain ⟨shift, hshift⟩ : ∃ shift, shift = min (e - minExponent).toNat (52 - m.log2) := ⟨_, rfl⟩
  have hroom : e - minExponent = e + 1074 := by
    rw [minExponent]
    ring
  rw [hroom] at hshift
  have hparts : ofParts (isNegative s) m e = Float.ofBits (.ofNat
      ((if isNegative s then 2 ^ 63 else 0) +
        (if m * 2 ^ shift < 2 ^ 52 then 0 else (e - shift + 1075).toNat) * 2 ^ 52 +
        m * 2 ^ shift % 2 ^ 52)) := by
    rw [hshift, ← hroom]
    rfl
  obtain ⟨hlt, hfull⟩ := shifted_bounds hm hshift
  rw [hparts, ← shiftLeft_value m shift e, Nat.shiftLeft_eq]
  exact hasValue_written s hlt (by omega) (by omega) (hfull.imp_right (.imp_left (by omega)))

/-! ## The remainder -/

/-- A finite number is a mantissa in the place of its last bit. -/
theorem HasValue.exists_parts {x : Float} {q : ℚ} (h : HasValue x q) :
    ∃ s m e, parts x = .finite (isNegative s) m e ∧ q = signed s (m * 2 ^ e) ∧
      m < 2 ^ 53 ∧ -1074 ≤ e ∧ e ≤ 971 := by
  rw [parts_eq]
  obtain ⟨s, hx, rfl⟩ | ⟨s, m, e, hm, hx, rfl⟩ := rational?_cases h
  · refine ⟨s, 0, minExponent, by rw [hx]; rfl, ?_, by norm_num, le_rfl, by decide⟩
    rw [Nat.cast_zero, zero_mul]
    cases s with
    | positive => rfl
    | negative => exact neg_zero.symm
  · have hcanonical := canonical_unpack x.toModel.toBits.toBitVec
    have hfits := fits_unpack x.toModel.toBits.toBitVec
    change Canonical x.toModel.unpack at hcanonical
    change Fits x.toModel.unpack at hfits
    rw [hx] at hcanonical hfits ⊢
    exact ⟨s, m, e, rfl, rfl, hcanonical.1, hcanonical.2.1, hfits⟩

theorem mantissa_at (m : ℕ) {e low : ℤ} (h : low ≤ e) :
    (m : ℚ) * 2 ^ e = (m * 2 ^ (e - low).toNat : ℕ) * 2 ^ low := by
  have hdown : e - ((e - low).toNat : ℤ) = low := by omega
  rw [← shiftLeft_value m (e - low).toNat e, Nat.shiftLeft_eq, hdown]

/-- The remainder of a division that rounds toward zero. -/
structure IsRemainder (a b r : ℚ) : Prop where
  quotient : ∃ k : ℤ, a = k * b + r
  lt : |r| < |b|
  sign : 0 ≤ a * r

theorem isRemainder_mod (s t : Sign) {m n : ℕ} {p : ℚ} (hn : 0 < n) (hp : 0 < p) :
    IsRemainder (signed s (m * p)) (signed t (n * p)) (signed s ((m % n : ℕ) * p)) := by
  obtain ⟨k, hdivision⟩ : ∃ k : ℕ, (m : ℚ) = n * k + (m % n : ℕ) :=
    ⟨m / n, by exact_mod_cast (Nat.div_add_mod m n).symm⟩
  have hlt : ((m % n : ℕ) : ℚ) < n := by exact_mod_cast Nat.mod_lt m hn
  have hmod : (0 : ℚ) ≤ (m % n : ℕ) * p := by positivity
  have hm : (0 : ℚ) ≤ m * p := by positivity
  constructor
  case quotient =>
    refine ⟨s.apply 1 * t.apply 1 * k, ?_⟩
    rw [hdivision]
    cases s <;> cases t <;> simp only [signed, Sign.apply] <;> push_cast <;> ring
  case lt =>
    rw [abs_signed, abs_signed, abs_of_nonneg hmod, abs_of_pos (by positivity)]
    exact mul_lt_mul_of_pos_right hlt hp
  case sign =>
    cases s with
    | positive => exact mul_nonneg hm hmod
    | negative => exact mul_nonneg_of_nonpos_of_nonpos (neg_nonpos.mpr hm) (neg_nonpos.mpr hmod)

/-- The remainder of two finite numbers is exact. -/
theorem HasValue.remainder {x y : Float} {a b : ℚ} (hx : HasValue x a) (hy : HasValue y b)
    (hb : b ≠ 0) : ∃ r, HasValue (remainder x y) r ∧ IsRemainder a b r := by
  obtain ⟨s, m, e, hxparts, rfl, hm, he, he'⟩ := hx.exists_parts
  obtain ⟨t, n, k, hyparts, rfl, hn, hk, hk'⟩ := hy.exists_parts
  have hn0 : n ≠ 0 := by
    rintro rfl
    apply hb
    cases t <;> simp [signed]
  set low := min e k
  set dividend := m * 2 ^ (e - low).toNat with hdividend
  set divisor := n * 2 ^ (k - low).toNat with hdivisor
  have hremainder : Binary64.remainder x y =
      ofParts (isNegative s) (dividend % divisor) low := by
    rw [Binary64.remainder, hxparts, hyparts]
    exact if_neg hn0
  have hpos : 0 < divisor := Nat.mul_pos (Nat.pos_of_ne_zero hn0) (by positivity)
  -- one of the two has not been shifted
  have hshort : dividend % divisor < 2 ^ 53 := by
    rcases min_choice e k with hlow | hlow
    · have hunshifted : dividend = m := by
        rw [hdividend, show low = e from hlow]
        simp
      exact (Nat.mod_le _ _).trans_lt (hunshifted ▸ hm)
    · have hunshifted : divisor = n := by
        rw [hdivisor, show low = k from hlow]
        simp
      exact (Nat.mod_lt _ hpos).trans (hunshifted ▸ hn)
  rw [hremainder, mantissa_at m (min_le_left e k), mantissa_at n (min_le_right e k)]
  exact ⟨_, hasValue_ofParts s hshort (le_min he hk) ((min_le_left _ _).trans he'),
    isRemainder_mod s t hpos (two_zpow_pos low)⟩

/-! ## Integers -/

theorem HasValue.remainder_one_iff {x : Float} {q : ℚ} (h : HasValue x q) :
    (Binary64.remainder x 1.0 == 0.0) = true ↔ ∃ k : ℤ, q = k := by
  obtain ⟨r, hr, ⟨k, hk⟩, hlt, -⟩ := h.remainder hasValue_one one_ne_zero
  rw [hr.beq_iff hasValue_zero]
  constructor
  · rintro rfl
    exact ⟨k, by rw [hk, mul_one, add_zero]⟩
  · rintro ⟨n, hn⟩
    have hinteger : r = (n - k : ℤ) := by
      push_cast
      linarith
    rw [hinteger, abs_one] at hlt
    have hzero : n - k = 0 := Int.abs_lt_one_iff.mp (by exact_mod_cast hlt)
    rw [hinteger, hzero, Int.cast_zero]

end FieldCalculus.Binary64
