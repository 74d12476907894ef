import FieldCalculus.Proofs.Binary64.Grid
/-!
# How a mantissa is rounded

An exact result reaches the rounding as a whole mantissa with two further bits: whether the
rest is at least a half, and whether anything lies beside that.  Shifting such a mantissa
loses nothing that rounding needs, so the rounded number is the exact one rounded to the grid
of its binade.
-/

namespace FieldCalculus.Binary64

open Float.Model
open Float.Model.UnpackedFloat

/-! ## Values -/

/-- A magnitude with a sign. -/
def signed : Sign → ℚ → ℚ
  | .positive, q => q
  | .negative, q => -q

/-- The number that is written, none for an infinite or undefined one. -/
def rational? : UnpackedFloat → Option ℚ
  | .zero _ => some 0
  | .finite s m e _ => some (signed s (m * 2 ^ e))
  | _ => none

/-- Mantissas fill 53 bits unless the exponent is the least one. -/
def Canonical : UnpackedFloat → Prop
  | .finite _ m e _ => m < 2 ^ 53 ∧ -1074 ≤ e ∧ (2 ^ 52 ≤ m ∨ e = -1074)
  | _ => True

/-- `u` is what `v` is rounded to. -/
def Rounded (v : ℚ) (u : UnpackedFloat) : Prop :=
  Canonical u ∧ ∃ q, rational? u = some q ∧ RoundsTo v q

theorem rational?_cases {u : UnpackedFloat} {q : ℚ} (h : rational? u = some q) :
    (∃ s, u = .zero s ∧ q = 0) ∨
      ∃ s m e hm, u = .finite s m e hm ∧ q = signed s (m * 2 ^ e) := by
  cases u with
  | infinity s => cases h
  | notANumber => cases h
  | zero s =>
      cases h
      exact Or.inl ⟨s, rfl, rfl⟩
  | finite s m e hm =>
      cases h
      exact Or.inr ⟨s, m, e, hm, rfl, rfl⟩

theorem abs_signed (s : Sign) (q : ℚ) : |signed s q| = |q| := by
  cases s with
  | positive => rfl
  | negative => exact abs_neg q

theorem RoundsTo.signed {v q : ℚ} (h : RoundsTo v q) (s : Sign) :
    RoundsTo (signed s v) (signed s q) := by
  cases s with
  | positive => exact h
  | negative => exact h.neg

/-! ## The bits behind a mantissa -/

/-- The worth of the first bit behind the mantissa. -/
def half (bit : Bool) : ℚ := if bit then 1 / 2 else 0

/-- `t` is the exact mantissa behind a shortened one: the whole part, the bit after it, and a
rest that the last bit tells from zero. -/
def Stands (em : ExtendedMantissa) (t : ℚ) : Prop :=
  ∃ rest : ℚ, t = em.mantissa + half em.roundBit + rest ∧ 0 ≤ rest ∧ rest < 1 / 2 ∧
    (em.stickyBit = false ↔ rest = 0)

theorem half_bounds (bit : Bool) : 0 ≤ half bit ∧ half bit ≤ 1 / 2 := by
  cases bit <;> norm_num [half]

namespace Stands

variable {em : ExtendedMantissa} {t : ℚ}

theorem exact (m : ℕ) : Stands (ExtendedMantissa.ofMantissaAndAccuracy m .exact) m :=
  ⟨0, by simp [ExtendedMantissa.ofMantissaAndAccuracy, half], le_rfl, by norm_num,
    iff_of_true rfl rfl⟩

theorem bounds (h : Stands em t) : (em.mantissa : ℚ) ≤ t ∧ t < em.mantissa + 1 := by
  obtain ⟨rest, rfl, hlow, hhigh, _⟩ := h
  obtain ⟨hbit, hbit'⟩ := half_bounds em.roundBit
  constructor <;> linarith

theorem abs_rounded_sub_le (h : Stands em t) : |(em.roundedMantissa : ℚ) - t| ≤ 1 / 2 := by
  obtain ⟨m, round, sticky⟩ := em
  obtain ⟨rest, rfl, hlow, hhigh, hzero⟩ := h
  have hoff : half false = 0 := rfl
  have hon : half true = 1 / 2 := rfl
  rw [abs_le]
  cases round with
  | false =>
      have hdown : ExtendedMantissa.roundedMantissa ⟨m, false, sticky⟩ = m := by
        cases sticky <;> rfl
      rw [hdown, hoff]
      constructor <;> linarith
  | true =>
      cases sticky with
      | false =>
          have htie : ExtendedMantissa.roundedMantissa ⟨m, true, false⟩ = m + m % 2 := rfl
          have hodd : ((m % 2 : ℕ) : ℚ) ≤ 1 := by
            exact_mod_cast Nat.lt_succ_iff.mp (Nat.mod_lt m two_pos)
          have hodd' : (0 : ℚ) ≤ ((m % 2 : ℕ) : ℚ) := Nat.cast_nonneg _
          rw [htie, hzero.mp rfl, hon, Nat.cast_add]
          constructor <;> linarith
      | true =>
          have hup : ExtendedMantissa.roundedMantissa ⟨m, true, true⟩ = m + 1 := rfl
          rw [hup, hon, Nat.cast_add, Nat.cast_one]
          constructor <;> linarith

/-- A shift moves the last bit of the mantissa behind it and keeps track of what was there. -/
theorem shiftRightOne (h : Stands em t) : Stands em.shiftRightOne (t / 2) := by
  obtain ⟨m, round, sticky⟩ := em
  obtain ⟨rest, rfl, hlow, hhigh, hzero⟩ := h
  obtain ⟨hbit, hbit'⟩ := half_bounds round
  have hsplit : (m : ℚ) / 2 = ((m / 2 : ℕ) : ℚ) + half (m % 2 != 0) := by
    have hdiv : (m : ℚ) = 2 * ((m / 2 : ℕ) : ℚ) + ((m % 2 : ℕ) : ℚ) := by
      exact_mod_cast (Nat.div_add_mod m 2).symm
    rcases Nat.mod_two_eq_zero_or_one m with hm | hm
    · rw [hm] at hdiv ⊢
      simp [half] at hdiv ⊢
      linarith
    · rw [hm] at hdiv ⊢
      simp [half] at hdiv ⊢
      linarith
  refine ⟨(half round + rest) / 2, ?_, by linarith, by linarith, ?_⟩
  · simp only [ExtendedMantissa.shiftRightOne]
    rw [add_assoc, add_div, hsplit]
  · simp only [ExtendedMantissa.shiftRightOne, Bool.or_eq_false_iff]
    constructor
    · rintro ⟨rfl, hsticky⟩
      rw [hzero.mp hsticky]
      norm_num [half]
    · intro hrest
      have hnone : rest = 0 := by linarith
      refine ⟨?_, hzero.mpr hnone⟩
      cases round with
      | false => rfl
      | true => norm_num [half, hnone] at hrest

theorem shiftRight (h : Stands em t) (n : ℕ) : Stands (em >>> n) (t / 2 ^ n) := by
  change Stands (n.repeat ExtendedMantissa.shiftRightOne em) _
  induction n with
  | zero => simpa [Nat.repeat] using h
  | succ n ih =>
      rw [Nat.repeat, pow_succ, ← div_div]
      exact ih.shiftRightOne

/-- The accuracy of a quotient tells where the exact quotient lies. -/
theorem quotient (n : ℕ) {d : ℕ} (hd : 0 < d) :
    Stands (ExtendedMantissa.ofMantissaAndAccuracy (n / d) (accuracyOfFraction (n % d) d))
      (n / d) := by
  have hd' : (0 : ℚ) < d := by exact_mod_cast hd
  have hrem : ((n % d : ℕ) : ℚ) < d := by exact_mod_cast Nat.mod_lt n hd
  have hsplit : (n : ℚ) / d = ((n / d : ℕ) : ℚ) + ((n % d : ℕ) : ℚ) / d := by
    have hdiv : (n : ℚ) = d * ((n / d : ℕ) : ℚ) + ((n % d : ℕ) : ℚ) := by
      exact_mod_cast (Nat.div_add_mod n d).symm
    field_simp
    exact hdiv
  rw [hsplit]
  by_cases hzero : n % d = 0
  · rw [hzero, Nat.cast_zero, zero_div, add_zero, accuracyOfFraction, if_pos rfl]
    exact exact (n / d)
  · have hpos : (0 : ℚ) < ((n % d : ℕ) : ℚ) := by exact_mod_cast Nat.pos_of_ne_zero hzero
    rw [accuracyOfFraction, if_neg hzero]
    have hfraction : 0 < ((n % d : ℕ) : ℚ) / d := div_pos hpos hd'
    have hless : ((n % d : ℕ) : ℚ) / d < 1 := (div_lt_one hd').mpr hrem
    rcases hcompare : compare (2 * (n % d)) d with _ | _ | _
    · have hlt : ((n % d : ℕ) : ℚ) / d < 1 / 2 := by
        have hnat : 2 * (n % d) < d := Nat.compare_eq_lt.mp hcompare
        have hcast : 2 * ((n % d : ℕ) : ℚ) < d := by exact_mod_cast hnat
        rw [div_lt_iff₀ hd']
        linarith
      exact ⟨_, by simp [ExtendedMantissa.ofMantissaAndAccuracy, half], hfraction.le, hlt,
        iff_of_false nofun hfraction.ne'⟩
    · have heq : ((n % d : ℕ) : ℚ) / d = 1 / 2 := by
        have hnat : 2 * (n % d) = d := Nat.compare_eq_eq.mp hcompare
        have hcast : 2 * ((n % d : ℕ) : ℚ) = d := by exact_mod_cast hnat
        rw [div_eq_iff hd'.ne']
        linarith
      rw [heq]
      exact ⟨0, by simp [ExtendedMantissa.ofMantissaAndAccuracy, half], le_rfl, by norm_num,
        iff_of_true rfl rfl⟩
    · have hgt : 1 / 2 < ((n % d : ℕ) : ℚ) / d := by
        have hnat : d < 2 * (n % d) := Nat.compare_eq_gt.mp hcompare
        have hcast : (d : ℚ) < 2 * ((n % d : ℕ) : ℚ) := by exact_mod_cast hnat
        rw [lt_div_iff₀ hd']
        linarith
      refine ⟨((n % d : ℕ) : ℚ) / d - 1 / 2, ?_, by linarith, by linarith,
        iff_of_false nofun (sub_pos.mpr hgt).ne'⟩
      simp [ExtendedMantissa.ofMantissaAndAccuracy, half]

end Stands

/-! ## Rounding to 53 bits -/

/-- The exponent that a result is given: of its 53rd bit, but not below the least one. -/
def placeOf (m : ℕ) (e : ℤ) : ℤ := max (m.log2 + e - 52) (-1074)

theorem targetExponent_eq (m : ℕ) (e : ℤ) :
    Format.binary64.targetExponent (totalExponent m e) = placeOf m e := by
  have hbits : (Format.binary64.mantissaBits : ℤ) = 53 := rfl
  have hleast : Format.binary64.minExponent = -1074 := by decide
  rw [Format.targetExponent, totalExponent, placeOf, hbits, hleast]
  congr 1
  omega

theorem two_zpow_natCast_add (n : ℕ) (e : ℤ) : (2 : ℚ) ^ ((n : ℤ) + e) = 2 ^ n * 2 ^ e := by
  rw [two_zpow_add, zpow_natCast]

/-- A mantissa with 53 bits, or one at a least exponent, shows the grid of the exact value. -/
theorem Stands.step {em : ExtendedMantissa} {t : ℚ} (h : Stands em t) {e : ℤ}
    (hbits : e ≤ -1074 ∨ 52 ≤ em.mantissa.log2) : Step (t * 2 ^ e) (placeOf em.mantissa e) := by
  obtain ⟨hlow, hhigh⟩ := h.bounds
  set m := em.mantissa
  have he := two_zpow_pos e
  have ht : 0 ≤ t := (Nat.cast_nonneg m).trans hlow
  have hplace : placeOf m e = max (m.log2 + e - 52) (-1074) := rfl
  refine ⟨by omega, ?_, ?_⟩
  · have hlog : m < 2 ^ (m.log2 + 1) := Nat.lt_log2_self
    have hlog' : (m : ℚ) + 1 ≤ 2 ^ (m.log2 + 1) := by exact_mod_cast hlog
    rw [abs_of_nonneg (mul_nonneg ht he.le)]
    calc
      t * 2 ^ e < 2 ^ (m.log2 + 1) * 2 ^ e :=
        mul_lt_mul_of_pos_right (hhigh.trans_le hlog') he
      _ = 2 ^ (((m.log2 + 1 : ℕ) : ℤ) + e) := (two_zpow_natCast_add _ e).symm
      _ ≤ 2 ^ (placeOf m e + 53) := two_zpow_le (by push_cast; omega)
  · by_cases hleast : placeOf m e = -1074
    · exact Or.inl hleast
    · right
      have hm : m ≠ 0 := by
        intro hm
        rw [hm, Nat.log2_zero] at hbits hplace
        rw [hm] at hleast
        omega
      have hlog : 2 ^ m.log2 ≤ m := Nat.log2_self_le hm
      have hlog' : (2 : ℚ) ^ m.log2 ≤ t := le_trans (by exact_mod_cast hlog) hlow
      rw [abs_of_nonneg (mul_nonneg ht he.le)]
      calc
        (2 : ℚ) ^ (placeOf m e + 52) = 2 ^ ((m.log2 : ℤ) + e) := by
          congr 1
          omega
        _ = 2 ^ m.log2 * 2 ^ e := two_zpow_natCast_add _ e
        _ ≤ t * 2 ^ e := mul_le_mul_of_nonneg_right hlog' he.le

/-- On its own grid an exact mantissa is rounded to a whole number of steps. -/
theorem Stands.roundsTo {em : ExtendedMantissa} {t : ℚ} (h : Stands em t) {s : ℤ}
    (hstep : Step (t * 2 ^ s) s) :
    em.roundedMantissa ≤ 2 ^ 53 ∧ (s = -1074 ∨ 2 ^ 52 ≤ em.roundedMantissa) ∧
      RoundsTo (t * 2 ^ s) (em.roundedMantissa * 2 ^ s) := by
  have hpos := two_zpow_pos s
  have hnear := h.abs_rounded_sub_le
  obtain ⟨hbelow, habove⟩ := abs_le.mp hnear
  have ht : 0 ≤ t := (Nat.cast_nonneg _).trans h.bounds.1
  have habs : |t * 2 ^ s| = t * 2 ^ s := abs_of_nonneg (mul_nonneg ht hpos.le)
  refine ⟨?_, ?_, s, hstep, ⟨em.roundedMantissa, by push_cast; rfl⟩, ?_⟩
  · have hlt : t * 2 ^ s < 2 ^ (53 : ℤ) * 2 ^ s := by
      rw [← two_zpow_add, add_comm, ← habs]
      exact hstep.lt_pow
    have ht53 : t < 2 ^ 53 := lt_of_mul_lt_mul_right (by exact_mod_cast hlt) hpos.le
    have hk : (em.roundedMantissa : ℚ) < 2 ^ 53 + 1 := by linarith
    have hnat : em.roundedMantissa < 2 ^ 53 + 1 := by exact_mod_cast hk
    omega
  · rcases hstep.pow_le with hleast | hpow
    · exact Or.inl hleast
    · right
      have hle : (2 : ℚ) ^ (52 : ℤ) * 2 ^ s ≤ t * 2 ^ s := by
        rw [← two_zpow_add, add_comm, ← habs]
        exact hpow
      have ht52 : (2 : ℚ) ^ 52 ≤ t := le_of_mul_le_mul_right (by exact_mod_cast hle) hpos
      have hk : (2 : ℚ) ^ 52 < em.roundedMantissa + 1 := by linarith
      have hnat : 2 ^ 52 < em.roundedMantissa + 1 := by exact_mod_cast hk
      omega
  · calc
      |(em.roundedMantissa : ℚ) * 2 ^ s - t * 2 ^ s| = |em.roundedMantissa - t| * 2 ^ s := by
        rw [← sub_mul, abs_mul, abs_of_pos hpos]
      _ ≤ 1 / 2 * 2 ^ s := mul_le_mul_of_nonneg_right hnear hpos.le
      _ = 2 ^ s / 2 := by ring

/-- The second shift: rounding up can fill one bit too many, and that bit is a zero. -/
theorem carry {k : ℕ} {s : ℤ} (hk : k ≤ 2 ^ 53) (hs : -1074 ≤ s) (hfull : s = -1074 ∨ 2 ^ 52 ≤ k) :
    let last := shiftToTargetExponent Format.binary64 k s .exact
    (last.1.mantissa : ℚ) * 2 ^ last.2 = k * 2 ^ s ∧ last.1.mantissa < 2 ^ 53 ∧ -1074 ≤ last.2 ∧
      (2 ^ 52 ≤ last.1.mantissa ∨ last.2 = -1074) := by
  intro last
  have hlast : last = shiftToExponent k s .exact (placeOf k s) := by
    rw [← targetExponent_eq]
    rfl
  rcases hk.lt_or_eq with hlt | rfl
  · have hlog : k.log2 ≤ 52 := by
      by_cases hzero : k = 0
      · rw [hzero, Nat.log2_zero]
        omega
      · exact Nat.lt_succ_iff.mp ((Nat.log2_lt hzero).mpr hlt)
    have hshift : (placeOf k s - s).toNat = 0 := by
      unfold placeOf
      omega
    have hkept : last = (⟨k, false, false⟩, s) := by
      rw [hlast, shiftToExponent, hshift]
      simp [ExtendedMantissa.ofMantissaAndAccuracy, HShiftRight.hShiftRight, Nat.repeat]
    rw [hkept]
    exact ⟨rfl, hlt, hs, hfull.symm⟩
  · have hshift : (placeOf (2 ^ 53) s - s).toNat = 1 := by
      rw [placeOf, Nat.log2_two_pow]
      omega
    have hhalved : last = (⟨2 ^ 52, false, false⟩, s + 1) := by
      rw [hlast, shiftToExponent, hshift]
      rfl
    rw [hhalved]
    refine ⟨?_, by norm_num, by omega, Or.inl le_rfl⟩
    rw [two_zpow_add]
    push_cast
    ring

/-- Mantissa and exponent after both shifts of a rounding. -/
def roundedTwice (m : ℕ) (e : ℤ) (accuracy : Accuracy) : ExtendedMantissa × ℤ :=
  let first := shiftToTargetExponent Format.binary64 m e accuracy
  shiftToTargetExponent Format.binary64 first.1.roundedMantissa first.2 .exact

theorem roundWithAccuracy_eq (sign : Sign) (m : ℕ) (e : ℤ) (accuracy : Accuracy) :
    roundWithAccuracy Format.binary64 sign m e accuracy =
      if h : (roundedTwice m e accuracy).1.mantissa = 0 then .zero sign
      else .finite sign (roundedTwice m e accuracy).1.mantissa (roundedTwice m e accuracy).2
        (Nat.pos_of_ne_zero h) := rfl

/-- A mantissa with enough bits is rounded to the grid of the exact value. -/
theorem rounded_roundWithAccuracy (sign : Sign) {m : ℕ} {e : ℤ} {accuracy : Accuracy} {t : ℚ}
    (ht : Stands (ExtendedMantissa.ofMantissaAndAccuracy m accuracy) t)
    (hbits : e ≤ -1074 ∨ 52 ≤ m.log2) :
    Rounded (signed sign (t * 2 ^ e))
      (roundWithAccuracy Format.binary64 sign m e accuracy) := by
  have hmantissa : (ExtendedMantissa.ofMantissaAndAccuracy m accuracy).mantissa = m := by
    rcases accuracy with _ | _ | _ | _ <;> rfl
  have hstep := ht.step (e := e)
  rw [hmantissa] at hstep
  -- The first shift goes to the grid of the exact value.
  set n := (placeOf m e - e).toNat with hn
  have hplace : e + n = placeOf m e := by
    unfold placeOf at hn ⊢
    omega
  set first := ExtendedMantissa.ofMantissaAndAccuracy m accuracy >>> n with hfirst
  have hvalue : t / 2 ^ n * 2 ^ (e + n) = t * 2 ^ e := by
    rw [add_comm, two_zpow_natCast_add]
    field_simp
  obtain ⟨hk, hfull, hrounds⟩ := (ht.shiftRight n).roundsTo (s := e + n) (by
    rw [hvalue, hplace]
    exact hstep hbits)
  rw [hvalue] at hrounds
  -- The second one does not change the number.
  have hleast : -1074 ≤ e + n := by
    unfold placeOf at hplace
    omega
  have hfirst' : shiftToTargetExponent Format.binary64 m e accuracy = (first, e + n) := by
    rw [shiftToTargetExponent, targetExponent_eq]
    rfl
  set last := roundedTwice m e accuracy with hlast'
  rw [roundedTwice, hfirst'] at hlast'
  obtain ⟨hlast, hmantissa, hexponent, hcanonical⟩ := carry hk hleast hfull
  rw [← hlast'] at hlast hmantissa hexponent hcanonical
  rw [roundWithAccuracy_eq]
  have hsigned := hrounds.signed sign
  rw [← hlast] at hsigned
  by_cases hzero : last.1.mantissa = 0
  · rw [dif_pos hzero]
    rw [hzero, Nat.cast_zero, zero_mul] at hsigned
    refine ⟨trivial, 0, rfl, ?_⟩
    cases sign with
    | positive => exact hsigned
    | negative =>
        rw [← neg_zero]
        exact hsigned
  · rw [dif_neg hzero]
    exact ⟨⟨hmantissa, hexponent, hcanonical⟩, _, rfl, hsigned⟩

/-! ## Normalisation -/

theorem log2_shiftLeft {m : ℕ} (hm : m ≠ 0) (n : ℕ) : (m <<< n).log2 = m.log2 + n := by
  induction n with
  | zero => rfl
  | succ n ih =>
      have hne : m <<< n ≠ 0 := by
        rw [Nat.shiftLeft_eq]
        positivity
      rw [Nat.shiftLeft_succ, Nat.log2_two_mul hne, ih]
      omega

theorem shiftLeft_value (m n : ℕ) (e : ℤ) :
    ((m <<< n : ℕ) : ℚ) * 2 ^ (e - n) = m * 2 ^ e := by
  have hpow : (2 : ℚ) ^ e = 2 ^ n * 2 ^ (e - n) := by
    rw [← two_zpow_natCast_add]
    congr 1
    omega
  rw [Nat.shiftLeft_eq, hpow]
  push_cast
  ring

/-- Before an exact result is rounded, zeros are added until it has 53 bits. -/
theorem rounded_round (sign : Sign) {m : ℕ} (hm : 0 < m) (e : ℤ) :
    Rounded (signed sign (m * 2 ^ e)) (UnpackedFloat.round Format.binary64 sign m e) := by
  set n := (e - placeOf m e).toNat with hn
  have hbits : e - n ≤ -1074 ∨ 52 ≤ (m <<< n).log2 := by
    rw [log2_shiftLeft hm.ne']
    unfold placeOf at hn
    omega
  have hrounded := rounded_roundWithAccuracy sign (Stands.exact (m <<< n)) hbits
  rw [shiftLeft_value] at hrounded
  have hround : UnpackedFloat.round Format.binary64 sign m e =
      roundWithAccuracy Format.binary64 sign (m <<< n) (e - n) .exact := by
    rw [UnpackedFloat.round, targetExponent_eq]
    rfl
  rw [hround]
  exact hrounded

theorem rounded_normalize (m : ℤ) (e : ℤ) (zeroSign : Sign) :
    Rounded (m * 2 ^ e) (normalize Format.binary64 m e zeroSign) := by
  rw [UnpackedFloat.normalize]
  rcases hcompare : compare m 0 with _ | _ | _
  · have hneg : m < 0 := Int.compare_eq_lt.mp hcompare
    have hrounded := rounded_round .negative (m := (-m).toNat) (by omega) e
    have hcast : (((-m).toNat : ℕ) : ℚ) = -m := by
      have hint : (((-m).toNat : ℕ) : ℤ) = -m := Int.toNat_of_nonneg (by omega)
      exact_mod_cast hint
    rw [hcast, signed, neg_mul, neg_neg] at hrounded
    exact hrounded
  · have hzero : m = 0 := Int.compare_eq_eq.mp hcompare
    rw [hzero, Int.cast_zero, zero_mul]
    exact ⟨trivial, 0, rfl, RoundsTo.zero⟩
  · have hpos : 0 < m := Int.compare_eq_gt.mp hcompare
    have hrounded := rounded_round .positive (m := m.toNat) (by omega) e
    have hcast : ((m.toNat : ℕ) : ℚ) = m := by
      have hint : ((m.toNat : ℕ) : ℤ) = m := Int.toNat_of_nonneg hpos.le
      exact_mod_cast hint
    rw [hcast] at hrounded
    exact hrounded

end FieldCalculus.Binary64
