import Mathlib.Algebra.Order.Floor.Semifield
import FieldCalculus.Number.FloatScalar
import FieldCalculus.Proofs.Binary64.Signs
/-!
# Whole numbers in binary64

Numbers of up to 53 bits are kept as they are, so counting up to `2 ^ 53` is exact, and the
whole units of a number are the integer part of its value.
-/

namespace FieldCalculus.Binary64

open Float.Model
open Float.Model.UnpackedFloat

/-! ## Rounding -/

theorem RoundsTo.eq_natCast {n : ℕ} {q : ℚ} (h : RoundsTo n q) (hn : n ≤ 2 ^ 53) : q = n := by
  obtain ⟨s, hstep, hgrid, hnear⟩ := h
  have habs : |(n : ℚ)| = n := abs_of_nonneg (Nat.cast_nonneg n)
  have hbound : |(n : ℚ)| ≤ 2 ^ (53 : ℤ) := by
    rw [habs]
    exact_mod_cast hn
  -- the place of the last bit is that of the ones or a finer one, except at `2 ^ 53` itself
  have hwhole : OnGrid s n := by
    rcases hstep.le_or_eq (by omega) hbound with hs | ⟨hs, hpow⟩
    · obtain ⟨k, hk⟩ := onGrid_pow (s := s) (t := 0) (by omega)
      refine ⟨n * k, ?_⟩
      rw [Int.cast_mul, Int.cast_natCast, mul_assoc, ← hk, zpow_zero, mul_one]
    · exact onGrid_of_abs_eq (by omega) hpow
  exact sub_eq_zero.mp ((hgrid.sub hwhole).eq_zero hnear)

theorem abs_natCast_le_pow {n : ℕ} (hn : n ≤ 2 ^ 53) : |(n : ℚ)| ≤ 2 ^ (1000 : ℤ) := by
  rw [abs_of_nonneg (Nat.cast_nonneg n)]
  calc
    (n : ℚ) ≤ 2 ^ (53 : ℤ) := by exact_mod_cast hn
    _ ≤ 2 ^ (1000 : ℤ) := two_zpow_le (by omega)

theorem Rounded.eq_natCast {n : ℕ} {u : UnpackedFloat} (h : Rounded n u) (hn : n ≤ 2 ^ 53) :
    Canonical u ∧ rational? u = some (n : ℚ) := by
  obtain ⟨hcanonical, q, hq, hrounds⟩ := h
  exact ⟨hcanonical, hrounds.eq_natCast hn ▸ hq⟩

/-- There is only one way to write a positive number. -/
theorem Canonical.eq_of_rational? {u v : UnpackedFloat} {q : ℚ} (hu : Canonical u)
    (hv : Canonical v) (hq : rational? u = some q) (hq' : rational? v = some q) (hpos : 0 < q) :
    u = v := by
  have hpositive : ∀ {w : UnpackedFloat}, rational? w = some q →
      ∃ m e hm, w = .finite .positive m e hm ∧ q = m * 2 ^ e := by
    intro w hw
    obtain ⟨s, rfl, rfl⟩ | ⟨s, m, e, hm, rfl, rfl⟩ := rational?_cases hw
    · exact absurd hpos (lt_irrefl 0)
    · cases s with
      | positive => exact ⟨m, e, hm, rfl, rfl⟩
      | negative => exact absurd hpos (not_lt.mpr (neg_nonpos.mpr (magnitude_pos hm e).le))
  obtain ⟨m, e, hm, rfl, hme⟩ := hpositive hq
  obtain ⟨n, k, hn, rfl, hnk⟩ := hpositive hq'
  have hcompare := compare_magnitudes hu.1 hv.1 hu.2.2 hv.2.2 hu.2.1 hv.2.1
  rw [← hme, ← hnk, compare_eq_iff_eq.mpr rfl, eq_comm, Ordering.then_eq_eq,
    compare_eq_iff_eq, compare_eq_iff_eq] at hcompare
  obtain ⟨rfl, rfl⟩ := hcompare
  rfl

/-! ## Counting -/

theorem hasValue_zero : HasValue 0.0 0 := rfl

theorem hasValue_one : HasValue 1.0 1 := by
  have h : (1.0 : Float).toModel.unpack =
      .finite .positive 4503599627370496 (-52) (by omega) := rfl
  have hvalue := hasValue_of_unpack h
  norm_num [signed] at hvalue
  exact hvalue

theorem hasValue_toFloat {w : UInt64} (hw : w.toNat ≤ 2 ^ 53) : HasValue w.toFloat w.toNat := by
  have hrounded : Rounded w.toNat
      (UnpackedFloat.normalize Format.binary64 w.toNat 0 .positive) := by
    simpa using rounded_normalize w.toNat 0 .positive
  obtain ⟨q, hq, hrounds⟩ := hrounded.hasValue (abs_natCast_le_pow hw)
  rw [hrounds.eq_natCast hw] at hq
  exact hq

theorem exists_natCast_eq_pack {n : ℕ} (hn : n ≤ 2 ^ 53) :
    ∃ u, (n : Float) = ⟨pack u⟩ ∧ Canonical u ∧ rational? u = some (n : ℚ) := by
  rcases hn.lt_or_eq with hlt | rfl
  · -- a word that is multiplied by a power of ten, here by one
    have hword : n.toUInt64.toNat = n := by
      simp
      omega
    have hsmall : n < 2 ^ 53 ∧ 0 ≤ 22 := ⟨hlt, by omega⟩
    have hinteger : HasValue n.toUInt64.toFloat n := by
      have hvalue := hasValue_toFloat (w := n.toUInt64) (by omega)
      rwa [hword] at hvalue
    have hproduct := rounded_mul (canonical_unpack _) (canonical_unpack _) hinteger hasValue_one
    rw [mul_one] at hproduct
    refine ⟨_, ?_, hproduct.eq_natCast hn⟩
    change Float.ofScientific n false 0 = _
    rw [Float.ofScientific, dif_pos hsmall]
    rfl
  · have hvalue : ((4503599627370496 : ℕ) : ℚ) * 2 ^ (1 : ℤ) = (2 ^ 53 : ℕ) := by norm_num
    exact ⟨.finite .positive 4503599627370496 1 (by omega), rfl,
      ⟨by omega, by omega, Or.inl (by omega)⟩, congrArg some hvalue⟩

theorem hasValue_natCast {n : ℕ} (hn : n ≤ 2 ^ 53) : HasValue (n : Float) n := by
  obtain ⟨u, hu, hcanonical, hq⟩ := exists_natCast_eq_pack hn
  rw [hu]
  exact hasValue_pack hcanonical (fits_of_bound hcanonical hq (abs_natCast_le_pow hn)) hq

theorem natCast_add_one {n : ℕ} (hn : n < 2 ^ 53) : (n : Float) + 1.0 = (n + 1 : ℕ) := by
  obtain ⟨u, hu, hcanonical, hq⟩ := exists_natCast_eq_pack (Nat.succ_le_of_lt hn)
  have hsum := rounded_add (canonical_unpack _) (canonical_unpack _) (hasValue_natCast hn.le)
    hasValue_one
  rw [← Nat.cast_one, ← Nat.cast_add] at hsum
  obtain ⟨hcanonical', hq'⟩ := hsum.eq_natCast hn
  have hpos : (0 : ℚ) < (n + 1 : ℕ) := by positivity
  rw [hu, ← hcanonical'.eq_of_rational? hcanonical hq' hq hpos]
  rfl

/-- A number above `2 ^ 53` is given its bits and then rounded. -/
theorem exists_natCast_eq_rounded {n : ℕ} (hn : 2 ^ 53 < n) :
    ∃ u, (n : Float) = ⟨pack u⟩ ∧ Rounded n u := by
  have hpos : 0 < n := by omega
  have hlarge : ¬ (n < 2 ^ 53 ∧ 0 ≤ 22) := by omega
  have hbits : (-53 : ℤ) + 0 ≤ -1074 ∨ 52 ≤ ((n <<< 53) * 1).log2 := by
    right
    rw [mul_one, log2_shiftLeft hpos.ne']
    omega
  have hrounded := rounded_roundWithAccuracy .positive (Stands.exact ((n <<< 53) * 1)) hbits
  have hvalue : (((n <<< 53) * 1 : ℕ) : ℚ) * 2 ^ ((-53 : ℤ) + 0) = n := by
    have hshift := shiftLeft_value n 53 0
    rw [zpow_zero, mul_one] at hshift
    rw [mul_one]
    exact hshift
  rw [hvalue] at hrounded
  have hwritten : UnpackedFloat.ofScientific Format.binary64 n 0 =
      roundWithAccuracy Format.binary64 .positive ((n <<< 53) * 1) ((-53 : ℤ) + 0) .exact := by
    have hexponents : (2 : ℤ) ^ Format.binary64.exponentBits = 2048 := rfl
    rw [UnpackedFloat.ofScientific, dif_neg hpos.ne', if_neg (by omega), if_neg (by omega),
      if_pos le_rfl]
    rfl
  refine ⟨_, ?_, hrounded⟩
  change Float.ofScientific n false 0 = _
  rw [Float.ofScientific, dif_neg hlarge, ← hwritten]
  rfl

/-- A natural number that some binary64 number has as its value is kept as it is. -/
theorem HasValue.natCast {x : Float} {n : ℕ} (h : HasValue x n) : HasValue (n : Float) n := by
  rcases le_or_gt n (2 ^ 53) with hle | hgt
  · exact hasValue_natCast hle
  · obtain ⟨u, hu, hcanonical, q, hq, hrounds⟩ := exists_natCast_eq_rounded hgt
    have hx : Canonical x.toModel.unpack := canonical_unpack _
    obtain ⟨_, q', hq', hexact⟩ := rounded_of_canonical hx h
    obtain rfl : (n : ℚ) = q' := Option.some.inj (h.symm.trans hq')
    obtain rfl := hrounds.eq_of_refl hexact
    have hpos : (0 : ℚ) < n := by exact_mod_cast (Nat.zero_le _).trans_lt hgt
    -- both are the one way to write the number, and `x` shows that it fits
    obtain rfl := hcanonical.eq_of_rational? hx hq h hpos
    rw [hu]
    exact hasValue_pack hx (fits_unpack _) h

/-! ## Whole units -/

def isNegative : Sign → Bool
  | .negative => true
  | .positive => false

/-- What a number stands for, as its unpacked form has it. -/
def Parts.ofUnpacked : UnpackedFloat → Parts
  | .notANumber => .undefined
  | .infinity s => .infinite (isNegative s)
  | .zero s => .finite (isNegative s) 0 minExponent
  | .finite s m e _ => .finite (isNegative s) m e

theorem isNegative_unpackSign (b : BitVec 64) :
    isNegative (Sign.ofBitVec (@unpackSign Format.binary64 b)) = decide (2 ^ 63 ≤ b.toNat) := by
  have hbit : (@unpackSign Format.binary64 b).toNat = b.toNat / 2 ^ 63 % 2 := by
    change b.toNat >>> 63 % 2 ^ 1 = _
    rw [Nat.shiftRight_eq_div_pow, pow_one]
  have hlt : b.toNat < 2 ^ 64 := b.isLt
  rcases BitVec.eq_zero_or_eq_one (@unpackSign Format.binary64 b) with hs | hs <;>
    rw [hs] at hbit ⊢
  · have hle : ¬ 2 ^ 63 ≤ b.toNat := by
      rw [BitVec.toNat_zero] at hbit
      omega
    rw [decide_eq_false hle]
    rfl
  · have hle : 2 ^ 63 ≤ b.toNat := by
      rw [BitVec.toNat_one one_pos] at hbit
      omega
    rw [decide_eq_true hle]
    rfl

/-- Reading the fields as numbers gives what they stand for. -/
theorem Stored.ofUnpacked_eq {s : Sign} {exponent : BitVec 11} {mantissa : BitVec 52}
    {u : UnpackedFloat} (h : Stored s exponent mantissa u) :
    Parts.ofUnpacked u =
      if exponent.toNat = 2047 then
        if mantissa.toNat = 0 then .infinite (isNegative s) else .undefined
      else if exponent.toNat = 0 then .finite (isNegative s) mantissa.toNat minExponent
      else .finite (isNegative s) (mantissa.toNat + 2 ^ 52) ((exponent.toNat : ℕ) - 1075) := by
  cases h with
  | infinite hexponent hmantissa =>
      rw [hexponent, hmantissa]
      rfl
  | undefined hexponent hmantissa =>
      have hne : mantissa.toNat ≠ 0 := fun hzero => hmantissa (BitVec.eq_of_toNat_eq hzero)
      have hall : exponent.toNat = 2047 := by
        rw [hexponent]
        rfl
      rw [if_pos hall, if_neg hne]
      rfl
  | zero hexponent hmantissa =>
      rw [hexponent, hmantissa]
      rfl
  | subnormal hexponent =>
      rw [hexponent]
      rfl
  | normal hlow hhigh =>
      rw [if_neg hhigh, if_neg hlow, Nat.add_comm mantissa.toNat]
      rfl

theorem parts_eq (x : Float) : parts x = .ofUnpacked x.toModel.unpack := by
  have hmantissa : (@unpackMantissa Format.binary64 x.toBits.toBitVec).toNat =
      x.toBits.toNat % 2 ^ 52 := by
    change x.toBits.toNat >>> 0 % 2 ^ 52 = _
    rw [Nat.shiftRight_zero]
  have hexponent : (@unpackExponent Format.binary64 x.toBits.toBitVec).toNat =
      x.toBits.toNat / 2 ^ 52 % 2 ^ 11 := by
    change x.toBits.toNat >>> 52 % 2 ^ 11 = _
    rw [Nat.shiftRight_eq_div_pow]
  change parts x = Parts.ofUnpacked (UnpackedFloat.unpack Format.binary64 x.toBits.toBitVec)
  rw [(stored_unpack _).ofUnpacked_eq, hmantissa, hexponent, isNegative_unpackSign]
  rfl

/-- The value of a number that is not negative settles how it is written. -/
theorem HasValue.shortest_eq {x y : Float} {q : ℚ} (hx : HasValue x q)
    (hy : HasValue y q) (hq : 0 ≤ q) : Notation.shortest x = Notation.shortest y := by
  rcases hq.eq_or_lt with rfl | hpos
  · have hzero : ∀ {z : Float}, HasValue z 0 → Notation.shortest z = "0" := by
      intro z hz
      obtain ⟨s, hz, -⟩ | ⟨s, m, e, hm, hz, hvalue⟩ := rational?_cases hz
      · rw [Notation.shortest, parts_eq, hz]
        rfl
      · have hmagnitude := magnitude_pos hm e
        cases s <;> simp only [signed] at hvalue <;> linarith
    rw [hzero hx, hzero hy]
  · have hunpacked : x.toModel.unpack = y.toModel.unpack :=
      (canonical_unpack _).eq_of_rational? (canonical_unpack _) hx hy hpos
    rw [Notation.shortest, Notation.shortest, parts_eq, parts_eq, hunpacked]

/-- Shifting a mantissa to the place of the ones cuts the fraction off. -/
theorem shifted_eq_floor (m : ℕ) (e : ℤ) :
    (if 0 ≤ e then m * 2 ^ e.toNat else m / 2 ^ (-e).toNat) = ⌊(m : ℚ) * 2 ^ e⌋₊ := by
  split
  · next he =>
    obtain ⟨k, rfl⟩ := Int.eq_ofNat_of_zero_le he
    have hwhole : (m : ℚ) * 2 ^ (k : ℤ) = (m * 2 ^ k : ℕ) := by
      push_cast
      rw [zpow_natCast]
    rw [hwhole, Nat.floor_natCast, Int.toNat_natCast]
  · next he =>
    obtain ⟨k, hk⟩ := Int.eq_ofNat_of_zero_le (show 0 ≤ -e by omega)
    obtain rfl : e = -k := by omega
    have hquotient : (m : ℚ) * 2 ^ (-k : ℤ) = m / (2 ^ k : ℕ) := by
      push_cast
      rw [zpow_neg, zpow_natCast, div_eq_mul_inv]
    rw [hquotient, Nat.floor_div_eq_div, neg_neg, Int.toNat_natCast]

theorem HasValue.units?_eq {x : Float} {q : ℚ} (h : HasValue x q) : units? x = some ⌊q⌋₊ := by
  rw [units?, parts_eq]
  obtain ⟨s, hx, rfl⟩ | ⟨s, m, e, hm, hx, rfl⟩ := rational?_cases h
  · rw [hx, Nat.floor_zero]
    cases s with
    | negative => rfl
    | positive => exact congrArg some (Nat.zero_div _)
  · rw [hx]
    cases s with
    | negative =>
        rw [signed, Nat.floor_of_nonpos (neg_nonpos.mpr (magnitude_pos hm e).le)]
        rfl
    | positive => exact congrArg some (shifted_eq_floor m e)

/-- A natural number counts as many rounds. -/
theorem HasValue.rounds_eq {x : Float} {n : ℕ} (h : HasValue x n) : Scalar.rounds x = n := by
  have hunits : Scalar.units? x = some n := by
    change units? x = _
    rw [h.units?_eq, Nat.floor_natCast]
  have hdone : ¬ (n : Float) < x := by
    rw [h.natCast.lt_iff h]
    exact lt_irrefl _
  rw [Scalar.rounds, hunits]
  exact if_neg hdone

theorem units?_of_infinite {x : Float} (hinfinite : x.isFinite = false) (hpos : 0.0 < x) :
    units? x = none := by
  change decide ((0.0 : Float).toModel < x.toModel) = true at hpos
  rw [decide_eq_true_iff] at hpos
  change (((0.0 : Float).toModel.unpack).compare x.toModel.unpack == some .lt) = true at hpos
  change x.toModel.unpack.isFinite = false at hinfinite
  rw [units?, parts_eq]
  cases hx : x.toModel.unpack with
  | infinity s =>
      rw [hx] at hpos
      cases s with
      | negative => cases hpos
      | positive => rfl
  | notANumber =>
      rw [hx] at hpos
      cases hpos
  | zero | finite =>
      rw [hx] at hinfinite
      cases hinfinite

end FieldCalculus.Binary64
