import FieldCalculus.Proofs.Binary64.Rounding
/-!
# The values of binary64 numbers

A finite number has a rational value.  Numbers are kept in 64 bits, and what has been rounded
to 53 bits loses nothing there as long as its exponent fits.
-/

namespace FieldCalculus.Binary64

open Float.Model
open Float.Model.UnpackedFloat

/-- The number is finite and has this value. -/
def HasValue (x : Float) (q : ℚ) : Prop :=
  rational? x.toModel.unpack = some q

/-- The exponent can be kept in 11 bits. -/
def Fits : UnpackedFloat → Prop
  | .finite _ _ e _ => e ≤ 971
  | _ => True

/-! ## Bits -/

theorem toNat_implicit (mantissa : BitVec 52) :
    (1#1 ++ mantissa).toNat = 2 ^ 52 + mantissa.toNat := by
  have hlt := mantissa.isLt
  rw [BitVec.toNat_append, ← Nat.shiftLeft_add_eq_or_of_lt hlt]
  rfl

/-- The number that the three fields of a word stand for. -/
def ofBitFields (s : Sign) (exponent : BitVec 11) (mantissa : BitVec 52) : UnpackedFloat :=
  if exponent = -1#11 then
    if mantissa = 0#52 then .infinity s else .notANumber
  else if exponent = 0#11 then
    if h : mantissa = 0#52 then .zero s
    else
      .finite s mantissa.toNat ((exponent.toNat : ℤ) - 1075 + 1)
        (Nat.pos_of_ne_zero fun hzero => h (BitVec.eq_of_toNat_eq hzero))
  else
    .finite s (1#1 ++ mantissa).toNat ((exponent.toNat : ℤ) - 1075)
      (by rw [toNat_implicit]; omega)

theorem unpack_eq_ofBitFields (b : BitVec Format.binary64.numBits) :
    UnpackedFloat.unpack Format.binary64 b =
      ofBitFields (Sign.ofBitVec (unpackSign b)) (unpackExponent b) (unpackMantissa b) := rfl

/-- The sign has the first bit to itself. -/
theorem sign_packComponents (s : Sign) (exponent : BitVec 11) (mantissa : BitVec 52) :
    Sign.ofBitVec (unpackSign (packComponents Format.binary64 s exponent mantissa)) = s := by
  have hbit : unpackSign (packComponents Format.binary64 s exponent mantissa) = s.toBitVec := by
    change (s.toBitVec ++ exponent ++ mantissa).extractLsb' 63 1 = s.toBitVec
    rw [BitVec.extractLsb'_append_eq_of_le (by omega),
      BitVec.extractLsb'_append_eq_of_le (by omega)]
    exact BitVec.extractLsb'_eq_self
  rw [hbit]
  cases s <;> rfl

theorem unpack_packComponents (s : Sign) (exponent : BitVec 11) (mantissa : BitVec 52) :
    UnpackedFloat.unpack Format.binary64 (packComponents Format.binary64 s exponent mantissa) =
      ofBitFields s exponent mantissa := by
  rw [unpack_eq_ofBitFields, sign_packComponents, unpackExponent_packComponents,
    unpackMantissa_packComponents]

theorem pack_finite (s : Sign) (m : ℕ) (e : ℤ) (hm : 0 < m) :
    UnpackedFloat.pack Format.binary64 (.finite s m e hm) =
      if 2 ^ 11 ≤ (e + 1023 + 52).toNat + 1 then packedInfinity Format.binary64 s
      else if m.log2 + 1 = 53 then
        packComponents Format.binary64 s (BitVec.ofNat 11 (e + 1023 + 52).toNat)
          (BitVec.ofNat 52 m)
      else packComponents Format.binary64 s 0#11 (BitVec.ofNat 52 m) := rfl

theorem finite_congr {s : Sign} {m n : ℕ} {e k : ℤ} {hm : 0 < m} {hn : 0 < n} (hmn : m = n)
    (hek : e = k) : UnpackedFloat.finite s m e hm = .finite s n k hn := by
  subst hmn hek
  rfl

/-- What the fields of a word say, case by case, of the number they stand for. -/
inductive Stored (s : Sign) (exponent : BitVec 11) (mantissa : BitVec 52) : UnpackedFloat → Prop
  | infinite (hexponent : exponent = -1#11) (hmantissa : mantissa = 0#52) :
      Stored s exponent mantissa (.infinity s)
  | undefined (hexponent : exponent = -1#11) (hmantissa : mantissa ≠ 0#52) :
      Stored s exponent mantissa .notANumber
  | zero (hexponent : exponent = 0#11) (hmantissa : mantissa = 0#52) :
      Stored s exponent mantissa (.zero s)
  | subnormal (hexponent : exponent = 0#11) (hpos : 0 < mantissa.toNat) :
      Stored s exponent mantissa (.finite s mantissa.toNat (-1074) hpos)
  | normal (hlow : exponent.toNat ≠ 0) (hhigh : exponent.toNat ≠ 2047)
      (hpos : 0 < 2 ^ 52 + mantissa.toNat) :
      Stored s exponent mantissa (.finite s (2 ^ 52 + mantissa.toNat) (exponent.toNat - 1075) hpos)

theorem stored_ofBitFields (s : Sign) (exponent : BitVec 11) (mantissa : BitVec 52) :
    Stored s exponent mantissa (ofBitFields s exponent mantissa) := by
  have hword : ∀ {w : ℕ} {b c : BitVec w}, b ≠ c → b.toNat ≠ c.toNat := fun h hnat =>
    h (BitVec.eq_of_toNat_eq hnat)
  by_cases hinfinite : exponent = -1#11
  · rw [ofBitFields, if_pos hinfinite]
    by_cases hmantissa : mantissa = 0#52
    · rw [if_pos hmantissa]
      exact .infinite hinfinite hmantissa
    · rw [if_neg hmantissa]
      exact .undefined hinfinite hmantissa
  rw [ofBitFields, if_neg hinfinite]
  by_cases hleast : exponent = 0#11
  · rw [if_pos hleast]
    by_cases hmantissa : mantissa = 0#52
    · rw [dif_pos hmantissa]
      exact .zero hleast hmantissa
    · have hpos : 0 < mantissa.toNat := Nat.pos_of_ne_zero (hword hmantissa)
      have hbiased : UnpackedFloat.finite s mantissa.toNat (exponent.toNat - 1075 + 1) hpos =
          .finite s mantissa.toNat (-1074) hpos := by
        rw [hleast]
        rfl
      rw [dif_neg hmantissa, hbiased]
      exact .subnormal hleast hpos
  · have hpos : 0 < 2 ^ 52 + mantissa.toNat := by omega
    have hfull := toNat_implicit mantissa
    have hhidden : UnpackedFloat.finite s (1#1 ++ mantissa).toNat (exponent.toNat - 1075)
        (hfull ▸ hpos) = .finite s (2 ^ 52 + mantissa.toNat) (exponent.toNat - 1075) hpos :=
      finite_congr hfull rfl
    rw [if_neg hleast, hhidden]
    exact .normal (hword hleast) (hword hinfinite) hpos

theorem stored_unpack (b : BitVec Format.binary64.numBits) :
    Stored (Sign.ofBitVec (unpackSign b)) (unpackExponent b) (unpackMantissa b)
      (UnpackedFloat.unpack Format.binary64 b) := by
  rw [unpack_eq_ofBitFields]
  exact stored_ofBitFields _ _ _

section Stored

variable {s : Sign} {exponent : BitVec 11} {mantissa : BitVec 52} {u : UnpackedFloat}

theorem Stored.canonical (h : Stored s exponent mantissa u) : Canonical u := by
  have hmantissa := mantissa.isLt
  cases h with
  | infinite | undefined | zero => trivial
  | subnormal => exact ⟨by omega, le_rfl, Or.inr rfl⟩
  | normal => exact ⟨by omega, by omega, Or.inl (by omega)⟩

theorem Stored.fits (h : Stored s exponent mantissa u) : Fits u := by
  have hexponent := exponent.isLt
  cases h with
  | infinite | undefined | zero => trivial
  | subnormal =>
      change (-1074 : ℤ) ≤ 971
      omega
  | normal =>
      change (exponent.toNat : ℤ) - 1075 ≤ 971
      omega

end Stored

theorem canonical_unpack (b : BitVec Format.binary64.numBits) :
    Canonical (UnpackedFloat.unpack Format.binary64 b) :=
  (stored_unpack b).canonical

theorem fits_unpack (b : BitVec Format.binary64.numBits) :
    Fits (UnpackedFloat.unpack Format.binary64 b) :=
  (stored_unpack b).fits

/-- A normal number is written without its first bit. -/
theorem ofBitFields_normal {s : Sign} {m biased : ℕ} {hm : 0 < m} (hlow : 2 ^ 52 ≤ m)
    (hhigh : m < 2 ^ 53) (hpos : 0 < biased) (hfits : biased < 2047) :
    ofBitFields s (BitVec.ofNat 11 biased) (BitVec.ofNat 52 m) =
      .finite s m (biased - 1075) hm := by
  have hexponent : (BitVec.ofNat 11 biased).toNat = biased := by
    rw [BitVec.toNat_ofNat, Nat.mod_eq_of_lt (by omega)]
  have hinfinite : BitVec.ofNat 11 biased ≠ -1#11 := by
    intro h
    have hall : biased = 2047 := by
      rw [← hexponent, h]
      rfl
    omega
  have hsubnormal : BitVec.ofNat 11 biased ≠ 0#11 := by
    intro h
    have hnone : biased = 0 := by
      rw [← hexponent, h]
      rfl
    omega
  have hmantissa : (1#1 ++ BitVec.ofNat 52 m).toNat = m := by
    rw [toNat_implicit, BitVec.toNat_ofNat]
    omega
  rw [ofBitFields, if_neg hinfinite, if_neg hsubnormal]
  exact finite_congr hmantissa (by rw [hexponent])

/-- A subnormal number has the least exponent and no hidden bit. -/
theorem ofBitFields_subnormal {s : Sign} {m : ℕ} {hm : 0 < m} (hlt : m < 2 ^ 52) :
    ofBitFields s 0#11 (BitVec.ofNat 52 m) = .finite s m (-1074) hm := by
  have hmantissa : (BitVec.ofNat 52 m).toNat = m := by
    rw [BitVec.toNat_ofNat, Nat.mod_eq_of_lt hlt]
  have hne : BitVec.ofNat 52 m ≠ 0#52 := by
    intro h
    have hzero : m = 0 := by
      rw [← hmantissa, h]
      rfl
    omega
  have hinfinite : (0#11) ≠ -1#11 := by decide
  rw [ofBitFields, if_neg hinfinite, if_pos rfl, dif_neg hne]
  exact finite_congr hmantissa rfl

theorem unpack_pack {s : Sign} {m : ℕ} {e : ℤ} {hm : 0 < m}
    (hcanonical : Canonical (.finite s m e hm)) (hfits : Fits (.finite s m e hm)) :
    (pack (.finite s m e hm)).unpack = .finite s m e hm := by
  have he : e ≤ 971 := hfits
  obtain ⟨hlt, hleast, hfull⟩ := hcanonical
  obtain ⟨biased, hbiased⟩ : ∃ n : ℕ, (n : ℤ) = e + 1075 := ⟨(e + 1075).toNat, by omega⟩
  have hkept : (e + 1023 + 52).toNat = biased := by omega
  have hroom : ¬ 2 ^ 11 ≤ biased + 1 := by omega
  change UnpackedFloat.unpack Format.binary64 (UnpackedFloat.pack Format.binary64 _) = _
  rw [pack_finite, hkept, if_neg hroom]
  by_cases hnormal : 2 ^ 52 ≤ m
  · have hlog : m.log2 + 1 = 53 := by
      rw [(Nat.log2_eq_iff hm.ne').mpr ⟨hnormal, hlt⟩]
    have he' : e = (biased : ℤ) - 1075 := by omega
    rw [if_pos hlog, unpack_packComponents,
      ofBitFields_normal hnormal hlt (by omega) (by omega), ← he']
  · have hlog : ¬ m.log2 + 1 = 53 := by
      have hlow := (Nat.log2_lt hm.ne').mpr (not_le.mp hnormal)
      omega
    rw [if_neg hlog, unpack_packComponents, ofBitFields_subnormal (not_le.mp hnormal),
      hfull.resolve_left hnormal]

/-! ## Values that are kept -/

theorem magnitude_pos {m : ℕ} (hm : 0 < m) (e : ℤ) : (0 : ℚ) < m * 2 ^ e := by positivity

theorem hasValue_pack {u : UnpackedFloat} {q : ℚ} (hcanonical : Canonical u) (hfits : Fits u)
    (hq : rational? u = some q) : HasValue ⟨pack u⟩ q := by
  obtain ⟨s, rfl, rfl⟩ | ⟨s, m, e, hm, rfl, rfl⟩ := rational?_cases hq
  · have hkept : (pack (.zero s)).unpack = .zero s := by
      cases s <;> rfl
    rw [HasValue, hkept]
    exact hq
  · rw [HasValue, unpack_pack hcanonical hfits]
    exact hq

/-- Numbers far below the greatest ones can be kept. -/
theorem fits_of_bound {u : UnpackedFloat} {q : ℚ} (hcanonical : Canonical u)
    (hq : rational? u = some q) (hbound : |q| ≤ 2 ^ (1000 : ℤ)) : Fits u := by
  obtain ⟨s, rfl, rfl⟩ | ⟨s, m, e, hm, rfl, rfl⟩ := rational?_cases hq
  · trivial
  · by_contra hlarge
    have he : 971 < e := not_le.mp hlarge
    have hfull : (2 : ℚ) ^ 52 ≤ m := by
      exact_mod_cast hcanonical.2.2.resolve_right (by omega)
    rw [abs_signed, abs_of_pos (magnitude_pos hm e)] at hbound
    have hpow : (2 : ℚ) ^ ((52 : ℕ) + e) ≤ 2 ^ (1000 : ℤ) :=
      calc
        (2 : ℚ) ^ ((52 : ℕ) + e) = 2 ^ 52 * 2 ^ e := two_zpow_natCast_add 52 e
        _ ≤ m * 2 ^ e := mul_le_mul_of_nonneg_right hfull (two_zpow_pos e).le
        _ ≤ 2 ^ (1000 : ℤ) := hbound
    have hexponent := le_of_two_zpow_le hpow
    omega

theorem Rounded.hasValue {v : ℚ} {u : UnpackedFloat} (h : Rounded v u)
    (hv : |v| ≤ 2 ^ (1000 : ℤ)) : ∃ q, HasValue ⟨pack u⟩ q ∧ RoundsTo v q := by
  obtain ⟨hcanonical, q, hq, hrounds⟩ := h
  have hfits := fits_of_bound hcanonical hq (hrounds.abs_le_pow (by omega) hv)
  exact ⟨q, hasValue_pack hcanonical hfits hq, hrounds⟩

theorem hasValue_of_unpack {x : Float} {s : Sign} {m : ℕ} {e : ℤ} {hm : 0 < m}
    (h : x.toModel.unpack = .finite s m e hm) : HasValue x (signed s (m * 2 ^ e)) := by
  rw [HasValue, h]
  rfl

/-! ## Order -/

/-- Of two positive numbers the one with the greater exponent is greater, and of two with one
exponent the one with the greater mantissa. -/
theorem compare_magnitudes {m n : ℕ} {e k : ℤ} (hm : m < 2 ^ 53) (hn : n < 2 ^ 53)
    (hm' : 2 ^ 52 ≤ m ∨ e = -1074) (hn' : 2 ^ 52 ≤ n ∨ k = -1074) (he : -1074 ≤ e)
    (hk : -1074 ≤ k) :
    compare ((m : ℚ) * 2 ^ e) (n * 2 ^ k) = (compare e k).then (compare m n) := by
  have hbelow : ∀ {m n : ℕ} {e k : ℤ}, m < 2 ^ 53 → (2 ^ 52 ≤ n ∨ k = -1074) → -1074 ≤ e →
      e < k → (m : ℚ) * 2 ^ e < n * 2 ^ k := by
    intro m n e k hm hn he hlt
    have hfull : (2 : ℚ) ^ 52 ≤ n := by exact_mod_cast hn.resolve_right (by omega)
    have hm' : (m : ℚ) < 2 ^ 53 := by exact_mod_cast hm
    calc
      (m : ℚ) * 2 ^ e < 2 ^ 53 * 2 ^ e := mul_lt_mul_of_pos_right hm' (two_zpow_pos e)
      _ = 2 ^ (((53 : ℕ) : ℤ) + e) := (two_zpow_natCast_add 53 e).symm
      _ ≤ 2 ^ (((52 : ℕ) : ℤ) + k) := two_zpow_le (by push_cast; omega)
      _ = 2 ^ 52 * 2 ^ k := two_zpow_natCast_add 52 k
      _ ≤ n * 2 ^ k := mul_le_mul_of_nonneg_right hfull (two_zpow_pos k).le
  rcases lt_trichotomy e k with hlt | rfl | hgt
  · rw [compare_lt_iff_lt.mpr hlt, compare_lt_iff_lt.mpr (hbelow hm hn' he hlt)]
    rfl
  · have hpos := two_zpow_pos e
    have hsame : compare ((m : ℚ) * 2 ^ e) (n * 2 ^ e) = compare m n := by
      rcases lt_trichotomy m n with hlt | rfl | hgt
      · rw [compare_lt_iff_lt.mpr hlt, compare_lt_iff_lt]
        exact mul_lt_mul_of_pos_right (by exact_mod_cast hlt) hpos
      · rw [compare_eq_iff_eq.mpr rfl, compare_eq_iff_eq.mpr rfl]
      · rw [compare_gt_iff_gt.mpr hgt, compare_gt_iff_gt]
        exact mul_lt_mul_of_pos_right (by exact_mod_cast hgt) hpos
    rw [hsame, compare_eq_iff_eq.mpr rfl]
    rfl
  · rw [compare_gt_iff_gt.mpr hgt, compare_gt_iff_gt.mpr (hbelow hn hm' hk hgt)]
    rfl

theorem compare_neg_neg (a b : ℚ) : compare (-a) (-b) = (compare a b).swap := by
  rcases lt_trichotomy a b with hlt | rfl | hgt
  · rw [compare_lt_iff_lt.mpr hlt, compare_gt_iff_gt.mpr (neg_lt_neg hlt)]
    rfl
  · rw [compare_eq_iff_eq.mpr rfl, compare_eq_iff_eq.mpr rfl]
    rfl
  · rw [compare_gt_iff_gt.mpr hgt, compare_lt_iff_lt.mpr (neg_lt_neg hgt)]
    rfl

/-- Canonical numbers are compared as their values are. -/
theorem compare_eq {u v : UnpackedFloat} {a b : ℚ} (hu : Canonical u) (hv : Canonical v)
    (ha : rational? u = some a) (hb : rational? v = some b) :
    u.compare v = some (compare a b) := by
  obtain ⟨s, rfl, rfl⟩ | ⟨s, m, e, hm, rfl, rfl⟩ := rational?_cases ha
  · obtain ⟨t, rfl, rfl⟩ | ⟨t, n, k, hn, rfl, rfl⟩ := rational?_cases hb
    · rw [compare_eq_iff_eq.mpr rfl]
      rfl
    · have hpos := magnitude_pos hn k
      cases t with
      | positive =>
          rw [signed, compare_lt_iff_lt.mpr hpos]
          rfl
      | negative =>
          rw [signed, compare_gt_iff_gt.mpr (neg_lt_zero.mpr hpos)]
          rfl
  · have hpos := magnitude_pos hm e
    obtain ⟨t, rfl, rfl⟩ | ⟨t, n, k, hn, rfl, rfl⟩ := rational?_cases hb
    · cases s with
      | positive =>
          rw [signed, compare_gt_iff_gt.mpr hpos]
          rfl
      | negative =>
          rw [signed, compare_lt_iff_lt.mpr (neg_lt_zero.mpr hpos)]
          rfl
    · have hpos' := magnitude_pos hn k
      have hmagnitudes := compare_magnitudes hu.1 hv.1 hu.2.2 hv.2.2 hu.2.1 hv.2.1
      cases s <;> cases t
      · rw [signed, signed, compare_neg_neg, hmagnitudes]
        rfl
      · rw [signed, signed, compare_lt_iff_lt.mpr (by linarith)]
        rfl
      · rw [signed, signed, compare_gt_iff_gt.mpr (by linarith)]
        rfl
      · rw [signed, signed, hmagnitudes]
        rfl

section Order

variable {x y : Float} {a b : ℚ}

theorem HasValue.compare_eq (hx : HasValue x a) (hy : HasValue y b) :
    x.toModel.unpack.compare y.toModel.unpack = some (compare a b) :=
  Binary64.compare_eq (canonical_unpack _) (canonical_unpack _) hx hy

theorem HasValue.lt_iff (hx : HasValue x a) (hy : HasValue y b) : x < y ↔ a < b := by
  have hcompare := hx.compare_eq hy
  change decide (x.toModel < y.toModel) = true ↔ _
  rw [decide_eq_true_iff]
  change (x.toModel.unpack.compare y.toModel.unpack == some .lt) = true ↔ _
  rw [hcompare, beq_iff_eq, Option.some.injEq, compare_lt_iff_lt]

theorem le_iff_compare :
    x ≤ y ↔ (x.toModel.unpack.compare y.toModel.unpack).any (·.isLE) = true := by
  change decide (x.toModel ≤ y.toModel) = true ↔ _
  rw [decide_eq_true_iff]
  rfl

theorem HasValue.le_iff (hx : HasValue x a) (hy : HasValue y b) : x ≤ y ↔ a ≤ b := by
  rw [le_iff_compare, hx.compare_eq hy, Option.any_some, ← Ordering.ne_gt_iff_isLE]
  exact compare_le_iff_le

theorem HasValue.beq_iff (hx : HasValue x a) (hy : HasValue y b) : (x == y) = true ↔ a = b := by
  change (x.toModel.unpack.compare y.toModel.unpack == some .eq) = true ↔ _
  rw [hx.compare_eq hy, beq_iff_eq, Option.some.injEq, compare_eq_iff_eq]

end Order

end FieldCalculus.Binary64
