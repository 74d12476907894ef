import FieldCalculus.Proofs.Binary64.Arithmetic
/-!
# Signs of binary64 numbers

A result may be too great to be kept, and is infinite then, but it has its sign all the same.
So sums of squares and their square roots are defined whatever is squared.
-/

namespace FieldCalculus.Binary64

open Float.Model
open Float.Model.UnpackedFloat

/-- A defined number of this sign, or a zero. -/
def OfSign (s : Sign) : UnpackedFloat → Prop
  | .infinity t | .finite t _ _ _ => t = s
  | .zero _ => True
  | .notANumber => False

theorem ofSign_of_rational {u : UnpackedFloat} {q : ℚ} (h : rational? u = some q) :
    ∃ s, OfSign s u := by
  obtain ⟨s, rfl, rfl⟩ | ⟨s, m, e, hm, rfl, rfl⟩ := rational?_cases h
  · exact ⟨s, trivial⟩
  · exact ⟨s, rfl⟩

/-! ## Signs are kept -/

theorem Stored.ofSign {s : Sign} {exponent : BitVec 11} {mantissa : BitVec 52}
    {u : UnpackedFloat} (hstored : Stored s exponent mantissa u)
    (h : exponent = -1#11 → mantissa = 0#52) : OfSign s u := by
  cases hstored with
  | undefined hexponent hmantissa => exact absurd (h hexponent) hmantissa
  | zero => trivial
  | infinite | subnormal | normal => rfl

theorem ofSign_pack {s : Sign} {u : UnpackedFloat} (h : OfSign s u) :
    OfSign s (pack u).unpack := by
  cases u with
  | notANumber => cases h
  | infinity t =>
      cases h
      have hkept : (pack (.infinity s)).unpack = .infinity s := by
        cases s <;> rfl
      rw [hkept]
      rfl
  | zero t =>
      have hkept : (pack (.zero t)).unpack = .zero t := by
        cases t <;> rfl
      rw [hkept]
      trivial
  | finite t m e hm =>
      cases h
      change OfSign s (UnpackedFloat.unpack Format.binary64 (UnpackedFloat.pack Format.binary64 _))
      rw [pack_finite]
      split
      · change OfSign s (UnpackedFloat.unpack Format.binary64
          (packComponents Format.binary64 s (-1#11) 0#52))
        rw [unpack_packComponents]
        exact (stored_ofBitFields s _ _).ofSign fun _ => rfl
      · next hroom =>
        split
        · rw [unpack_packComponents]
          apply (stored_ofBitFields s _ _).ofSign
          intro hall
          have hbiased := congrArg BitVec.toNat hall
          rw [BitVec.toNat_ofNat] at hbiased
          have hlast : (-1#11).toNat = 2047 := rfl
          omega
        · rw [unpack_packComponents]
          exact (stored_ofBitFields s _ _).ofSign nofun

theorem ofSign_roundWithAccuracy (s : Sign) (m : ℕ) (e : ℤ) (accuracy : Accuracy) :
    OfSign s (roundWithAccuracy Format.binary64 s m e accuracy) := by
  by_cases hzero : (roundedTwice m e accuracy).1.mantissa = 0
  · rw [roundWithAccuracy_eq, dif_pos hzero]
    trivial
  · rw [roundWithAccuracy_eq, dif_neg hzero]
    rfl

/-! ## Sums of squares -/

theorem ofSign_mul_self {s : Sign} {u : UnpackedFloat} (h : OfSign s u) :
    OfSign .positive (UnpackedFloat.mul Format.binary64 u u) := by
  have hsquare : ∀ t : Sign, t * t = .positive := by
    intro t
    cases t <;> rfl
  cases u with
  | notANumber => cases h
  | infinity t => exact hsquare t
  | zero t => trivial
  | finite t m e hm =>
      have hproduct : UnpackedFloat.mul Format.binary64 (.finite t m e hm) (.finite t m e hm) =
          roundWithAccuracy Format.binary64 (t * t) (m * m) (e + e) .exact := rfl
      rw [hproduct, hsquare]
      exact ofSign_roundWithAccuracy _ _ _ _

theorem ofSign_normalize {m : ℤ} (hm : 0 ≤ m) (e : ℤ) :
    OfSign .positive (normalize Format.binary64 m e .positive) := by
  rw [UnpackedFloat.normalize]
  rcases hcompare : compare m 0 with _ | _ | _
  · exact absurd (Int.compare_eq_lt.mp hcompare) (not_lt.mpr hm)
  · trivial
  · exact ofSign_roundWithAccuracy _ _ _ _

theorem ofSign_add {u v : UnpackedFloat} (hu : OfSign .positive u) (hv : OfSign .positive v) :
    OfSign .positive (UnpackedFloat.add Format.binary64 u v) := by
  cases u with
  | notANumber => cases hu
  | infinity s =>
      cases hu
      cases v with
      | notANumber => cases hv
      | infinity t =>
          cases hv
          rfl
      | _ => rfl
  | zero s =>
      cases v with
      | notANumber => cases hv
      | zero t =>
          cases s <;> cases t <;> trivial
      | _ => exact hv
  | finite s m e hm =>
      cases hu
      cases v with
      | notANumber => cases hv
      | infinity t => exact hv
      | zero t => rfl
      | finite t n k hn =>
          cases hv
          apply ofSign_normalize
          simp only [Sign.apply]
          positivity

theorem ofSign_sqrt {u : UnpackedFloat} (h : OfSign .positive u) :
    OfSign .positive (UnpackedFloat.sqrt Format.binary64 u) := by
  cases u with
  | notANumber => cases h
  | infinity s =>
      cases h
      rfl
  | zero s => trivial
  | finite s m e hm =>
      cases h
      exact ofSign_roundWithAccuracy _ _ _ _

/-- A finite number has a value. -/
theorem exists_hasValue {x : Float} (h : x.isFinite = true) : ∃ q, HasValue x q := by
  change x.toModel.unpack.isFinite = true at h
  unfold HasValue
  cases hu : x.toModel.unpack <;> rw [hu] at h
  · cases h
  · cases h
  · exact ⟨_, rfl⟩
  · exact ⟨_, rfl⟩

/-- What is not finite and has a sign is infinite. -/
theorem hasValue_or_infinite {x : Float} {s : Sign} (h : OfSign s x.toModel.unpack) :
    (∃ q, HasValue x q) ∨ x.toModel.unpack = .infinity s := by
  by_cases hfinite : x.isFinite = true
  · exact Or.inl (exists_hasValue hfinite)
  · right
    change ¬ x.toModel.unpack.isFinite = true at hfinite
    cases hx : x.toModel.unpack <;> rw [hx] at h hfinite
    · exact congrArg UnpackedFloat.infinity h
    · cases h
    · exact absurd rfl hfinite
    · exact absurd rfl hfinite

theorem isNaN_of_ofSign {x : Float} {s : Sign} (h : OfSign s x.toModel.unpack) :
    x.isNaN = false := by
  change x.toModel.unpack.isNaN = false
  cases hx : x.toModel.unpack with
  | notANumber =>
      rw [hx] at h
      cases h
  | _ => rfl

/-- Infinite and undefined numbers are not below a number with a value. -/
theorem exists_hasValue_of_abs_le {x c : Float} {b : ℚ} (hc : HasValue c b)
    (h : x.abs ≤ c) : ∃ q, HasValue x q ∧ |q| ≤ b := by
  have hfinite : x.isFinite = true := by
    by_contra hinfinite
    change ¬ x.toModel.unpack.isFinite = true at hinfinite
    rw [le_iff_compare] at h
    change ((pack x.toModel.unpack.abs).unpack.compare c.toModel.unpack).any (·.isLE) = true at h
    cases hx : x.toModel.unpack with
    | infinity s =>
        have hkept : (pack (UnpackedFloat.infinity s).abs).unpack = .infinity .positive := by
          cases s <;> rfl
        rw [hx, hkept] at h
        obtain ⟨t, ht, _⟩ | ⟨t, m, e, hm, ht, _⟩ := rational?_cases hc <;> rw [ht] at h <;> cases h
    | notANumber =>
        have hkept : (pack UnpackedFloat.notANumber.abs).unpack = .notANumber := rfl
        rw [hx, hkept] at h
        cases h
    | _ =>
        rw [hx] at hinfinite
        exact hinfinite rfl
  obtain ⟨q, hq⟩ := exists_hasValue hfinite
  exact ⟨q, hq, (hq.abs.le_iff hc).mp h⟩

end FieldCalculus.Binary64
