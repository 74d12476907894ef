import FieldCalculus.Evaluation
import FieldCalculus.Number.FloatScalar
import FieldCalculus.Proofs.Binary64.Signs
/-!
# What rounding does to the total of a pair

The amount that one field of a pair loses is the amount that the other gains, but each of the
two new totals is rounded, and so are the sums that are compared.  Four roundings at most half
a step each part the sum afterwards from the sum before.  How long a step is depends on how
large the totals are, and on how far an exchange can carry them.
-/

namespace FieldCalculus

open Binary64

/-- Both numbers have values, and these differ by at most `error`. -/
def Near (x y : Float) (error : ℚ) : Prop :=
  ∃ p q, HasValue x p ∧ HasValue y q ∧ |p - q| ≤ error

/-- The total energy has a value of at most this magnitude. -/
def EnergyField.TotalWithin (bound : ℚ) (f : EnergyField Float) : Prop :=
  ∃ p, HasValue f.energy.total p ∧ |p| ≤ bound

theorem Near.mono {x y : Float} {small large : ℚ} (h : Near x y small) (hle : small ≤ large) :
    Near x y large := by
  obtain ⟨p, q, hp, hq, hnear⟩ := h
  exact ⟨p, q, hp, hq, hnear.trans hle⟩

section Pair

variable {x y amount : Float} {p q a : ℚ} {M K : ℤ}

/-- Two new totals below `2 ^ M` are rounded, and two sums below `2 ^ K`. -/
theorem near_pair_after (hM : -1021 ≤ M) (hM' : M ≤ 1000) (hK : -1021 ≤ K) (hK' : K ≤ 1000)
    (hx : HasValue x p) (hy : HasValue y q) (ha : HasValue amount a)
    (hp : |p - a| ≤ 2 ^ M) (hq : |q + a| ≤ 2 ^ M) (hbefore : |p + q| ≤ 2 ^ K)
    (hafter : ∀ p' q' : ℚ, |p'| ≤ 2 ^ M → |q'| ≤ 2 ^ M →
      |p' + q' - (p + q)| ≤ 2 * 2 ^ (M - 54) → |p' + q'| ≤ 2 ^ K) :
    (∃ p', HasValue (x - amount) p' ∧ |p'| ≤ 2 ^ M) ∧
      (∃ q', HasValue (y - -amount) q' ∧ |q'| ≤ 2 ^ M) ∧
      Near (x + y) (x - amount + (y - -amount)) (2 * 2 ^ (M - 54) + 2 * 2 ^ (K - 54)) := by
  rw [← sub_neg_eq_add] at hq
  obtain ⟨p', hp', hpay⟩ := hx.sub ha (hp.trans (two_zpow_le hM'))
  obtain ⟨q', hq', hearn⟩ := hy.sub ha.neg (hq.trans (two_zpow_le hM'))
  have hpay' := hpay.abs_sub_le_pow hM hp
  have hearn' := hearn.abs_sub_le_pow hM hq
  have hmoved : |p' + q' - (p + q)| ≤ 2 * 2 ^ (M - 54) := by
    have hsum : p' + q' - (p + q) = p' - (p - a) + (q' - (q - -a)) := by ring
    rw [hsum]
    linarith [abs_add_le (p' - (p - a)) (q' - (q - -a))]
  have hafter' := hafter p' q' (hpay.abs_le_pow hM hp) (hearn.abs_le_pow hM hq) hmoved
  obtain ⟨s, hs, hbefore'⟩ := hx.add hy (hbefore.trans (two_zpow_le hK'))
  obtain ⟨t, ht, hafter''⟩ := hp'.add hq' (hafter'.trans (two_zpow_le hK'))
  have hs' := hbefore'.abs_sub_le_pow hK hbefore
  have ht' := hafter''.abs_sub_le_pow hK hafter'
  refine ⟨⟨p', hp', hpay.abs_le_pow hM hp⟩, ⟨q', hq', hearn.abs_le_pow hM hq⟩, s, t, hs, ht, ?_⟩
  calc
    |s - t| = |s - (p + q) - (p' + q' - (p + q)) - (t - (p' + q'))| := by
      congr 1
      ring
    _ ≤ |s - (p + q)| + |p' + q' - (p + q)| + |t - (p' + q')| :=
      (abs_sub _ _).trans (add_le_add_left (abs_sub _ _) _)
    _ ≤ 2 * 2 ^ (M - 54) + 2 * 2 ^ (K - 54) := by linarith

end Pair

/-! ## Interaction -/

/-- What flows lies between nothing and the difference, whatever is rounded on the way. -/
theorem share_between {v d κ e : ℚ} (hd : RoundsTo v d) (he : RoundsTo (κ * d) e) (hκ : 0 ≤ κ)
    (hκ' : 4 * κ ≤ 1) (hv : 0 ≤ v) : 0 ≤ e ∧ e ≤ v := by
  obtain ⟨hd0, hd2⟩ := hd.between hv
  obtain ⟨he0, he2⟩ := he.between (mul_nonneg hκ hd0)
  refine ⟨he0, ?_⟩
  calc
    e ≤ 2 * (κ * d) := he2
    _ = 2 * κ * d := by ring
    _ ≤ 2 * κ * (2 * v) := mul_le_mul_of_nonneg_left hd2 (by linarith)
    _ = 4 * κ * v := by ring
    _ ≤ 1 * v := mul_le_mul_of_nonneg_right hκ' hv
    _ = v := one_mul v

/-- So no total leaves the range of the two. -/
theorem abs_after_share_le {p q d κ e bound : ℚ} (hd : RoundsTo (p - q) d)
    (he : RoundsTo (κ * d) e) (hκ : 0 ≤ κ) (hκ' : 4 * κ ≤ 1) (hp : |p| ≤ bound)
    (hq : |q| ≤ bound) : |p - e| ≤ bound ∧ |q + e| ≤ bound := by
  obtain ⟨hp1, hp2⟩ := abs_le.mp hp
  obtain ⟨hq1, hq2⟩ := abs_le.mp hq
  rw [abs_le, abs_le]
  rcases le_total q p with hle | hle
  · obtain ⟨he0, hev⟩ := share_between hd he hκ hκ' (sub_nonneg.mpr hle)
    refine ⟨⟨?_, ?_⟩, ?_, ?_⟩ <;> linarith
  · have hd' := hd.neg
    have he' := he.neg
    rw [neg_sub] at hd'
    rw [← mul_neg] at he'
    obtain ⟨he0, hev⟩ := share_between hd' he' hκ hκ' (sub_nonneg.mpr hle)
    refine ⟨⟨?_, ?_⟩, ?_, ?_⟩ <;> linarith

theorem exists_hasValue_tenth : ∃ κ, HasValue 0.1 κ ∧ 0 ≤ κ ∧ 4 * κ ≤ 1 := by
  have h : (0.1 : Float).toModel.unpack =
      .finite .positive 7205759403792794 (-56) (by omega) := rfl
  refine ⟨_, hasValue_of_unpack h, ?_, ?_⟩ <;> norm_num [signed]

namespace EnergyField

variable {f g : EnergyField Float}

/-- Totals below a power of two stay below it, and their sum moves by at most six half steps of
the grid there. -/
theorem interact_near {N : ℤ} (hlow : -1000 ≤ N) (hhigh : N ≤ 900)
    (hf : f.TotalWithin (2 ^ N)) (hg : g.TotalWithin (2 ^ N)) :
    ((f.interact g).1.TotalWithin (2 ^ N) ∧ (f.interact g).2.TotalWithin (2 ^ N)) ∧
      Near (f.pairTotal g) ((f.interact g).1.pairTotal (f.interact g).2) (6 * 2 ^ (N - 54)) := by
  obtain ⟨p, hp, hpN⟩ := hf
  obtain ⟨q, hq, hqN⟩ := hg
  obtain ⟨κ, hκ, hκ0, hκ4⟩ := exists_hasValue_tenth
  have hdouble := two_zpow_add_one N
  have hdouble' : (2 : ℚ) ^ (N + 1 - 54) = 2 * 2 ^ (N - 54) := by
    rw [add_sub_right_comm, two_zpow_add_one]
  have hlarge : (2 : ℚ) ^ (N + 1) ≤ 2 ^ (1000 : ℤ) := two_zpow_le (by omega)
  have hpq : |p - q| ≤ 2 ^ (N + 1) := by linarith [abs_sub p q]
  obtain ⟨d, hd, hdiff⟩ := hp.sub hq (hpq.trans hlarge)
  have hdN := hdiff.abs_le_pow (by omega) hpq
  have hκd : |κ * d| ≤ 2 ^ (N + 1) := by
    rw [abs_mul, abs_of_nonneg hκ0]
    calc
      κ * |d| ≤ 1 * |d| := mul_le_mul_of_nonneg_right (by linarith) (abs_nonneg d)
      _ = |d| := one_mul _
      _ ≤ 2 ^ (N + 1) := hdN
  obtain ⟨e, he, hshare⟩ := hκ.mul hd (hκd.trans hlarge)
  obtain ⟨hpay, hearn⟩ := abs_after_share_le hdiff hshare hκ0 hκ4 hpN hqN
  have hbefore : |p + q| ≤ 2 ^ (N + 1) := by linarith [abs_add_le p q]
  obtain ⟨hp', hq', hnear⟩ := near_pair_after (by omega) (by omega) (by omega) (by omega) hp hq he
    hpay hearn hbefore fun p' q' hp' hq' _ => by linarith [abs_add_le p' q']
  refine ⟨⟨hp', hq'⟩, hnear.mono ?_⟩
  rw [hdouble']
  linarith

end EnergyField

/-! ## Spatial flow -/

/-- All coordinates are finite. -/
def Vector3.Finite (v : Vector3 Float) : Prop :=
  Scalar.isFinite v.x = true ∧ Scalar.isFinite v.y = true ∧ Scalar.isFinite v.z = true

open Float.Model UnpackedFloat in
/-- Coordinates may be too far apart for their distance to be kept, but it is defined. -/
theorem Vector3.ofSign_distance {a b : Vector3 Float} (ha : a.Finite) (hb : b.Finite) :
    OfSign .positive (a.distance b).toModel.unpack := by
  have hsquare : ∀ {u v : Float}, u.isFinite = true → v.isFinite = true →
      OfSign .positive ((v - u) * (v - u)).toModel.unpack := by
    intro u v hu hv
    obtain ⟨p, hp⟩ := exists_hasValue hu
    obtain ⟨q, hq⟩ := exists_hasValue hv
    obtain ⟨_, d, hd, _⟩ := rounded_sub (canonical_unpack _) (canonical_unpack _) hq hp
    obtain ⟨s, hs⟩ := ofSign_of_rational hd
    exact ofSign_pack (ofSign_mul_self (ofSign_pack hs))
  obtain ⟨hax, hay, haz⟩ := ha
  obtain ⟨hbx, hby, hbz⟩ := hb
  have hplane := ofSign_pack (ofSign_add (hsquare hax hbx) (hsquare hay hby))
  exact ofSign_pack (ofSign_sqrt (ofSign_pack (ofSign_add hplane (hsquare haz hbz))))

theorem exists_hasValue_hundredth : ∃ μ, HasValue 0.01 μ ∧ 1 / 100 ≤ μ := by
  have h : (0.01 : Float).toModel.unpack =
      .finite .positive 5764607523034235 (-59) (by omega) := rfl
  refine ⟨_, hasValue_of_unpack h, ?_⟩
  norm_num [signed]

theorem exists_hasValue_twentieth :
    ∃ κ, HasValue 0.05 κ ∧ 0 ≤ κ ∧ κ ≤ 1 / 20 + 1 / 10 ^ 9 := by
  have h : (0.05 : Float).toModel.unpack =
      .finite .positive 7205759403792794 (-57) (by omega) := rfl
  refine ⟨_, hasValue_of_unpack h, ?_, ?_⟩ <;> norm_num [signed]

/-- Dividing by the number is multiplying by `θ`, and rounding. -/
def HasInverse (y : Float) (θ : ℚ) : Prop :=
  ∀ {x : Float} {v : ℚ}, HasValue x v → |v * θ| ≤ 2 ^ (1000 : ℤ) →
    ∃ a, HasValue (x / y) a ∧ RoundsTo (v * θ) a

theorem Binary64.HasValue.hasInverse {y : Float} {b : ℚ} (hy : HasValue y b) (hb : b ≠ 0) :
    HasInverse y b⁻¹ := by
  intro x v hx hv
  rw [← div_eq_mul_inv] at hv ⊢
  exact hx.div hy hb hv

open Float.Model UnpackedFloat in
theorem hasInverse_infinite {y : Float} (hy : y.toModel.unpack = .infinity .positive) :
    HasInverse y 0 := by
  intro x v hx _
  refine ⟨0, ?_, ?_⟩
  · obtain ⟨s, hs, _⟩ | ⟨s, m, e, hm, hs, _⟩ := rational?_cases hx
    all_goals
      have hdiv : x / y = ⟨pack (UnpackedFloat.zero (s / .positive))⟩ := by
        change (⟨pack (UnpackedFloat.div _ x.toModel.unpack y.toModel.unpack)⟩ : Float) = _
        rw [hs, hy]
        rfl
      rw [hdiv]
      exact hasValue_pack trivial trivial rfl
  · rw [mul_zero]
    exact RoundsTo.zero

namespace EnergyField

variable {f g : EnergyField Float}

/-- The span is never too short to divide by. -/
theorem exists_hasInverse_span (hf : f.position.Finite) (hg : g.position.Finite) :
    ∃ θ, HasInverse (f.span g) θ ∧ 0 ≤ θ ∧ θ ≤ 100 := by
  obtain ⟨μ, hμ, hμ'⟩ := exists_hasValue_hundredth
  have hfinite : ∀ {y : Float} {σ : ℚ}, HasValue y σ → μ ≤ σ →
      HasInverse y σ⁻¹ ∧ 0 ≤ σ⁻¹ ∧ σ⁻¹ ≤ 100 := by
    intro y σ hσ hle
    have hpos : 0 < σ := by linarith
    refine ⟨hσ.hasInverse hpos.ne', inv_nonneg.mpr hpos.le, ?_⟩
    rw [inv_le_comm₀ hpos (by norm_num)]
    linarith
  have hsign := Vector3.ofSign_distance hf hg
  have hspan : f.span g = greatest (f.position.distance g.position) 0.01 := rfl
  rw [hspan]
  generalize f.position.distance g.position = distance at hsign
  have hnan : (0.01 : Float).isNaN = false := rfl
  rw [greatest, isNaN_of_ofSign hsign, hnan, Bool.or_false, if_neg Bool.false_ne_true]
  split
  · exact ⟨μ⁻¹, hfinite hμ le_rfl⟩
  · next hfar =>
    obtain ⟨σ, hσ⟩ | hinfinite := hasValue_or_infinite hsign
    · exact ⟨σ⁻¹, hfinite hσ (not_lt.mp fun hlt => hfar ((hσ.lt_iff hμ).mpr hlt))⟩
    · exact ⟨0, hasInverse_infinite hinfinite, le_rfl, by norm_num⟩

/-- A flow mixes the two totals, and carries beyond them when its rate is above one. -/
theorem abs_sub_flow_le {p q rate bound : ℚ} (hp : |p| ≤ bound) (hq : |q| ≤ bound)
    (h0 : 0 ≤ rate) {c : ℚ} (hc : 1 ≤ c) (hrate : rate ≤ c) :
    |p - rate * (p - q)| ≤ (2 * c - 1) * bound := by
  have hbound : 0 ≤ bound := (abs_nonneg p).trans hp
  have hkept : |1 - rate| + rate ≤ 2 * c - 1 := by
    rcases abs_cases (1 - rate) with ⟨h, _⟩ | ⟨h, _⟩ <;> linarith
  have hmix : p - rate * (p - q) = (1 - rate) * p + rate * q := by ring
  rw [hmix]
  calc
    |(1 - rate) * p + rate * q| ≤ |(1 - rate) * p| + |rate * q| := abs_add_le _ _
    _ = |1 - rate| * |p| + rate * |q| := by rw [abs_mul, abs_mul, abs_of_nonneg h0]
    _ ≤ |1 - rate| * bound + rate * bound :=
      add_le_add (mul_le_mul_of_nonneg_left hp (abs_nonneg _)) (mul_le_mul_of_nonneg_left hq h0)
    _ = (|1 - rate| + rate) * bound := by ring
    _ ≤ (2 * c - 1) * bound := mul_le_mul_of_nonneg_right hkept hbound

/-- Three roundings one after the other: of the difference, of its share, of the quotient. -/
theorem abs_sub_rate_mul_le {size v d h a κ θ : ℚ} (hκ0 : 0 ≤ κ) (hκ : κ ≤ 1 / 16)
    (hθ0 : 0 ≤ θ) (hθ : θ ≤ 100) (hd : |d - v| ≤ size / 2 ^ 57)
    (hh : |h - κ * d| ≤ size / 2 ^ 61) (ha : |a - h * θ| ≤ size / 2 ^ 54) :
    |a - κ * θ * v| ≤ size / 2 ^ 52 := by
  have hshare : |κ * (d - v)| ≤ 1 / 16 * (size / 2 ^ 57) := by
    rw [abs_mul, abs_of_nonneg hκ0]
    exact mul_le_mul hκ hd (abs_nonneg _) (by norm_num)
  have hquotient : |θ * (h - κ * d + κ * (d - v))| ≤
      100 * (size / 2 ^ 61 + 1 / 16 * (size / 2 ^ 57)) := by
    rw [abs_mul, abs_of_nonneg hθ0]
    exact mul_le_mul hθ ((abs_add_le _ _).trans (add_le_add hh hshare)) (abs_nonneg _)
      (by norm_num)
  have hsize : 0 ≤ size / 2 ^ 54 := (abs_nonneg _).trans ha
  calc
    |a - κ * θ * v| = |a - h * θ + θ * (h - κ * d + κ * (d - v))| := by
      congr 1
      ring
    _ ≤ |a - h * θ| + |θ * (h - κ * d + κ * (d - v))| := abs_add_le _ _
    _ ≤ size / 2 ^ 52 := by linarith

/-- The amount of a flow is a multiple of the difference, up to rounding. -/
theorem exists_flow_amount {N : ℤ} (hlow : -900 ≤ N) (hhigh : N ≤ 900) {x y : Float}
    {p q bound : ℚ} (hx : HasValue x p) (hy : HasValue y q) (hp : |p| ≤ bound) (hq : |q| ≤ bound)
    (hbound : 18 * bound ≤ 2 ^ N) (hf : f.position.Finite) (hg : g.position.Finite) :
    ∃ a rate, HasValue (0.05 * (x - y) / f.span g) a ∧ 0 ≤ rate ∧ rate ≤ 5 + 1 / 10 ^ 7 ∧
      |a - rate * (p - q)| ≤ 2 ^ N / 2 ^ 52 := by
  obtain ⟨κ, hκ, hκ0, hκ'⟩ := exists_hasValue_twentieth
  obtain ⟨θ, hspan, hθ0, hθ⟩ := exists_hasInverse_span hf hg
  have hpos := two_zpow_pos N
  have hkept : ∀ {v : ℚ}, |v| ≤ 2 ^ N → |v| ≤ 2 ^ (1000 : ℤ) := fun h =>
    h.trans (two_zpow_le (by omega))
  -- each result is small enough to be kept, and gives the size of the next one
  have hdiff : |p - q| ≤ 2 ^ N / 2 ^ 3 := by linarith [abs_sub p q]
  obtain ⟨d, hd, hround⟩ := hx.sub hy (hkept (by linarith))
  have hd' : |d - (p - q)| ≤ 2 ^ N / 2 ^ 57 := hround.abs_sub_le_div 3 (by omega) hdiff
  have hshare : |κ * d| ≤ 2 ^ N / 2 ^ 7 := by
    have hsize : |d| ≤ 2 ^ N / 9 + 2 ^ N / 2 ^ 57 := by
      linarith [abs_sub p q, abs_sub_abs_le_abs_sub d (p - q)]
    rw [abs_mul, abs_of_nonneg hκ0]
    calc
      κ * |d| ≤ (1 / 20 + 1 / 10 ^ 9) * (2 ^ N / 9 + 2 ^ N / 2 ^ 57) :=
        mul_le_mul hκ' hsize (abs_nonneg d) (by norm_num)
      _ ≤ 2 ^ N / 2 ^ 7 := by linarith
  obtain ⟨h, hh, hround'⟩ := hκ.mul hd (hkept (by linarith))
  have hh' : |h - κ * d| ≤ 2 ^ N / 2 ^ 61 := hround'.abs_sub_le_div 7 (by omega) hshare
  have hquotient : |h * θ| ≤ 2 ^ N := by
    have hsize : |h| ≤ 2 ^ N / 100 := by linarith [abs_sub_abs_le_abs_sub h (κ * d)]
    rw [abs_mul, abs_of_nonneg hθ0]
    calc
      |h| * θ ≤ 2 ^ N / 100 * 100 := mul_le_mul hsize hθ hθ0 (by positivity)
      _ = 2 ^ N := by ring
  obtain ⟨a, ha, hround''⟩ := hspan hh (hkept hquotient)
  have ha' : |a - h * θ| ≤ 2 ^ N / 2 ^ 54 :=
    hround''.abs_sub_le_div 0 (by omega) (by rwa [pow_zero, div_one])
  refine ⟨a, κ * θ, ha, mul_nonneg hκ0 hθ0, ?_,
    abs_sub_rate_mul_le hκ0 (by linarith) hθ0 hθ hd' hh' ha'⟩
  calc
    κ * θ ≤ (1 / 20 + 1 / 10 ^ 9) * 100 := mul_le_mul hκ' hθ hθ0 (by norm_num)
    _ = 5 + 1 / 10 ^ 7 := by norm_num

/-- A flow may carry totals to nine times their bound.  If no power of two is passed there, the sum
moves by at most two half steps of the grid there and two of the grid two places lower. -/
theorem flow_near {N : ℤ} (hlow : -900 ≤ N) (hhigh : N ≤ 800) {bound : ℚ}
    (hbound : (9 + 1 / 10 ^ 6) * bound ≤ 2 ^ N) (hf : f.TotalWithin bound)
    (hg : g.TotalWithin bound) (hf' : f.position.Finite) (hg' : g.position.Finite) :
    Near (f.pairTotal g) ((f.flow g).1.pairTotal (f.flow g).2)
      (2 * 2 ^ (N - 54) + 2 * 2 ^ (N - 2 - 54)) := by
  obtain ⟨p, hp, hpB⟩ := hf
  obtain ⟨q, hq, hqB⟩ := hg
  have hpos := two_zpow_pos N
  have hB : 0 ≤ bound := (abs_nonneg p).trans hpB
  obtain ⟨a, rate, ha, hrate, hrate', hamount⟩ := exists_flow_amount (N := N + 1) (by omega)
    (by omega) hp hq hpB hqB (by rw [two_zpow_add_one]; linarith) hf' hg'
  rw [two_zpow_add_one] at hamount
  have hpay : |p - a| ≤ 2 ^ N := by
    have hexact := abs_sub_flow_le hpB hqB hrate (by norm_num) hrate'
    have hsplit : p - a = p - rate * (p - q) - (a - rate * (p - q)) := by ring
    rw [hsplit]
    linarith [abs_sub (p - rate * (p - q)) (a - rate * (p - q))]
  have hearn : |q + a| ≤ 2 ^ N := by
    have hexact := abs_sub_flow_le hqB hpB hrate (by norm_num) hrate'
    have hsplit : q + a = q - rate * (q - p) + (a - rate * (p - q)) := by ring
    rw [hsplit]
    linarith [abs_add_le (q - rate * (q - p)) (a - rate * (p - q))]
  -- the flow cancels out of the sum, which stays as small as it was
  have hquarter : (2 : ℚ) ^ (N - 2) = 2 ^ N / 2 ^ 2 := two_zpow_sub_natCast N 2
  have hhalf : (2 : ℚ) ^ (N - 54) = 2 ^ N / 2 ^ 54 := two_zpow_sub_natCast N 54
  have hbefore : |p + q| ≤ 2 ^ (N - 2) := by linarith [abs_add_le p q]
  refine (near_pair_after (by omega) (by omega) (by omega) (by omega) hp hq ha hpay hearn
    hbefore ?_).2.2
  intro p' q' _ _ hmoved
  linarith [abs_add_le p q, abs_sub_abs_le_abs_sub (p' + q') (p + q)]

end EnergyField

end FieldCalculus
