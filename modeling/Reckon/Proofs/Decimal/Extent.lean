import Reckon.Proofs.Decimal.Power
import Reckon.Proofs.Decimal.Zeros

/-!
# How far scales go

* `Decimal.Within w x`: the scale of `x` is at most `w` either way, and `x` is less than `10 ^ w`.
* `Decimal.extent`: a number is within its extent.
* `Within.add`, `Within.sub`, `Within.rem`: sums reach one place farther.
* `Within.mul`, `Within.powMul`, `Within.pow`: extents of factors add up, those of powers are
  multiplied by the exponent, and no scale on the way goes farther.
* `Within.roundAt`: a rounded number reaches one place farther.
-/

namespace Reckon

theorem fitsScale_of_le {n : ℤ} {w : ℕ} (hlow : -(w : ℤ) ≤ n) (hhigh : n ≤ w) (hw : w < 2 ^ 63) :
    FitsScale n := by
  constructor <;> omega

namespace Decimal

variable {x y : Decimal} {a b w : ℕ}

/-- The scale is at most `w` either way, and the number is less than `10 ^ w`. -/
structure Within (w : ℕ) (x : Decimal) : Prop where
  neg_le_scale : -(w : ℤ) ≤ x.scale
  scale_le : x.scale ≤ w
  size : |x.toRat| < 10 ^ w

/-- The least such bound of a number that is not zero. -/
def extent (x : Decimal) : ℕ := max x.scale.natAbs x.lead.toNat

/-! ## The first digit -/

theorem one_sub_scale_le_lead (x : Decimal) : 1 - x.scale ≤ x.lead := by
  have hdigits : 1 ≤ x.digits := digitCount_pos _
  rw [lead]
  omega

theorem abs_toRat_lt_of_lead_le (h : x.lead ≤ w) : |x.toRat| < 10 ^ w := by
  refine x.abs_toRat_lt.trans_le ?_
  rw [← zpow_natCast]
  exact zpow_le_zpow_right₀ (by norm_num) h

theorem within_extent (x : Decimal) : x.Within x.extent := by
  refine ⟨?_, ?_, abs_toRat_lt_of_lead_le ?_⟩ <;> rw [extent] <;> omega

namespace Within

theorem mono (h : x.Within a) (hab : a ≤ b) : x.Within b := by
  obtain ⟨hlow, hhigh, hsize⟩ := h
  exact ⟨by omega, by omega, hsize.trans_le (pow_le_pow_right₀ (by norm_num) hab)⟩

theorem lead_le (h : x.Within w) (hx : x.coeff ≠ 0) : x.lead ≤ w := by
  have hlt : (10 : ℚ) ^ (x.lead - 1) < 10 ^ (w : ℤ) := by
    rw [zpow_natCast]
    exact (zpow_le_abs_toRat hx).trans_lt h.size
  have := (zpow_lt_zpow_iff_right₀ (by norm_num)).1 hlt
  omega

/-- A zero has its one digit in front of its scale. -/
theorem lead_le_succ (h : x.Within w) : x.lead ≤ w + 1 := by
  by_cases hx : x.coeff = 0
  · have hdigits : x.digits = 1 := by rw [digits, hx, Int.natAbs_zero, digitCount_zero]
    have hlow := h.neg_le_scale
    rw [lead, hdigits]
    omega
  · have := h.lead_le hx
    omega

theorem fits_lead (h : x.Within w) (hw : w + 1 < 2 ^ 63) : FitsScale x.lead := by
  have hlow := x.one_sub_scale_le_lead
  have hhigh := h.lead_le_succ
  have hscale := h.scale_le
  constructor <;> omega

/-! ## Sums -/

theorem neg (h : x.Within w) : x.neg.Within w := by
  refine ⟨h.neg_le_scale, h.scale_le, ?_⟩
  rw [toRat_neg, abs_neg]
  exact h.size

theorem abs (h : x.Within w) : x.abs.Within w := by
  refine ⟨h.neg_le_scale, h.scale_le, ?_⟩
  rw [toRat_abs, abs_abs]
  exact h.size

/-- Magnitudes below powers of ten have a sum below the next one. -/
theorem add_size_lt (hx : x.Within a) (hy : y.Within b) :
    |x.toRat| + |y.toRat| < 10 ^ (max a b + 1) := by
  have hx' := (hx.mono (le_max_left a b)).size
  have hy' := (hy.mono (le_max_right a b)).size
  have hpos : (0 : ℚ) < 10 ^ max a b := by positivity
  rw [pow_succ]
  linarith

theorem add (hx : x.Within a) (hy : y.Within b) : (x.add y).Within (max a b + 1) := by
  have hscale : (x.add y).scale = max x.scale y.scale := rfl
  obtain ⟨hxlow, hxhigh, -⟩ := id hx
  obtain ⟨hylow, hyhigh, -⟩ := id hy
  refine ⟨by omega, by omega, ?_⟩
  rw [toRat_add]
  exact (abs_add_le _ _).trans_lt (add_size_lt hx hy)

theorem sub (hx : x.Within a) (hy : y.Within b) : (x.sub y).Within (max a b + 1) := by
  have hscale : (x.sub y).scale = x.scale ∨ (x.sub y).scale = y.scale := by
    unfold Decimal.sub
    split
    · exact .inl rfl
    · split
      · exact .inr rfl
      · rcases max_choice x.scale y.scale with h | h
        · exact .inl h
        · exact .inr h
  obtain ⟨hxlow, hxhigh, -⟩ := id hx
  obtain ⟨hylow, hyhigh, -⟩ := id hy
  refine ⟨by omega, by omega, ?_⟩
  rw [toRat_sub]
  exact (abs_sub _ _).trans_lt (add_size_lt hx hy)

theorem rem (hx : x.Within a) (hy : y.Within b) : (x.rem y).Within (max a b + 1) := by
  have hscale : (x.rem y).scale = max x.scale y.scale := rfl
  obtain ⟨hxlow, hxhigh, hsize⟩ := hx.mono (Nat.le_succ_of_le (le_max_left a b))
  obtain ⟨hylow, hyhigh, -⟩ := hy.mono (Nat.le_succ_of_le (le_max_right a b))
  refine ⟨by omega, by omega, lt_of_le_of_lt ?_ hsize⟩
  -- A remainder is no longer than the dividend, at the scale of both.
  have hcoeff : ((x.rem y).coeff.natAbs : ℚ) ≤ (x.coeffAt (max x.scale y.scale)).natAbs := by
    have hle : (x.rem y).coeff.natAbs ≤ (x.coeffAt (max x.scale y.scale)).natAbs := by
      show ((x.coeffAt _).tmod (y.coeffAt _)).natAbs ≤ _
      rw [Int.natAbs_tmod]
      exact Nat.mod_le _ _
    exact_mod_cast hle
  have hx' : ((x.coeffAt (max x.scale y.scale)).natAbs : ℚ) =
      |x.toRat| * 10 ^ max x.scale y.scale := by
    rw [Nat.cast_natAbs, Int.cast_abs, cast_coeffAt (le_max_left _ _), abs_mul,
      abs_of_pos (ten_zpow_pos _)]
  rw [natCast_natAbs_coeff, hscale, hx'] at hcoeff
  exact le_of_mul_le_mul_right hcoeff (ten_zpow_pos _)

end Within

theorem within_zero : zero.Within 0 := by
  refine ⟨le_refl _, le_refl _, ?_⟩
  rw [toRat_zero]
  norm_num

theorem within_one : one.Within 1 := by
  refine ⟨by decide, by decide, ?_⟩
  rw [toRat_one]
  norm_num

theorem within_ofBool (b : Bool) : (ofBool b).Within 1 := by
  cases b
  · exact within_zero.mono (by decide)
  · exact within_one

theorem within_natCast (n : ℕ) : (ofInt n).Within n := by
  refine ⟨by simp [ofInt], by simp [ofInt], ?_⟩
  rw [toRat_ofInt, Int.cast_natCast, Nat.abs_cast]
  exact_mod_cast Nat.lt_pow_self (by decide)

/-! ## Products and powers -/

theorem mulFits_of_within (hx : x.Within a) (hy : y.Within b) (h : a + b < 2 ^ 63) :
    FitsScale (x.scale + y.scale) := by
  obtain ⟨hxlow, hxhigh, -⟩ := hx
  obtain ⟨hylow, hyhigh, -⟩ := hy
  exact fitsScale_of_le (w := a + b) (by omega) (by omega) h

theorem within_scaledMul (hx : x.Within a) (hy : y.Within b) (h : a + b < 2 ^ 63) :
    (x.scaledMul y).Within (a + b) := by
  have hfits := mulFits_of_within hx hy h
  have hscale : (x.scaledMul y).scale = x.scale + y.scale := wrapScale_of_fits hfits
  obtain ⟨hxlow, hxhigh, hxsize⟩ := hx
  obtain ⟨hylow, hyhigh, hysize⟩ := hy
  refine ⟨by omega, by omega, ?_⟩
  rw [toRat_scaledMul hfits, abs_mul, pow_add]
  exact mul_lt_mul'' hxsize hysize (abs_nonneg _) (abs_nonneg _)

/-- Without its trailing zeros a number still has a digit. -/
theorem within_normalized (hx : x.Within w) (h : w < 2 ^ 63) :
    x.NormalFits ∧ x.normalized.Within w := by
  by_cases hzero : x.coeff = 0
  · rw [normalized, if_pos hzero]
    exact ⟨.inl hzero, within_zero.mono w.zero_le⟩
  · have hkept := stripZeros_mul x.digits x.coeff.natAbs
    have hlead := hx.lead_le hzero
    have hscale := hx.scale_le
    have hlow := hx.neg_le_scale
    have hcount : (stripZeros x.digits x.coeff.natAbs).1 < x.digits := by
      refine lt_digitCount (Nat.le_of_dvd (Int.natAbs_pos.2 hzero) ?_)
      exact Dvd.intro_left _ hkept
    have hcoeff : (x.digits : ℤ) = x.lead + x.scale := by
      rw [lead]
      omega
    have hfits : FitsScale (x.scale - (stripZeros x.digits x.coeff.natAbs).1) :=
      fitsScale_of_le (w := w) (by omega) (by omega) h
    have hnormal : x.NormalFits := .inr hfits
    have hvalue : x.normalized.scale = x.scale - (stripZeros x.digits x.coeff.natAbs).1 := by
      rw [normalized, if_neg hzero]
      exact wrapScale_of_fits hfits
    refine ⟨hnormal, by omega, by omega, ?_⟩
    rw [toRat_normalized hnormal]
    exact hx.size

namespace Within

theorem mul (hx : x.Within a) (hy : y.Within b) (h : a + b < 2 ^ 63) :
    x.MulFits y ∧ (x.mul y).Within (a + b) := by
  refine ⟨.inr (.inr (mulFits_of_within hx hy h)), ?_⟩
  unfold Decimal.mul
  split
  · exact hy.mono (Nat.le_add_left b a)
  · split
    · exact hx.mono (Nat.le_add_right a b)
    · exact within_scaledMul hx hy h

theorem powMul (hx : x.Within a) (hy : y.Within b) (h : a + b < 2 ^ 63) :
    x.PowMulFits y ∧ (x.powMul y).Within (a + b) := by
  unfold PowMulFits Decimal.powMul
  split
  · obtain ⟨hfits, hwithin⟩ := within_normalized hy (by omega)
    exact ⟨hfits, hwithin.mono (Nat.le_add_left b a)⟩
  · split
    · obtain ⟨hfits, hwithin⟩ := within_normalized hx (by omega)
      exact ⟨hfits, hwithin.mono (Nat.le_add_right a b)⟩
    · exact ⟨mulFits_of_within hx hy h, within_scaledMul hx hy h⟩

/-- Repeated squaring keeps the extent `a + b * n` of `acc * square ^ n`, and no factor on the way
goes farther. -/
theorem powFrom (acc square : Decimal) (n : ℕ) :
    ∀ {a b : ℕ}, acc.Within a → square.Within b → a + b * n < 2 ^ 63 →
      PowFromFits acc square n ∧ (Decimal.powFrom acc square n).Within (a + b * n) := by
  fun_induction Decimal.powFrom acc square n with
  | case1 acc square =>
    intro a b hacc hsquare h
    rw [PowFromFits]
    exact ⟨fun hn => absurd rfl hn, hacc.mono (Nat.le_add_right a _)⟩
  | case2 acc square n hn acc' =>
    rename_i hlast
    intro a b hacc hsquare h
    have hone : n = 1 := by omega
    subst hone
    obtain ⟨hfits, hwithin⟩ := hacc.powMul hsquare (by omega)
    rw [PowFromFits]
    refine ⟨fun _ => ⟨fun _ => hfits, fun hmore => absurd rfl hmore⟩, ?_⟩
    simpa [acc'] using hwithin
  | case3 acc square n hn acc' hmore =>
    rename_i ih
    intro a b hacc hsquare h
    have hsplit : b * n = b * (n % 2) + (b + b) * (n / 2) := by
      conv_lhs => rw [← Nat.mod_add_div n 2]
      ring
    have hhalf : b + b ≤ (b + b) * (n / 2) := Nat.le_mul_of_pos_right _ (Nat.pos_of_ne_zero hmore)
    have hodd : n % 2 = 1 → acc.PowMulFits square ∧ (acc.powMul square).Within (a + b) :=
      fun _ => hacc.powMul hsquare (by omega)
    obtain ⟨hfits, hwithin⟩ := hsquare.powMul hsquare (by omega : b + b < 2 ^ 63)
    have hacc' : acc'.Within (a + b * (n % 2)) := by
      rcases Nat.mod_two_eq_zero_or_one n with hbit | hbit
      · simpa [acc', hbit] using hacc
      · simpa [acc', hbit] using (hodd hbit).2
    obtain ⟨hfrom, hresult⟩ := ih hacc' hwithin (by omega)
    rw [PowFromFits, hsplit, ← Nat.add_assoc]
    exact ⟨fun _ => ⟨fun hbit => (hodd hbit).1, fun _ => ⟨hfits, hfrom⟩⟩, hresult⟩

theorem pow {n : ℕ} (hx : x.Within w) (h : 1 + w * n < 2 ^ 63) :
    x.PowFits n ∧ (x.pow n).Within (1 + w * n) := powFrom one x n within_one hx h

/-! ## Rounding at a place -/

theorem roundFits {s : ℤ} (hx : x.Within w) (hs : FitsScale (-s)) (hw : w + 1 < 2 ^ 63) :
    x.RoundFits s := .inr ⟨hx.fits_lead hw, hs⟩

end Within

/-- A power of ten above a number is not passed when the number is rounded. -/
theorem abs_atScale_le (r : Rounding) {q : ℚ} {s : ℤ} (hs : -(w : ℤ) ≤ s) (hq : |q| < 10 ^ w) :
    |r.atScale s q| ≤ 10 ^ w := by
  obtain ⟨k, hk⟩ : ∃ k : ℕ, (w : ℤ) + s = k := ⟨(w + s).toNat, by omega⟩
  have hunits : (10 : ℚ) ^ w * 10 ^ s = (10 ^ k : ℕ) := by
    rw [← zpow_natCast, ← zpow_add₀ (by norm_num), hk, zpow_natCast]
    push_cast
    rfl
  have hlt : |q| * 10 ^ s < (10 ^ k : ℕ) := by
    rw [← hunits]
    exact mul_lt_mul_of_pos_right hq (ten_zpow_pos s)
  have hnonneg : 0 ≤ |q| * 10 ^ s := mul_nonneg (abs_nonneg q) (ten_zpow_pos s).le
  refine le_of_mul_le_mul_right ?_ (ten_zpow_pos s)
  rw [Rounding.abs_atScale_mul, hunits]
  exact_mod_cast r.magnitude_le _ hnonneg hlt

theorem Within.roundAt (r : Rounding) {s : ℤ} (hx : x.Within w) (hlow : -(w : ℤ) ≤ s)
    (hhigh : s ≤ w) (hfits : x.RoundFits s) : (x.roundAt r s).Within (w + 1) := by
  have hscale := scale_roundAt r s x
  refine ⟨by omega, by omega, ?_⟩
  rw [toRat_roundAt r hfits]
  exact (abs_atScale_le r hlow hx.size).trans_lt (pow_lt_pow_right₀ (by norm_num) w.lt_succ_self)

end Decimal

end Reckon
