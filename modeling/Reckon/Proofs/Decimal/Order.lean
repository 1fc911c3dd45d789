import Reckon.Decimal.Order
import Reckon.Proofs.Decimal.Value
import Mathlib.Data.Int.Log

/-!
# The order of the numbers

* `zpow_le_abs_toRat`, `abs_toRat_lt`: the magnitude of a number lies between the powers of ten
  that the position of its first digit gives. `lead_eq_log`: so the position is that of the number.
* `cmpMagnitude_eq`, `cmp_eq`: forms are compared as their numbers are.
-/

namespace Reckon

/-- Pairs with the same order compare alike. -/
theorem compare_congr {α β : Type} [LinearOrder α] [LinearOrder β] {a b : α} {c d : β}
    (hlt : a < b → c < d) (heq : a = b → c = d) (hgt : b < a → d < c) :
    compare a b = compare c d := by
  rcases lt_trichotomy a b with h | h | h
  · rw [compare_lt_iff_lt.2 h, compare_lt_iff_lt.2 (hlt h)]
  · rw [compare_eq_iff_eq.2 h, compare_eq_iff_eq.2 (heq h)]
  · rw [compare_gt_iff_gt.2 h, compare_gt_iff_gt.2 (hgt h)]

namespace Decimal

variable {x y : Decimal}

/-! ## Magnitudes -/

theorem toRat_eq_sign_mul_abs (x : Decimal) : x.toRat = x.coeff.sign * |x.toRat| := by
  rcases lt_trichotomy x.coeff 0 with hx | hx | hx
  · rw [Int.sign_eq_neg_one_of_neg hx, abs_of_neg (toRat_neg_iff.2 hx)]
    simp
  · rw [toRat_eq_zero_iff.2 hx, abs_zero, mul_zero]
  · rw [Int.sign_eq_one_of_pos hx, abs_of_pos (toRat_pos_iff.2 hx), Int.cast_one, one_mul]

/-- Numbers of one sign are the same when their magnitudes are. -/
theorem toRat_eq_iff_abs (h : x.coeff.sign = y.coeff.sign) :
    x.toRat = y.toRat ↔ |x.toRat| = |y.toRat| := by
  refine ⟨fun heq => by rw [heq], fun heq => ?_⟩
  rw [toRat_eq_sign_mul_abs x, h, heq, ← toRat_eq_sign_mul_abs y]

/-! ## The first digit -/

theorem natCast_natAbs_coeff (x : Decimal) : (x.coeff.natAbs : ℚ) = |x.toRat| * 10 ^ x.scale := by
  rw [toRat, abs_mul, abs_of_pos (ten_zpow_pos _), mul_assoc, ← zpow_add₀ (by norm_num),
    neg_add_cancel, zpow_zero, mul_one, Nat.cast_natAbs, Int.cast_abs]

theorem zpow_le_abs_toRat (h : x.coeff ≠ 0) : (10 : ℚ) ^ (x.lead - 1) ≤ |x.toRat| := by
  have hdigits : 1 ≤ x.digits := digitCount_pos _
  have hlead : x.lead - 1 + x.scale = ((x.digits - 1 : ℕ) : ℤ) := by
    rw [lead]
    omega
  have hcoeff : 10 ^ (x.digits - 1) ≤ x.coeff.natAbs :=
    pow_le_of_digitCount (Int.natAbs_pos.2 h)
  have hscaled : (10 : ℚ) ^ (x.lead - 1) * 10 ^ x.scale ≤ |x.toRat| * 10 ^ x.scale := by
    rw [← zpow_add₀ (by norm_num), hlead, zpow_natCast, ← natCast_natAbs_coeff]
    exact_mod_cast hcoeff
  exact le_of_mul_le_mul_right hscaled (ten_zpow_pos _)

theorem abs_toRat_lt (x : Decimal) : |x.toRat| < (10 : ℚ) ^ x.lead := by
  have hlead : x.lead + x.scale = (x.digits : ℤ) := by
    rw [lead]
    omega
  have hcoeff : x.coeff.natAbs < 10 ^ x.digits := lt_pow_digitCount _
  have hscaled : |x.toRat| * 10 ^ x.scale < (10 : ℚ) ^ x.lead * 10 ^ x.scale := by
    rw [← zpow_add₀ (by norm_num), hlead, zpow_natCast, ← natCast_natAbs_coeff]
    exact_mod_cast hcoeff
  exact lt_of_mul_lt_mul_right hscaled (ten_zpow_pos _).le

/-- The position of the first digit is a property of the number. -/
theorem lead_eq_log (h : x.coeff ≠ 0) : x.lead = Int.log 10 |x.toRat| + 1 := by
  have hpos : 0 < |x.toRat| := abs_pos.2 (mt toRat_eq_zero_iff.1 h)
  have hlow : x.lead - 1 ≤ Int.log 10 |x.toRat| :=
    (Int.zpow_le_iff_le_log (by norm_num) hpos).1 (by exact_mod_cast zpow_le_abs_toRat h)
  have hhigh : Int.log 10 |x.toRat| < x.lead :=
    (Int.lt_zpow_iff_log_lt (by norm_num) hpos).1 (by exact_mod_cast abs_toRat_lt x)
  omega

/-! ## Comparison -/

theorem cmpMagnitude_eq (hx : x.coeff ≠ 0) (hy : y.coeff ≠ 0) :
    cmpMagnitude x y = compare |x.toRat| |y.toRat| := by
  unfold cmpMagnitude
  split
  · have hpos := ten_zpow_pos (max x.scale y.scale)
    have hxs : ((x.coeffAt (max x.scale y.scale)).natAbs : ℚ) =
        |x.toRat| * 10 ^ max x.scale y.scale := by
      rw [Nat.cast_natAbs, Int.cast_abs, cast_coeffAt (le_max_left ..), abs_mul, abs_of_pos hpos]
    have hys : ((y.coeffAt (max x.scale y.scale)).natAbs : ℚ) =
        |y.toRat| * 10 ^ max x.scale y.scale := by
      rw [Nat.cast_natAbs, Int.cast_abs, cast_coeffAt (le_max_right ..), abs_mul, abs_of_pos hpos]
    refine (compare_congr ?_ ?_ ?_).symm
    · intro hlt
      have := mul_lt_mul_of_pos_right hlt hpos
      rw [← hxs, ← hys] at this
      exact_mod_cast this
    · intro heq
      have : |x.toRat| * 10 ^ max x.scale y.scale = |y.toRat| * 10 ^ max x.scale y.scale := by
        rw [heq]
      rw [← hxs, ← hys] at this
      exact_mod_cast this
    · intro hgt
      have := mul_lt_mul_of_pos_right hgt hpos
      rw [← hxs, ← hys] at this
      exact_mod_cast this
  · next hne =>
    -- A number whose first digit stands further to the left is the larger one.
    have hfar : ∀ {u v : Decimal}, v.coeff ≠ 0 → u.lead < v.lead → |u.toRat| < |v.toRat| := by
      intro u v hv hlead
      calc |u.toRat| < 10 ^ u.lead := abs_toRat_lt u
        _ ≤ 10 ^ (v.lead - 1) := zpow_le_zpow_right₀ (by norm_num) (by omega)
        _ ≤ |v.toRat| := zpow_le_abs_toRat hv
    exact compare_congr (hfar hy) (fun h => absurd h hne) (hfar hx)

theorem toRat_lt_of_sign (h : x.coeff.sign < y.coeff.sign) : x.toRat < y.toRat := by
  rcases lt_trichotomy x.coeff 0 with hx | hx | hx
  · have hy : ¬ y.coeff < 0 := by
      intro hy
      rw [Int.sign_eq_neg_one_of_neg hx, Int.sign_eq_neg_one_of_neg hy] at h
      exact lt_irrefl _ h
    exact lt_of_lt_of_le (toRat_neg_iff.2 hx) (not_lt.1 (mt toRat_neg_iff.1 hy))
  · rw [hx, Int.sign_zero, Int.sign_pos_iff] at h
    rw [toRat_eq_zero_iff.2 hx]
    exact toRat_pos_iff.2 h
  · have hy := Int.sign_trichotomy y.coeff
    rw [Int.sign_eq_one_of_pos hx] at h
    omega

/-- Forms are compared as their numbers are. -/
theorem cmp_eq (x y : Decimal) : x.cmp y = compare x.toRat y.toRat := by
  unfold cmp
  split
  · next hsign =>
    exact compare_congr toRat_lt_of_sign (fun h => absurd h hsign) toRat_lt_of_sign
  · next hsign =>
    rw [ne_eq, not_not] at hsign
    split
    · next hzero =>
      have hy : y.coeff = 0 := by
        rwa [hzero, Int.sign_zero, eq_comm, Int.sign_eq_zero_iff_zero] at hsign
      rw [toRat_eq_zero_iff.2 hzero, toRat_eq_zero_iff.2 hy, compare_eq_iff_eq.2 rfl]
    · next hx =>
      have hy : y.coeff ≠ 0 := by
        rintro hy
        rw [hy, Int.sign_zero, Int.sign_eq_zero_iff_zero] at hsign
        exact hx hsign
      split
      · next hneg =>
        have hyneg : y.coeff < 0 := by
          rwa [Int.sign_eq_neg_one_of_neg hneg, eq_comm, Int.sign_eq_neg_one_iff_neg] at hsign
        rw [cmpMagnitude_eq hy hx, abs_of_neg (toRat_neg_iff.2 hneg),
          abs_of_neg (toRat_neg_iff.2 hyneg)]
        exact compare_congr (fun h => neg_lt_neg_iff.1 h) (fun h => (neg_injective h).symm)
          (fun h => neg_lt_neg_iff.1 h)
      · next hpos =>
        have hxpos : 0 < x.coeff := by omega
        have hypos : 0 < y.coeff := by
          rwa [Int.sign_eq_one_of_pos hxpos, eq_comm, Int.sign_eq_one_iff_pos] at hsign
        rw [cmpMagnitude_eq hx hy, abs_of_pos (toRat_pos_iff.2 hxpos),
          abs_of_pos (toRat_pos_iff.2 hypos)]

theorem less_iff : x.less y = true ↔ x.toRat < y.toRat := by
  rw [less, cmp_eq, beq_iff_eq, compare_lt_iff_lt]

end Decimal

end Reckon
