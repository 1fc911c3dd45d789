import Reckon.Decimal.Arithmetic
import Mathlib.Algebra.Order.Field.Rat
import Mathlib.Algebra.Order.Floor.Semifield
import Mathlib.Data.Nat.Cast.Field
import Mathlib.Data.Rat.Floor
import Mathlib.Tactic.Linarith
import Mathlib.Tactic.NormNum
import Mathlib.Tactic.Positivity
import Mathlib.Tactic.Ring

/-!
# The numbers that decimals stand for

* `Decimal.toRat`: the rational number of which a decimal is one of many forms.
* `isZero_iff`, `isNegative_iff`, `isInteger_iff`, `whole_eq_floor`: what is asked of a form is a
  property of its number. `eq_of_toRat_eq`: of the forms of a number, the scale tells which one.
* `truncate`, `remainder`: the integer part toward zero, and what is left of a division that ends
  there.
* `toRat_neg`, `toRat_add`, `toRat_sub`, `toRat_rem`: the operations on forms are those on
  numbers, at any scales.
-/

namespace Reckon

/-! ## Truncating division -/

/-- The integer part of a number, toward zero. -/
def truncate (q : ℚ) : ℤ := if 0 ≤ q then ⌊q⌋ else -⌊-q⌋

theorem truncate_neg (q : ℚ) : truncate (-q) = -truncate q := by
  unfold truncate
  rcases lt_trichotomy q 0 with hq | rfl | hq
  · rw [if_pos (by linarith), if_neg (by linarith), neg_neg]
  · simp
  · rw [if_neg (by linarith), if_pos (by linarith), neg_neg]

theorem truncate_natCast_div (m n : ℕ) : truncate ((m : ℚ) / n) = (m / n : ℕ) := by
  rw [truncate, if_pos (by positivity)]
  exact Rat.floor_intCast_div_natCast m n

theorem truncate_intCast_div (a b : ℤ) : truncate ((a : ℚ) / b) = a.tdiv b := by
  obtain ⟨m, rfl | rfl⟩ := a.eq_nat_or_neg <;> obtain ⟨n, rfl | rfl⟩ := b.eq_nat_or_neg
  · exact truncate_natCast_div m n
  · rw [Int.tdiv_neg, Int.cast_neg, div_neg, truncate_neg]
    exact congrArg Neg.neg (truncate_natCast_div m n)
  · rw [Int.neg_tdiv, Int.cast_neg, neg_div, truncate_neg]
    exact congrArg Neg.neg (truncate_natCast_div m n)
  · rw [Int.neg_tdiv, Int.tdiv_neg, neg_neg, Int.cast_neg, Int.cast_neg, neg_div_neg_eq]
    exact truncate_natCast_div m n

/-- What is left of `q` after a whole number of times `r`, counted toward zero. -/
def remainder (q r : ℚ) : ℚ := q - r * truncate (q / r)

namespace Decimal

/-! ## Numbers -/

/-- The number that `x` is a form of. -/
def toRat (x : Decimal) : ℚ := x.coeff * 10 ^ (-x.scale)

variable {x y : Decimal}

theorem ten_zpow_pos (n : Int) : (0 : ℚ) < 10 ^ n := zpow_pos (by norm_num) n

theorem toRat_mk (c s : Int) : toRat ⟨c, s⟩ = c * 10 ^ (-s) := rfl

theorem toRat_mk_one (k : ℕ) : toRat ⟨1, k⟩ = 1 / toRat ⟨10 ^ k, 0⟩ := by
  rw [toRat_mk, toRat_mk, neg_zero, zpow_zero, mul_one, zpow_neg, zpow_natCast, Int.cast_one,
    one_mul, one_div, Int.cast_pow, Int.cast_ofNat]

theorem toRat_ofInt (n : Int) : (ofInt n).toRat = n := by simp [ofInt, toRat]

theorem toRat_zero : zero.toRat = 0 := by simp [zero, toRat_ofInt]

theorem toRat_one : one.toRat = 1 := by simp [one, toRat_ofInt]

theorem toRat_ofBool (b : Bool) : (ofBool b).toRat = if b then 1 else 0 := by
  cases b
  · exact toRat_zero
  · exact toRat_one

theorem toRat_neg (x : Decimal) : x.neg.toRat = -x.toRat := by simp [neg, toRat]

theorem toRat_abs (x : Decimal) : x.abs.toRat = |x.toRat| := by
  rw [abs, toRat_mk, toRat, abs_mul, abs_of_pos (ten_zpow_pos _), ← Int.cast_abs,
    Int.natCast_natAbs]

/-! ## Signs -/

theorem toRat_eq_zero_iff : x.toRat = 0 ↔ x.coeff = 0 := by
  simp [toRat, (ten_zpow_pos _).ne']

theorem toRat_pos_iff : 0 < x.toRat ↔ 0 < x.coeff := by
  rw [toRat, mul_pos_iff_of_pos_right (ten_zpow_pos _), Int.cast_pos]

theorem toRat_neg_iff : x.toRat < 0 ↔ x.coeff < 0 := by
  have hneg : 0 < x.neg.toRat ↔ 0 < -x.coeff := toRat_pos_iff
  rwa [toRat_neg, neg_pos, neg_pos] at hneg

theorem isZero_iff : x.isZero = true ↔ x.toRat = 0 := by
  rw [isZero, beq_iff_eq, toRat_eq_zero_iff]

theorem isNegative_iff : x.isNegative = true ↔ x.toRat < 0 := by
  rw [isNegative, decide_eq_true_eq, toRat_neg_iff]

/-! ## Whole numbers -/

/-- The magnitude as a quotient of natural numbers. -/
theorem abs_toRat (x : Decimal) :
    |x.toRat| = (x.coeff.natAbs * 10 ^ (-x.scale).toNat : ℕ) / (10 ^ x.scale.toNat : ℕ) := by
  have hscale : -x.scale = ((-x.scale).toNat : Int) - (x.scale.toNat : Int) := by omega
  have hcoeff : |(x.coeff : ℚ)| = x.coeff.natAbs := by rw [Nat.cast_natAbs, Int.cast_abs]
  rw [toRat, abs_mul, abs_of_pos (ten_zpow_pos _), hcoeff]
  nth_rewrite 1 [hscale]
  rw [zpow_sub₀ (by norm_num), zpow_natCast, zpow_natCast, ← mul_div_assoc]
  push_cast
  rfl

theorem whole_eq_floor (x : Decimal) : x.whole = ⌊|x.toRat|⌋₊ := by
  rw [abs_toRat, Nat.floor_div_eq_div]
  rfl

theorem natCast_whole (h : x.isInteger = true) : (x.whole : ℚ) = |x.toRat| := by
  have hdvd : 10 ^ x.scale.toNat ∣ x.coeff.natAbs * 10 ^ (-x.scale).toNat := by
    simp only [isInteger, Bool.or_eq_true, decide_eq_true_eq, beq_iff_eq] at h
    rcases h with hscale | hmod
    · rw [Int.toNat_of_nonpos hscale, pow_zero]
      exact one_dvd _
    · exact (Nat.dvd_of_mod_eq_zero hmod).mul_right _
  rw [abs_toRat, whole, Nat.cast_div hdvd (by positivity)]

theorem isInteger_iff : x.isInteger = true ↔ ∃ n : ℤ, x.toRat = n := by
  constructor
  · intro h
    have hwhole := natCast_whole h
    rcases abs_choice x.toRat with habs | habs
    · exact ⟨x.whole, by rw [← habs, ← hwhole]; rfl⟩
    · refine ⟨-x.whole, ?_⟩
      push_cast
      rw [hwhole, habs, neg_neg]
  · rintro ⟨n, hn⟩
    simp only [isInteger, Bool.or_eq_true, decide_eq_true_eq, beq_iff_eq]
    by_cases hscale : x.scale ≤ 0
    · exact .inl hscale
    · right
      have hnat : (x.scale.toNat : Int) = x.scale := by omega
      have hcoeff : (x.coeff : ℚ) = n * 10 ^ x.scale.toNat := by
        rw [← hn, toRat, ← zpow_natCast, hnat, mul_assoc, ← zpow_add₀ (by norm_num),
          neg_add_cancel, zpow_zero, mul_one]
      have hint : x.coeff = 10 ^ x.scale.toNat * n := by
        rw [mul_comm]
        exact_mod_cast hcoeff
      rw [hint, Int.natAbs_mul, Int.natAbs_pow]
      exact Nat.mul_mod_right ..

/-! ## Exact operations -/

theorem toRat_mk_of_cast {c s : Int} {q : ℚ} (h : (c : ℚ) = q * 10 ^ s) : toRat ⟨c, s⟩ = q := by
  rw [toRat_mk, h, mul_assoc, ← zpow_add₀ (by norm_num), add_neg_cancel, zpow_zero, mul_one]

theorem cast_coeffAt {s : Int} (h : x.scale ≤ s) : (x.coeffAt s : ℚ) = x.toRat * 10 ^ s := by
  unfold coeffAt
  split
  · next hzero => simp [toRat, hzero]
  · have hshift : ((s - x.scale).toNat : Int) = -x.scale + s := by omega
    rw [toRat, mul_assoc, ← zpow_add₀ (by norm_num), ← hshift, zpow_natCast]
    push_cast
    rfl

theorem coeffAt_self (x : Decimal) : x.coeffAt x.scale = x.coeff := by
  unfold coeffAt
  split
  · next hzero => exact hzero.symm
  · rw [sub_self, Int.toNat_zero, pow_zero, mul_one]

theorem cast_coeff (x : Decimal) : (x.coeff : ℚ) = x.toRat * 10 ^ x.scale := by
  rw [← cast_coeffAt le_rfl, coeffAt_self]

/-- A form is its number at its scale. -/
theorem eq_of_toRat_eq {x y : Decimal} (hvalue : x.toRat = y.toRat) (hscale : x.scale = y.scale) :
    x = y := by
  have hcoeff : (x.coeff : ℚ) = y.coeff := by rw [x.cast_coeff, y.cast_coeff, hvalue, hscale]
  obtain ⟨coeff, scale⟩ := x
  obtain rfl : scale = y.scale := hscale
  exact congrArg (Decimal.mk · y.scale) (Int.cast_injective hcoeff)

theorem toRat_add (x y : Decimal) : (x.add y).toRat = x.toRat + y.toRat := by
  refine toRat_mk_of_cast ?_
  push_cast
  rw [cast_coeffAt (le_max_left ..), cast_coeffAt (le_max_right ..), add_mul]

theorem toRat_sub (x y : Decimal) : (x.sub y).toRat = x.toRat - y.toRat := by
  unfold sub
  split
  · next hy => rw [isZero_iff.1 hy, sub_zero]
  · split
    · next hx => rw [toRat_neg, isZero_iff.1 hx, zero_sub]
    · refine toRat_mk_of_cast ?_
      push_cast
      rw [cast_coeffAt (le_max_left ..), cast_coeffAt (le_max_right ..), sub_mul]

theorem toRat_rem (x y : Decimal) : (x.rem y).toRat = remainder x.toRat y.toRat := by
  refine toRat_mk_of_cast ?_
  have hx := cast_coeffAt (le_max_left x.scale y.scale)
  have hy := cast_coeffAt (le_max_right x.scale y.scale)
  have hquotient : x.toRat / y.toRat =
      (x.coeffAt (max x.scale y.scale) : ℚ) / y.coeffAt (max x.scale y.scale) := by
    rw [hx, hy, mul_div_mul_right _ _ (ten_zpow_pos _).ne']
  rw [Int.tmod_def, remainder, hquotient, truncate_intCast_div]
  push_cast
  rw [hx, hy]
  ring

end Decimal

end Reckon
