import Mathlib.Data.Int.ModEq
import Reckon.Proofs.Decimal.Value

/-!
# Products and powers of the numbers

* `MulFits`, `NormalFits`, `PowMulFits`, `PowFits`: no scale leaves its 64 bits on the way.
* `toRat_mul`, `toRat_powMul`: the product of forms is that of the numbers, whether a one is
  recognised or not. `toRat_normalized`: trailing zeros make no difference.
* `toRat_powFrom`: repeated squaring keeps `acc` times `square ^ n`; `toRat_pow`: so it gives the
  power.
* `coeff_pow_eq_zero_iff`: only a power of zero is zero, wherever the scales go.
* `pow_unit`: a power of a power of ten has its scale multiplied in 64 bits.
  `toRat_pow_unit_iff`: it is the power of the number just where the product fits.
-/

namespace Reckon.Decimal

variable {x y : Decimal}

/-! ## Products -/

theorem toRat_of_isOne (h : x.isOne = true) : x.toRat = 1 := by
  simp only [isOne, Bool.and_eq_true, decide_eq_true_eq, beq_iff_eq] at h
  obtain ⟨⟨hscale, -⟩, hcoeff⟩ := h
  have hnat : (x.scale.toNat : ℤ) = x.scale := Int.toNat_of_nonneg hscale
  rw [toRat, hcoeff, zpow_neg, ← hnat, zpow_natCast, hnat]
  push_cast
  exact mul_inv_cancel₀ (by positivity)

theorem toRat_scaledMul (h : FitsScale (x.scale + y.scale)) :
    (x.scaledMul y).toRat = x.toRat * y.toRat := by
  rw [scaledMul, toRat_mk, wrapScale_of_fits h, neg_add, zpow_add₀ (by norm_num), toRat, toRat]
  push_cast
  ring

/-- The scale of the product of `x` and `y` fits its word. -/
def MulFits (x y : Decimal) : Prop :=
  x.isOne = true ∨ y.isOne = true ∨ FitsScale (x.scale + y.scale)

/-- The product of the forms is that of the numbers. -/
theorem toRat_mul (h : x.MulFits y) : (x.mul y).toRat = x.toRat * y.toRat := by
  unfold mul
  split
  · next hx => rw [toRat_of_isOne hx, one_mul]
  · next hx =>
    split
    · next hy => rw [toRat_of_isOne hy, mul_one]
    · next hy => exact toRat_scaledMul ((h.resolve_left hx).resolve_left hy)

/-- The scale without the trailing zeros of `x` fits its word. -/
def NormalFits (x : Decimal) : Prop :=
  x.coeff = 0 ∨ FitsScale (x.scale - (stripZeros x.digits x.coeff.natAbs).1)

theorem toRat_normalized (h : x.NormalFits) : x.normalized.toRat = x.toRat := by
  unfold normalized
  split
  · next hzero => rw [toRat_zero, toRat_eq_zero_iff.2 hzero]
  · next hne =>
    have hkept := stripZeros_mul x.digits x.coeff.natAbs
    have hcoeff : (x.coeff.sign * x.coeff.natAbs : ℤ) = (x.coeff : ℚ) := by
      rw [Int.sign_mul_natAbs]
    simp only [wrapScale_of_fits (h.resolve_left hne)]
    generalize stripZeros x.digits x.coeff.natAbs = stripped at hkept
    rw [toRat_mk, toRat, ← hcoeff, ← hkept, neg_sub, sub_eq_add_neg, zpow_add₀ (by norm_num),
      zpow_natCast]
    push_cast
    ring

/-- A coefficient that does not end in a zero is kept. -/
theorem normalized_of_not_dvd (hcoeff : ¬ 10 ∣ x.coeff) (hscale : FitsScale x.scale) :
    x.normalized = x := by
  have hne : x.coeff ≠ 0 := fun h => hcoeff (h ▸ dvd_zero 10)
  have hkept := stripZeros_mul x.digits x.coeff.natAbs
  have hcount : (stripZeros x.digits x.coeff.natAbs).1 = 0 := by
    by_contra hzeros
    refine hcoeff (Int.natAbs_dvd_natAbs.1 ?_)
    rw [← hkept]
    exact (dvd_pow_self 10 hzeros).mul_left _
  rw [hcount, pow_zero, mul_one] at hkept
  rw [normalized, if_neg hne]
  simp only [hcount, hkept, Int.sign_mul_natAbs, Nat.cast_zero, sub_zero, wrapScale_of_fits hscale]

/-- No scale leaves its 64 bits in the product that powers are made of. -/
def PowMulFits (x y : Decimal) : Prop :=
  if x.isOne then y.NormalFits
  else if y.isOne then x.NormalFits
  else FitsScale (x.scale + y.scale)

theorem toRat_powMul (h : x.PowMulFits y) : (x.powMul y).toRat = x.toRat * y.toRat := by
  unfold PowMulFits at h
  unfold powMul
  split
  · next hx =>
    rw [if_pos hx] at h
    rw [toRat_normalized h, toRat_of_isOne hx, one_mul]
  · next hx =>
    rw [if_neg hx] at h
    split
    · next hy =>
      rw [if_pos hy] at h
      rw [toRat_normalized h, toRat_of_isOne hy, mul_one]
    · next hy =>
      rw [if_neg hy] at h
      exact toRat_scaledMul h

/-! ## Powers -/

/-- No scale leaves its 64 bits in the products of `powFrom acc square n`. -/
def PowFromFits (acc square : Decimal) (n : Nat) : Prop :=
  n ≠ 0 →
    (n % 2 = 1 → acc.PowMulFits square) ∧
      (n / 2 ≠ 0 → square.PowMulFits square ∧
        PowFromFits (if n % 2 = 1 then acc.powMul square else acc) (square.powMul square) (n / 2))
termination_by n

/-- No scale leaves its 64 bits on the way to the `n`-th power. -/
def PowFits (x : Decimal) (n : Nat) : Prop := PowFromFits one x n

/-- Repeated squaring keeps the number `acc * square ^ n`. -/
theorem toRat_powFrom (acc square : Decimal) (n : Nat) (h : PowFromFits acc square n) :
    (powFrom acc square n).toRat = acc.toRat * square.toRat ^ n := by
  fun_induction powFrom acc square n with
  | case1 acc square => simp
  | case2 acc square n hn acc' hlast =>
    rw [PowFromFits] at h
    have hone : n = 1 := by omega
    subst hone
    have hmul : acc.PowMulFits square := (h hn).1 rfl
    simp [acc', toRat_powMul hmul]
  | case3 acc square n hn acc' hmore ih =>
    rw [PowFromFits] at h
    obtain ⟨hodd, hrest⟩ := h hn
    obtain ⟨hsquare, hfrom⟩ := hrest hmore
    have hacc : acc'.toRat = acc.toRat * square.toRat ^ (n % 2) := by
      rcases Nat.mod_two_eq_zero_or_one n with hbit | hbit
      · simp [acc', hbit]
      · simp [acc', hbit, toRat_powMul (hodd hbit)]
    calc (powFrom acc' (square.powMul square) (n / 2)).toRat
        = acc'.toRat * (square.powMul square).toRat ^ (n / 2) := ih hfrom
      _ = acc.toRat * (square.toRat ^ (n % 2) * (square.toRat ^ 2) ^ (n / 2)) := by
          rw [hacc, toRat_powMul hsquare, ← sq, mul_assoc]
      _ = acc.toRat * square.toRat ^ n := by
          rw [← pow_mul, ← pow_add, Nat.mod_add_div]

/-- The power of the form is that of the number. -/
theorem toRat_pow {n : Nat} (h : x.PowFits n) : (x.pow n).toRat = x.toRat ^ n := by
  rw [pow, toRat_powFrom one x n h, toRat_one, one_mul]

/-! ## Zeros

A coefficient is zero or not whatever becomes of the scales. -/

theorem coeff_ne_zero_of_isOne (h : x.isOne = true) : x.coeff ≠ 0 := by
  rw [ne_eq, ← toRat_eq_zero_iff, toRat_of_isOne h]
  exact one_ne_zero

theorem coeff_normalized_eq_zero_iff : x.normalized.coeff = 0 ↔ x.coeff = 0 := by
  unfold normalized
  split
  · next hzero => exact iff_of_true rfl hzero
  · next hne =>
    have hkept := stripZeros_mul x.digits x.coeff.natAbs
    have hpos : 0 < (stripZeros x.digits x.coeff.natAbs).2 := by
      refine Nat.pos_of_ne_zero fun hzero => hne ?_
      rw [hzero, zero_mul] at hkept
      exact Int.natAbs_eq_zero.1 hkept.symm
    refine iff_of_false (mul_ne_zero ?_ ?_) hne
    · exact mt Int.sign_eq_zero_iff_zero.1 hne
    · exact Int.natCast_ne_zero.2 hpos.ne'

theorem coeff_powMul_eq_zero_iff : (x.powMul y).coeff = 0 ↔ x.coeff = 0 ∨ y.coeff = 0 := by
  unfold powMul
  split
  · next hx => rw [coeff_normalized_eq_zero_iff, or_iff_right (coeff_ne_zero_of_isOne hx)]
  · split
    · next hy => rw [coeff_normalized_eq_zero_iff, or_iff_left (coeff_ne_zero_of_isOne hy)]
    · exact mul_eq_zero

theorem coeff_powFrom_eq_zero_iff (acc square : Decimal) (n : Nat) :
    (powFrom acc square n).coeff = 0 ↔ acc.coeff = 0 ∨ n ≠ 0 ∧ square.coeff = 0 := by
  fun_induction powFrom acc square n with
  | case1 acc square => simp
  | case2 acc square n hn acc' hlast =>
    have hone : n = 1 := by omega
    subst hone
    simp [acc', coeff_powMul_eq_zero_iff]
  | case3 acc square n hn acc' hmore ih =>
    have hacc : acc'.coeff = 0 ↔ acc.coeff = 0 ∨ n % 2 = 1 ∧ square.coeff = 0 := by
      rcases Nat.mod_two_eq_zero_or_one n with hbit | hbit
      · simp [acc', hbit]
      · simp [acc', hbit, coeff_powMul_eq_zero_iff]
    rw [ih, hacc, coeff_powMul_eq_zero_iff]
    tauto

/-- Only a power of zero is zero. -/
theorem coeff_pow_eq_zero_iff {n : Nat} : (x.pow n).coeff = 0 ↔ n ≠ 0 ∧ x.coeff = 0 := by
  rw [pow, coeff_powFrom_eq_zero_iff]
  exact or_iff_right one_ne_zero

/-! ## Powers of ten -/

theorem wrapScale_modEq (n : ℤ) : wrapScale n ≡ n [ZMOD 2 ^ 64] := Int.bmod_emod

theorem wrapScale_congr {m n : ℤ} (h : m ≡ n [ZMOD 2 ^ 64]) : wrapScale m = wrapScale n := by
  have hm : (m % 2 ^ 64).bmod (2 ^ 64) = wrapScale m := Int.emod_bmod m _
  have hn : (n % 2 ^ 64).bmod (2 ^ 64) = wrapScale n := Int.emod_bmod n _
  rw [← hm, ← hn, h]

theorem isOne_unit {s : ℤ} (h : (Decimal.mk 1 s).isOne = true) : s = 0 := by
  simp only [isOne, Bool.and_eq_true, decide_eq_true_eq, beq_iff_eq] at h
  obtain ⟨⟨hnonneg, -⟩, hcoeff⟩ := h
  rcases Nat.eq_zero_or_pos s.toNat with hzero | hpos
  · omega
  · have hlt : (1 : ℤ) < 10 ^ s.toNat := one_lt_pow₀ (by norm_num) (by omega)
    omega

theorem normalized_unit (s : ℤ) : (Decimal.mk 1 s).normalized = ⟨1, wrapScale s⟩ := by
  have hstrip : stripZeros (Decimal.mk 1 s).digits 1 = (0, 1) := by
    show stripZeros (digitCount 1) 1 = (0, 1)
    decide +kernel
  have hnormal : (Decimal.mk 1 s).normalized =
      ⟨1 * ((stripZeros (Decimal.mk 1 s).digits 1).2 : ℕ),
        wrapScale (s - (stripZeros (Decimal.mk 1 s).digits 1).1)⟩ := rfl
  rw [hnormal, hstrip]
  simp

theorem powMul_unit (s t : ℤ) : (Decimal.mk 1 s).powMul ⟨1, t⟩ = ⟨1, wrapScale (s + t)⟩ := by
  unfold powMul
  split
  · next hs => rw [normalized_unit, isOne_unit hs, zero_add]
  · split
    · next ht => rw [normalized_unit, isOne_unit ht, add_zero]
    · rfl

theorem powFrom_unit (s t : ℤ) {n : ℕ} (hn : n ≠ 0) :
    powFrom ⟨1, s⟩ ⟨1, t⟩ n = ⟨1, wrapScale (s + t * n)⟩ := by
  induction n using Nat.strongRecOn generalizing s t with
  | ind n ih =>
    have hsplit : (n : ℤ) = (n % 2 : ℕ) + 2 * (n / 2 : ℕ) := by
      exact_mod_cast (Nat.mod_add_div n 2).symm
    rw [powFrom, if_neg hn]
    simp only [powMul_unit]
    split
    · next hlast =>
      have hone : n = 1 := by omega
      subst hone
      simp
    · next hmore =>
      have hacc : ∃ u, (if n % 2 = 1 then (⟨1, wrapScale (s + t)⟩ : Decimal) else ⟨1, s⟩) = ⟨1, u⟩ ∧
          u ≡ s + t * (n % 2 : ℕ) [ZMOD 2 ^ 64] := by
        rcases Nat.mod_two_eq_zero_or_one n with hbit | hbit
        · exact ⟨s, by simp [hbit], by simp [hbit, Int.ModEq.refl]⟩
        · exact ⟨wrapScale (s + t), by simp [hbit], by simpa [hbit] using wrapScale_modEq (s + t)⟩
      obtain ⟨u, hu, hmod⟩ := hacc
      rw [hu, ih (n / 2) (by omega) u _ hmore]
      refine congrArg (Decimal.mk 1) (wrapScale_congr ?_)
      calc u + wrapScale (t + t) * (n / 2 : ℕ)
          ≡ s + t * (n % 2 : ℕ) + (t + t) * (n / 2 : ℕ) [ZMOD 2 ^ 64] :=
            hmod.add ((wrapScale_modEq _).mul_right _)
        _ = s + t * n := by
            rw [hsplit]
            push_cast
            ring

/-- The scale of a power of a power of ten is multiplied in 64 bits. -/
theorem pow_unit (s : ℤ) {n : ℕ} (hn : n ≠ 0) : pow ⟨1, s⟩ n = ⟨1, wrapScale (s * n)⟩ := by
  rw [pow, one, ofInt, powFrom_unit 0 s hn, zero_add]

theorem pow_one (x : Decimal) : x.pow 1 = x.normalized := by
  have hone : one.isOne = true := by decide
  have hodd : 1 % 2 = 1 := rfl
  have hlast : 1 / 2 = 0 := rfl
  rw [pow, powFrom, if_neg Nat.one_ne_zero]
  simp only [hodd, hlast, if_true]
  rw [powMul, if_pos hone]

theorem toRat_unit_pow (s : ℤ) (n : ℕ) : (mk 1 s).toRat ^ n = toRat ⟨1, s * n⟩ := by
  rw [toRat_mk, toRat_mk, Int.cast_one, one_mul, one_mul, ← zpow_natCast, ← zpow_mul, neg_mul]

theorem toRat_unit_inj {s t : ℤ} : toRat ⟨1, s⟩ = toRat ⟨1, t⟩ ↔ s = t := by
  rw [toRat_mk, toRat_mk, Int.cast_one, one_mul, one_mul,
    (zpow_right_injective₀ (by norm_num) (by norm_num)).eq_iff, neg_inj]

/-- The power of a power of ten is right just where its scale fits. -/
theorem toRat_pow_unit_iff (s : ℤ) {n : ℕ} (hn : n ≠ 0) :
    (pow ⟨1, s⟩ n).toRat = (mk 1 s).toRat ^ n ↔ FitsScale (s * n) := by
  rw [pow_unit s hn, toRat_unit_pow, toRat_unit_inj]
  refine ⟨fun h => ?_, wrapScale_of_fits⟩
  rw [← h]
  exact fits_wrapScale _

end Reckon.Decimal
