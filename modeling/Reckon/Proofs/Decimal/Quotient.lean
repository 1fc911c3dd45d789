import Reckon.Proofs.Decimal.Rounding

/-!
# The rounded quotient

The dividend is widened until the quotient has more digits than the precision keeps; what is cut
off behind them leaves a last digit one. No rounding can tell this from the exact quotient. The
zeros that widen it are counted in 32 bits, though.

* `Context.DivideScalesFit`: no scale leaves its 64 bits in a division. `Context.DivideFits`: nor
  does the number of zeros leave its 32 bits.
* `pow_le_quotient`, `pow_le_widened`: the cut quotient has all digits that are kept.
* `toRat_unroundedQuotient`: an exact quotient is the quotient of the numbers.
* `toDigits_unroundedQuotient`: a quotient that is cut off is rounded as the exact one is.
* `divide?_eq_none_iff`, `divide?_eq_round`: only a zero divisor has no quotient, and a quotient is
  rounded once. `toRat_divide?`: it is that of the numbers.
-/

namespace Reckon.Context

/-- No scale leaves its 64 bits when numbers other than zero are divided. -/
def QuotientFits (c : Context) (x y : Decimal) : Prop :=
  let natural := x.scale - y.scale
  let shift := c.widening x y
  FitsScale natural ∧ FitsScale (natural + shift) ∧
    (x.coeff.natAbs * 10 ^ wrapShift shift % y.coeff.natAbs ≠ 0 →
      FitsScale (natural + shift + 1)) ∧
    c.RoundFits (unroundedQuotient natural shift x y)

/-- No scale leaves its 64 bits when `x` is divided by `y`. -/
def DivideScalesFit (c : Context) (x y : Decimal) : Prop :=
  x.coeff = 0 ∨ y.coeff = 0 ∨ c.QuotientFits x y

/-- No scale leaves its 64 bits when `x` is divided by `y`, and the number of zeros that `x` is
given fits 32 bits. -/
def DivideFits (c : Context) (x y : Decimal) : Prop :=
  x.coeff = 0 ∨ y.coeff = 0 ∨ c.widening x y < 2 ^ 32 ∧ c.QuotientFits x y

variable {c : Context} {x y : Decimal} {shift : ℕ}

/-! ## Signs and magnitudes -/

theorem quotient_eq_sign_mul_abs (x y : Decimal) : x.toRat / y.toRat =
    (x.coeff.sign * y.coeff.sign : ℤ) * |x.toRat / y.toRat| := by
  have hinv : ((y.coeff.sign : ℤ) : ℚ)⁻¹ = y.coeff.sign := by
    rcases Int.sign_trichotomy y.coeff with h | h | h <;> rw [h] <;> norm_num
  rw [abs_div, mul_comm x.coeff.sign, Int.cast_mul]
  nth_rewrite 1 [x.toRat_eq_sign_mul_abs, y.toRat_eq_sign_mul_abs]
  rw [mul_div_mul_comm, div_eq_mul_inv (x.coeff.sign : ℚ), hinv, mul_comm (x.coeff.sign : ℚ)]

/-- The magnitude of the quotient in units of the last place of the widened dividend. -/
theorem abs_quotient_mul (x y : Decimal) (shift : ℕ) :
    |x.toRat / y.toRat| * 10 ^ (x.scale - y.scale + shift) =
      (x.coeff.natAbs * 10 ^ shift : ℕ) / (y.coeff.natAbs : ℕ) := by
  rw [Nat.cast_mul, Decimal.natCast_natAbs_coeff, Decimal.natCast_natAbs_coeff, abs_div,
    zpow_add₀ (by norm_num), zpow_sub₀ (by norm_num), zpow_natCast]
  push_cast
  rw [div_mul_eq_mul_div, mul_comm |y.toRat|, ← div_div]
  ring

theorem natAbs_sign_mul (hx : x.coeff ≠ 0) (hy : y.coeff ≠ 0) (n : ℕ) :
    (x.coeff.sign * y.coeff.sign * n).natAbs = n := by
  rw [Int.natAbs_mul, Int.natAbs_mul, Int.natAbs_sign_of_ne_zero hx, Int.natAbs_sign_of_ne_zero hy,
    one_mul, one_mul, Int.natAbs_natCast]

theorem quotient_neg_iff (hx : x.coeff ≠ 0) (hy : y.coeff ≠ 0) :
    x.toRat / y.toRat < 0 ↔ x.coeff.sign * y.coeff.sign < 0 := by
  have hpos : 0 < |x.toRat / y.toRat| := by
    refine abs_pos.2 (div_ne_zero ?_ ?_)
    · exact mt Decimal.toRat_eq_zero_iff.1 hx
    · exact mt Decimal.toRat_eq_zero_iff.1 hy
  rw [quotient_eq_sign_mul_abs, mul_neg_iff]
  simp only [hpos, hpos.not_gt, and_false, and_true, false_or, Int.cast_lt_zero]

theorem toRat_quotient_of_abs {m : ℕ} {s : ℤ} (h : |x.toRat / y.toRat| * 10 ^ s = m) :
    Decimal.toRat ⟨x.coeff.sign * y.coeff.sign * m, s⟩ = x.toRat / y.toRat := by
  refine Decimal.toRat_mk_of_cast ?_
  rw [quotient_eq_sign_mul_abs, mul_assoc _ |_|, h]
  push_cast
  rfl

/-! ## Enough digits -/

/-- The least number of digits of a quotient. -/
theorem pow_le_quotient (hx : x.coeff ≠ 0) (hy : y.coeff ≠ 0) {count : ℕ}
    (h : y.digits + count ≤ x.digits - 1 + shift) :
    10 ^ count ≤ x.coeff.natAbs * 10 ^ shift / y.coeff.natAbs := by
  refine (Nat.le_div_iff_mul_le (Int.natAbs_pos.2 hy)).2 ?_
  calc 10 ^ count * y.coeff.natAbs
      ≤ 10 ^ count * 10 ^ y.digits := Nat.mul_le_mul_left _ (lt_pow_digitCount _).le
    _ = 10 ^ (y.digits + count) := by rw [← pow_add, add_comm]
    _ ≤ 10 ^ (x.digits - 1 + shift) := Nat.pow_le_pow_right (by decide) h
    _ = 10 ^ (x.digits - 1) * 10 ^ shift := pow_add ..
    _ ≤ x.coeff.natAbs * 10 ^ shift :=
        Nat.mul_le_mul_right _ (pow_le_of_digitCount (Int.natAbs_pos.2 hx))

/-- The widened dividend has so many digits that the quotient has more than the precision. -/
theorem pow_le_widened (hx : x.coeff ≠ 0) (hy : y.coeff ≠ 0) :
    10 ^ c.precision ≤ x.coeff.natAbs * 10 ^ c.widening x y / y.coeff.natAbs := by
  refine pow_le_quotient hx hy ?_
  have hdigits : 1 ≤ x.digits := digitCount_pos _
  rw [widening]
  omega

/-! ## The quotient before it is rounded -/

/-- An exact quotient is that of the numbers. -/
theorem toRat_unroundedQuotient (hy : y.coeff ≠ 0) (hshift : shift < 2 ^ 32)
    (hscale : FitsScale (x.scale - y.scale + shift))
    (hexact : x.coeff.natAbs * 10 ^ shift % y.coeff.natAbs = 0) :
    (unroundedQuotient (x.scale - y.scale) shift x y).toRat = x.toRat / y.toRat := by
  unfold unroundedQuotient
  simp only [wrapShift_of_lt hshift, wrapScale_of_fits hscale, if_pos hexact]
  refine toRat_quotient_of_abs ?_
  have hzeros := stripZeros_mul (x.scale - y.scale + shift - (x.scale - y.scale)).toNat
    (x.coeff.natAbs * 10 ^ shift / y.coeff.natAbs)
  have hquotient := abs_quotient_mul x y shift
  rw [← Nat.cast_div (Nat.dvd_of_mod_eq_zero hexact) (by simpa using hy), ← hzeros] at hquotient
  rw [zpow_sub₀ (by norm_num), ← mul_div_assoc, hquotient, zpow_natCast, Nat.cast_mul,
    Nat.cast_pow, Nat.cast_ofNat, mul_div_cancel_right₀ _ (by positivity)]

/-- A quotient that is cut off is rounded as the exact one is. -/
theorem toDigits_unroundedQuotient (hx : x.coeff ≠ 0) (hy : y.coeff ≠ 0)
    (hshift : c.widening x y < 2 ^ 32)
    (hscale : FitsScale (x.scale - y.scale + c.widening x y))
    (hinexact : x.coeff.natAbs * 10 ^ c.widening x y % y.coeff.natAbs ≠ 0)
    (hnext : FitsScale (x.scale - y.scale + c.widening x y + 1)) :
    c.rounding.toDigits c.precision
        (unroundedQuotient (x.scale - y.scale) (c.widening x y) x y).toRat =
      c.rounding.toDigits c.precision (x.toRat / y.toRat) := by
  have hquotient := abs_quotient_mul x y (c.widening x y)
  have henough := pow_le_widened (c := c) hx hy
  have hrest := Nat.mod_lt (x.coeff.natAbs * 10 ^ c.widening x y) (Int.natAbs_pos.2 hy)
  have hsplit := Nat.div_add_mod' (x.coeff.natAbs * 10 ^ c.widening x y) y.coeff.natAbs
  unfold unroundedQuotient
  simp only [wrapShift_of_lt hshift, wrapScale_of_fits hscale, if_neg hinexact,
    wrapScale_of_fits hnext]
  generalize x.coeff.natAbs * 10 ^ c.widening x y = widened at *
  generalize x.scale - y.scale + (c.widening x y : ℤ) = s at *
  have hdivisor : (0 : ℚ) < y.coeff.natAbs := by exact_mod_cast Int.natAbs_pos.2 hy
  have hbetween : ((widened / y.coeff.natAbs : ℕ) : ℚ) < |x.toRat / y.toRat| * 10 ^ s ∧
      |x.toRat / y.toRat| * 10 ^ s < (widened / y.coeff.natAbs : ℕ) + 1 := by
    rw [hquotient, lt_div_iff₀ hdivisor, div_lt_iff₀ hdivisor]
    refine ⟨?_, ?_⟩
    · exact_mod_cast (by omega : widened / y.coeff.natAbs * y.coeff.natAbs < widened)
    · exact_mod_cast (by rw [Nat.add_mul, Nat.one_mul]; omega :
        widened < (widened / y.coeff.natAbs + 1) * y.coeff.natAbs)
  generalize widened / y.coeff.natAbs = quotient at *
  -- The digit one stands for what is cut off.
  have hdigit : |Decimal.toRat ⟨withSticky (x.coeff.sign * y.coeff.sign * quotient), s + 1⟩| *
      10 ^ s = quotient + 1 / 10 := by
    have hcoeff := Decimal.natCast_natAbs_coeff
      ⟨withSticky (x.coeff.sign * y.coeff.sign * quotient), s + 1⟩
    rw [natAbs_withSticky, natAbs_sign_mul hx hy, zpow_add_one₀ (by norm_num),
      ← mul_assoc] at hcoeff
    push_cast at hcoeff ⊢
    linarith
  refine (Rounding.toDigits_of_between c.rounding ?_ henough hbetween ?_).symm
  · have hpos : 0 < (quotient : ℤ) := by
      exact_mod_cast (Nat.pow_pos (by decide)).trans_le henough
    rw [quotient_neg_iff hx hy, Decimal.toRat_neg_iff, withSticky_neg_iff,
      mul_neg_iff (b := (quotient : ℤ))]
    simp only [hpos, hpos.not_gt, and_false, and_true, false_or]
  · rw [hdigit]
    constructor <;> linarith

/-! ## The rounded quotient -/

theorem divide?_eq_none_iff (c : Context) (x y : Decimal) :
    c.divide? x y = none ↔ y.toRat = 0 := by
  rw [← Decimal.isZero_iff]
  unfold divide?
  split
  · next hy => exact iff_of_true rfl hy
  · next hy =>
    split
    · exact iff_of_false nofun hy
    · exact iff_of_false nofun hy

/-- A zero has the scale zero when it is divided. -/
theorem divide?_of_zero (hx : x.toRat = 0) (hy : y.toRat ≠ 0) : c.divide? x y = some .zero := by
  rw [divide?, if_neg (mt Decimal.isZero_iff.1 hy), if_pos (Decimal.isZero_iff.2 hx)]

/-- The quotient of numbers that are not zero is rounded once. -/
theorem divide?_eq_round (hx : x.toRat ≠ 0) (hy : y.toRat ≠ 0) (h : c.QuotientFits x y) :
    c.divide? x y =
      some (c.round (unroundedQuotient (x.scale - y.scale) (c.widening x y) x y)) := by
  rw [divide?, if_neg (mt Decimal.isZero_iff.1 hy), if_neg (mt Decimal.isZero_iff.1 hx)]
  simp only [wrapScale_of_fits h.1]

theorem DivideScalesFit.quotientFits (h : c.DivideScalesFit x y) (hx : x.toRat ≠ 0)
    (hy : y.toRat ≠ 0) : c.QuotientFits x y :=
  (h.resolve_left (mt Decimal.toRat_eq_zero_iff.2 hx)).resolve_left
    (mt Decimal.toRat_eq_zero_iff.2 hy)

theorem DivideFits.scalesFit (h : c.DivideFits x y) : c.DivideScalesFit x y :=
  h.imp_right (Or.imp_right And.right)

theorem DivideFits.quotientFits (h : c.DivideFits x y) (hx : x.toRat ≠ 0) (hy : y.toRat ≠ 0) :
    c.widening x y < 2 ^ 32 ∧ c.QuotientFits x y :=
  (h.resolve_left (mt Decimal.toRat_eq_zero_iff.2 hx)).resolve_left
    (mt Decimal.toRat_eq_zero_iff.2 hy)

/-- The quotient is that of the numbers, rounded once. -/
theorem toRat_divide? (hy : y.toRat ≠ 0) (h : c.DivideFits x y) :
    ∃ q, c.divide? x y = some q ∧
      q.toRat = c.rounding.toDigits c.precision (x.toRat / y.toRat) := by
  by_cases hx : x.toRat = 0
  · refine ⟨.zero, divide?_of_zero hx hy, ?_⟩
    rw [hx, zero_div, Decimal.toRat_zero]
    exact (Rounding.atScale_zero _ _).symm
  · have hx' : x.coeff ≠ 0 := mt Decimal.toRat_eq_zero_iff.2 hx
    have hy' : y.coeff ≠ 0 := mt Decimal.toRat_eq_zero_iff.2 hy
    obtain ⟨hshift, hfits⟩ := h.quotientFits hx hy
    refine ⟨_, divide?_eq_round hx hy hfits, ?_⟩
    obtain ⟨-, hscale, hnext, hround⟩ := hfits
    rw [wrapShift_of_lt hshift] at hnext
    rw [toRat_round hround]
    by_cases hexact : x.coeff.natAbs * 10 ^ c.widening x y % y.coeff.natAbs = 0
    · rw [toRat_unroundedQuotient hy' hshift hscale hexact]
    · exact toDigits_unroundedQuotient hx' hy' hshift hscale hexact (hnext hexact)

end Reckon.Context
