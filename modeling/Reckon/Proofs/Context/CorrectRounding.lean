import Reckon.Proofs.Context.Extent
import Reckon.Proofs.Decimal.CorrectRounding

/-!
# Correctly rounded results

What a context makes of a number depends on the number alone, and is the number to which it has to
be rounded, as long as no scale leaves its 64 bits and no number of zeros its 32 bits.

* `rounds_round`: `round` keeps what is short and rounds correctly what is not.
* `lt_of_lost_zeros`: the quotient by a number with more digits than 32 bits count comes out too
  small.
* `rounds_quotient`: any other quotient is the exact quotient of the numbers, rounded correctly.
* `round_and_divide_mono`: both keep the order of numbers, whatever their forms. `lost_order`: where
  a scale does leave its 64 bits, they do not.
-/

namespace Reckon.Context

variable {c : Context} {x y : Decimal}

/-! ## Rounding to the precision -/

/-- A number with at most as many digits as the precision is kept as it is. Any other one is rounded
to as many digits, correctly, and is not rounded again. -/
theorem rounds_round (h : c.RoundFits x) :
    (c.round x).digits ≤ c.precision ∧ (x.digits ≤ c.precision → c.round x = x) ∧
      (∀ q, c.rounding.Rounds c.precision x.toRat q ↔ q = (c.round x).toRat) ∧
      c.round (c.round x) = c.round x := by
  refine ⟨digits_round_le h, round_of_digits_le, fun q => ?_, round_of_round h⟩
  rw [toRat_round h]
  exact Rounding.rounds_iff c.precision_pos

/-- A tie between `-9.9` and `-10`, where a carry runs through all digits. -/
theorem rounds_round_carry :
    let c : Context := ⟨2, .halfEven, by decide, by decide⟩
    let x : Decimal := ⟨-9950, 3⟩
    c.RoundFits x ∧ c.round x = ⟨-10, 0⟩ ∧ c.rounding.Rounds 2 x.toRat (-10) ∧
      c.round ⟨-10, 0⟩ = ⟨-10, 0⟩ := by
  intro c x
  have hfits : c.RoundFits x := roundFits_of_within x.within_extent (by decide +kernel)
  have hround : c.round x = ⟨-10, 0⟩ := by decide +kernel
  obtain ⟨-, -, hrounds, hagain⟩ := rounds_round hfits
  have hvalue : (-10 : ℚ) = (c.round x).toRat := by
    rw [hround, Decimal.toRat_mk]
    norm_num
  rw [hround] at hagain
  exact ⟨hfits, hround, (hrounds _).2 hvalue, hagain⟩

/-! ## Quotients -/

theorem digits_divide?_le {v : Decimal} (hy : y.toRat ≠ 0) (h : c.DivideScalesFit x y)
    (hv : c.divide? x y = some v) : v.digits ≤ c.precision := by
  by_cases hx : x.toRat = 0
  · rw [divide?_of_zero hx hy] at hv
    cases hv
    exact digitCount_zero.trans_le c.precision_pos
  · have hfits := h.quotientFits hx hy
    rw [divide?_eq_round hx hy hfits] at hv
    cases hv
    exact digits_round_le hfits.2.2.2

theorem divide?_rounds (hy : y.toRat ≠ 0) (hfits : c.DivideScalesFit x y) :
    ∃ v, c.divide? x y = some v ∧ v.digits ≤ c.precision ∧ (c.DivideFits x y →
      ∀ q, c.rounding.Rounds c.precision (x.toRat / y.toRat) q ↔ q = v.toRat) := by
  obtain ⟨v, hv⟩ := Option.ne_none_iff_exists'.1 (mt (divide?_eq_none_iff c x y).1 hy)
  refine ⟨v, hv, digits_divide?_le hy hfits hv, fun hzeros q => ?_⟩
  obtain ⟨w, hw, hvalue⟩ := toRat_divide? hy hzeros
  obtain rfl := Option.some.inj (hw.symm.trans hv)
  rw [hvalue]
  exact Rounding.rounds_iff c.precision_pos

/-- Where so many zeros are lost that the dividend stays shorter than the divisor, nothing is left
of the quotient but the digit for what was cut off, and not even its sign. -/
theorem divide?_lost_zeros (hx : x.toRat ≠ 0) (hy : y.toRat ≠ 0) (hfits : c.QuotientFits x y)
    (hlost : x.digits + wrapShift (c.widening x y) < y.digits) :
    c.divide? x y = some ⟨1, x.scale - y.scale + c.widening x y + 1⟩ := by
  have hx' : x.coeff ≠ 0 := mt Decimal.toRat_eq_zero_iff.2 hx
  have hy' : y.coeff ≠ 0 := mt Decimal.toRat_eq_zero_iff.2 hy
  rw [divide?_eq_round hx hy hfits]
  obtain ⟨-, hscale, hnext, -⟩ := hfits
  have hwidened : 0 < x.coeff.natAbs * 10 ^ wrapShift (c.widening x y) :=
    Nat.mul_pos (Int.natAbs_pos.2 hx') (Nat.pow_pos (by decide))
  have hshort : x.coeff.natAbs * 10 ^ wrapShift (c.widening x y) < y.coeff.natAbs := by
    calc x.coeff.natAbs * 10 ^ wrapShift (c.widening x y)
        < 10 ^ x.digits * 10 ^ wrapShift (c.widening x y) :=
          Nat.mul_lt_mul_of_pos_right (lt_pow_digitCount _) (Nat.pow_pos (by decide))
      _ = 10 ^ (x.digits + wrapShift (c.widening x y)) := (pow_add ..).symm
      _ ≤ 10 ^ (y.digits - 1) := Nat.pow_le_pow_right (by decide) (by omega)
      _ ≤ y.coeff.natAbs := pow_le_of_digitCount (Int.natAbs_pos.2 hy')
  rw [Nat.mod_eq_of_lt hshort] at hnext
  unfold unroundedQuotient
  simp only [Nat.mod_eq_of_lt hshort, Nat.div_eq_of_lt hshort, wrapScale_of_fits hscale,
    wrapScale_of_fits (hnext hwidened.ne'), if_neg hwidened.ne', Nat.cast_zero, mul_zero,
    withSticky_zero]
  have hone : digitCount 1 = 1 := digitCount_eq (k := 0) (by decide) (by decide)
  exact congrArg some (round_of_digits_le (hone.trans_le c.precision_pos))

/-- What is left is less than the correctly rounded quotient. -/
theorem lt_of_lost_zeros (hx : 0 < x.toRat) (hy : 0 < y.toRat)
    (hlost : x.digits + wrapShift (c.widening x y) < y.digits) {q : ℚ}
    (hq : c.rounding.Rounds c.precision (x.toRat / y.toRat) q) :
    Decimal.toRat ⟨1, x.scale - y.scale + c.widening x y + 1⟩ < q := by
  have hx' : x.coeff ≠ 0 := mt Decimal.toRat_eq_zero_iff.2 hx.ne'
  have hlow := zpow_mem_short c.precision_pos (x.lead - 1 - y.lead)
  have hle : (10 : ℚ) ^ (x.lead - 1 - y.lead) ≤ x.toRat / y.toRat := by
    have hdividend := Decimal.zpow_le_abs_toRat hx'
    have hdivisor := y.abs_toRat_lt
    rw [abs_of_pos hx] at hdividend
    rw [abs_of_pos hy] at hdivisor
    rw [zpow_sub₀ (by norm_num)]
    exact div_le_div₀ hx.le hdividend hy hdivisor.le
  refine lt_of_lt_of_le ?_ ((Rounding.rounds_self hlow).mono hq hle)
  rw [Decimal.toRat_mk, Int.cast_one, one_mul]
  refine zpow_lt_zpow_right₀ (by norm_num) ?_
  rw [Decimal.lead, Decimal.lead, widening]
  omega

/-- One divided by a whole number of `2 ^ 32 + 1` digits. -/
theorem divide?_one_of_long (c : Context) (hcoeff : 0 < y.coeff) (hscale : y.scale = 0)
    (hdigits : y.digits = 2 ^ 32 + 1) :
    c.QuotientFits .one y ∧ c.divide? .one y = some ⟨1, 2 ^ 32 + c.precision + 3⟩ ∧
      ∀ q, c.rounding.Rounds c.precision (1 / y.toRat) q →
        Decimal.toRat ⟨1, 2 ^ 32 + c.precision + 3⟩ < q := by
  have hprecision : c.precision ≤ 100000 := c.precision_le
  have hone : Decimal.one.digits = 1 := digitCount_eq (k := 0) (by decide) (by decide)
  have hwithin : y.Within (2 ^ 32 + 1) := by
    refine ⟨by omega, by omega, Decimal.abs_toRat_lt_of_lead_le ?_⟩
    rw [Decimal.lead]
    omega
  have hpos : 0 < y.toRat := Decimal.toRat_pos_iff.2 hcoeff
  have honepos : 0 < Decimal.one.toRat := Decimal.toRat_pos_iff.2 Int.one_pos
  have hwidening : c.widening .one y = c.precision + 2 + 2 ^ 32 := by
    rw [widening, hdigits, hone]
    omega
  have hlost : Decimal.one.digits + wrapShift (c.widening .one y) < y.digits := by
    rw [hwidening, hone, hdigits, wrapShift]
    omega
  have hplace : Decimal.one.scale - y.scale + c.widening .one y + 1 = 2 ^ 32 + c.precision + 3 := by
    rw [hwidening, hscale]
    show 0 - 0 + _ + 1 = _
    push_cast
    ring
  have hfits : c.QuotientFits .one y :=
    (within_unroundedQuotient Decimal.within_one hwithin (by decide) hcoeff.ne' (by omega) rfl).1
  have hquotient := divide?_lost_zeros honepos.ne' hpos.ne' hfits hlost
  rw [hplace] at hquotient
  refine ⟨hfits, hquotient, fun q hq => ?_⟩
  rw [← hplace]
  rw [← Decimal.toRat_one] at hq
  exact lt_of_lost_zeros honepos hpos hlost hq

/-- Only a zero divisor has no quotient. Any other quotient has at most as many digits as the
precision, and is the exact one, rounded correctly, if the zeros that it takes are not too many. -/
theorem rounds_quotient (c : Context) (x y : Decimal) :
    (c.divide? x y = none ↔ y.toRat = 0) ∧
      (y.toRat ≠ 0 → c.DivideScalesFit x y →
        ∃ v, c.divide? x y = some v ∧ v.digits ≤ c.precision ∧ (c.DivideFits x y →
          ∀ q, c.rounding.Rounds c.precision (x.toRat / y.toRat) q ↔ q = v.toRat)) :=
  ⟨divide?_eq_none_iff c x y, divide?_rounds⟩

/-- Only what is cut off shows that `-0.15003…` is no tie. -/
theorem rounds_quotient_sticky :
    let c : Context := ⟨1, .halfDown, by decide, by decide⟩
    let x : Decimal := ⟨4501, 4⟩
    let y : Decimal := ⟨-3, 0⟩
    y.toRat ≠ 0 ∧ c.DivideFits x y ∧ c.divide? x y = some ⟨-2, 1⟩ ∧
      c.rounding.Rounds 1 (x.toRat / y.toRat) (Decimal.toRat ⟨-2, 1⟩) := by
  intro c x y
  have hy : y.toRat ≠ 0 := mt Decimal.toRat_eq_zero_iff.1 (by decide)
  have hfits : c.DivideFits x y :=
    divideFits_of_within x.within_extent y.within_extent (by decide +kernel) (by decide +kernel)
  have hquotient : c.divide? x y = some ⟨-2, 1⟩ := by decide +kernel
  obtain ⟨v, hv, -, hrounds⟩ := (rounds_quotient c x y).2 hy hfits.scalesFit
  rw [hquotient] at hv
  cases hv
  exact ⟨hy, hfits, hquotient, (hrounds hfits _).2 rfl⟩

/-- One divided by the least number of `2 ^ 32 + 1` digits, and a dividend whose first digit stands
at a place that does not fit its word, though all scales do: neither quotient is rounded
correctly. -/
theorem rounds_quotient_lost_zeros :
    let c : Context := .default
    let x : Decimal := ⟨10 ^ 2 ^ 32, 0⟩
    let y : Decimal := ⟨12345678901234567, -9223372036854775806⟩
    x.toRat ≠ 0 ∧ c.QuotientFits .one x ∧ c.divide? .one x = some ⟨1, 4294967315⟩ ∧
      ¬ c.rounding.Rounds 16 (1 / x.toRat) (Decimal.toRat ⟨1, 4294967315⟩) ∧
      FitsScale y.scale ∧ FitsScale (y.scale + c.widening y .one) ∧ FitsScale (y.scale - 1) ∧
      c.divide? y .one = some ⟨0, -9223372036854775807⟩ ∧
      ¬ c.rounding.Rounds 16 (y.toRat / 1) (Decimal.toRat ⟨0, -9223372036854775807⟩) := by
  intro c x y
  have hcoeff : 0 < x.coeff := Int.pow_pos (by decide)
  have hdigits : x.digits = 2 ^ 32 + 1 := Decimal.digits_pow _ 0
  obtain ⟨hfits, hquotient, hless⟩ := divide?_one_of_long c hcoeff rfl hdigits
  have hy : y.toRat / 1 ≠ 0 := by
    rw [div_one, ne_eq, Decimal.toRat_eq_zero_iff]
    decide
  refine ⟨(Decimal.toRat_pos_iff.2 hcoeff).ne', hfits, hquotient, fun h => ?_,
    ⟨by decide, by decide⟩, ⟨by decide +kernel, by decide +kernel⟩, ⟨by decide, by decide⟩,
    by decide +kernel, fun h => ?_⟩
  · exact lt_irrefl _ (hless _ h)
  · exact h.ne_zero (by decide) hy (Decimal.toRat_eq_zero_iff.2 rfl)

/-! ## Order -/

/-- Rounded numbers are in the order of the numbers, and so are quotients by one positive number.
Forms make no difference. -/
theorem round_and_divide_mono (c : Context) :
    (∀ x y : Decimal, c.RoundFits x → c.RoundFits y → x.toRat ≤ y.toRat →
      (c.round x).toRat ≤ (c.round y).toRat) ∧
    (∀ x y z : Decimal, c.DivideFits x z → c.DivideFits y z → x.toRat ≤ y.toRat → 0 < z.toRat →
      ∃ u v, c.divide? x z = some u ∧ c.divide? y z = some v ∧ u.toRat ≤ v.toRat) ∧
    ∀ x y : Decimal, c.RoundFits x → c.RoundFits y → x.toRat = y.toRat →
      (c.round x).toRat = (c.round y).toRat := by
  refine ⟨fun x y hx hy hle => ?_, fun x y z hx hy hle hz => ?_, fun x y hx hy heq => ?_⟩
  · rw [toRat_round hx, toRat_round hy]
    exact c.rounding.toDigits_mono c.precision_pos hle
  · obtain ⟨u, hu, hu'⟩ := toRat_divide? hz.ne' hx
    obtain ⟨v, hv, hv'⟩ := toRat_divide? hz.ne' hy
    refine ⟨u, v, hu, hv, ?_⟩
    rw [hu', hv']
    exact c.rounding.toDigits_mono c.precision_pos (div_le_div_of_nonneg_right hle hz.le)
  · rw [toRat_round hx, toRat_round hy, heq]

/-- One of the numbers fits the precision, the other one is rounded with a carry. -/
theorem round_and_divide_mono_carry :
    let c : Context := ⟨2, .up, by decide, by decide⟩
    let x : Decimal := ⟨991, 2⟩
    let y : Decimal := ⟨1000, 2⟩
    let z : Decimal := ⟨3, -1⟩
    c.RoundFits x ∧ c.RoundFits y ∧ x.toRat ≤ y.toRat ∧ c.round x = ⟨10, 0⟩ ∧
      (c.round x).toRat ≤ (c.round y).toRat ∧ c.DivideFits x z ∧ c.DivideFits y z ∧
      0 < z.toRat ∧ ∃ u v, c.divide? x z = some u ∧ c.divide? y z = some v ∧ u.toRat ≤ v.toRat := by
  intro c x y z
  have hx : c.RoundFits x := roundFits_of_within x.within_extent (by decide +kernel)
  have hy : c.RoundFits y := roundFits_of_within y.within_extent (by decide +kernel)
  have hxz : c.DivideFits x z :=
    divideFits_of_within x.within_extent z.within_extent (by decide +kernel) (by decide +kernel)
  have hyz : c.DivideFits y z :=
    divideFits_of_within y.within_extent z.within_extent (by decide +kernel) (by decide +kernel)
  have hle : x.toRat ≤ y.toRat := by
    rw [Decimal.toRat_mk, Decimal.toRat_mk]
    norm_num
  have hz : 0 < z.toRat := Decimal.toRat_pos_iff.2 (by decide)
  obtain ⟨hround, hdivide, -⟩ := round_and_divide_mono c
  exact ⟨hx, hy, hle, by decide +kernel, hround x y hx hy hle, hxz, hyz, hz,
    hdivide x y z hxz hyz hle hz⟩

/-- The first digit of a number with seventeen digits stands at the place `10 ^ (2 ^ 63 + 14)`,
which does not fit its word. The number is rounded to zero, and so is its quotient by one. -/
theorem lost_order :
    let c : Context := .default
    let x : Decimal := .one
    let y : Decimal := ⟨12345678901234567, -9223372036854775806⟩
    FitsScale y.scale ∧ x.toRat ≤ y.toRat ∧
      c.round x = .one ∧ c.round y = ⟨0, -9223372036854775807⟩ ∧
      c.divide? x .one = some .one ∧ c.divide? y .one = some ⟨0, -9223372036854775807⟩ ∧
      ¬ Decimal.one.toRat ≤ Decimal.toRat ⟨0, -9223372036854775807⟩ := by
  intro c x y
  refine ⟨⟨by decide, by decide⟩, ?_, by decide +kernel, by decide +kernel, by decide +kernel,
    by decide +kernel, ?_⟩
  · have hpower : (1 : ℚ) ≤ 10 ^ (-y.scale) := one_le_zpow₀ (by norm_num) (by decide)
    rw [Decimal.toRat_one, Decimal.toRat]
    exact hpower.trans (le_mul_of_one_le_left (zero_le_one.trans hpower) (by norm_num [y]))
  · rw [Decimal.toRat_one, Decimal.toRat_eq_zero_iff.2 rfl]
    norm_num

end Reckon.Context
