import Reckon.Proofs.Context.CorrectRounding

/-!
# Powers with whole exponents

An exponent counts as whole for the number that it is: `2.0` and `1e1` are whole.

* `Context.power_eq_divisionByZero_iff`: only zero to a negative exponent divides by zero.
* `Context.power_of_nonneg`, `Context.power_of_neg`: what repeated squaring makes of the base, and
  the reciprocal of that.
* `Context.power_of_whole`: the power that an exponent of at most `maxExponent` stands for, exact or
  as a division gives it, and the error for every other exponent.
  `Context.power_of_whole_lost_zeros`: a reciprocal that takes too many zeros is not the one that
  it should be rounded to.
-/

namespace Reckon

namespace Decimal

variable {n : Decimal} {k : ℤ}

theorem isInteger_of_toRat (hk : n.toRat = k) : n.isInteger = true := isInteger_iff.2 ⟨k, hk⟩

theorem whole_of_toRat (hk : n.toRat = k) : n.whole = k.natAbs := by
  rw [whole_eq_floor, hk, ← Int.cast_abs, Int.abs_eq_natAbs, Int.cast_natCast, Nat.floor_natCast]

theorem isNegative_of_toRat (hk : n.toRat = k) : n.isNegative = true ↔ k < 0 := by
  rw [isNegative_iff, hk, Int.cast_lt_zero]

theorem one_div_toRat_two (s : ℤ) : 1 / toRat ⟨2, s⟩ = toRat ⟨5, 1 - s⟩ := by
  rw [toRat_mk, toRat_mk, neg_sub, zpow_sub_one₀ (by norm_num), zpow_neg]
  push_cast
  field_simp
  norm_num

end Decimal

namespace Context

variable {c : Context} {x y n : Decimal} {k : ℤ}

/-! ## Zero divisors -/

theorem divide_eq_error_iff {err : EvalError} :
    c.divide x y = .error err ↔ y.toRat = 0 ∧ err = .divisionByZero := by
  rw [← divide?_eq_none_iff c x y]
  unfold divide
  split
  · next q hq => simp [hq]
  · next hq => simp [hq, eq_comm]

theorem realPower_ne_divisionByZero : c.realPower x n ≠ .error .divisionByZero := by
  unfold realPower
  dsimp only
  split
  · rintro ⟨⟩
  · rintro ⟨⟩

/-- The reciprocal that a whole exponent asks for is never that of a zero. -/
theorem integerPower_ne_divisionByZero (h : ¬ (x.toRat = 0 ∧ n.toRat < 0)) :
    c.integerPower x n ≠ .error .divisionByZero := by
  unfold integerPower
  split
  · rintro ⟨⟩
  · dsimp only
    split
    · next hneg =>
      have hbase : x.toRat ≠ 0 := fun hzero => h ⟨hzero, Decimal.isNegative_iff.1 hneg⟩
      rw [ne_eq, divide_eq_error_iff, Decimal.toRat_eq_zero_iff, Decimal.coeff_pow_eq_zero_iff,
        ← Decimal.toRat_eq_zero_iff]
      exact fun hraised => hbase hraised.1.2
    · rintro ⟨⟩

/-- Only zero to a negative exponent divides by zero, whether the exponent is whole or not. -/
theorem power_eq_divisionByZero_iff :
    c.power x n = .error .divisionByZero ↔ x.toRat = 0 ∧ n.toRat < 0 := by
  unfold power
  simp only [Bool.and_eq_true, Decimal.isZero_iff, Decimal.isNegative_iff]
  split
  · next hzero => exact iff_of_true rfl hzero
  · next hzero =>
    refine iff_of_false ?_ hzero
    split
    · exact integerPower_ne_divisionByZero hzero
    · split
      · rintro ⟨⟩
      · split
        · rintro ⟨⟩
        · exact realPower_ne_divisionByZero

/-! ## Repeated squaring and reciprocals -/

theorem power_eq_integerPower (hk : n.toRat = k) (h : ¬ (x.toRat = 0 ∧ k < 0)) :
    c.power x n = c.integerPower x n := by
  have hguard : ¬ (x.isZero && n.isNegative) = true := by
    rwa [Bool.and_eq_true, Decimal.isZero_iff, Decimal.isNegative_of_toRat hk]
  rw [power, if_neg hguard, if_pos (Decimal.isInteger_of_toRat hk)]

theorem power_of_large (hk : n.toRat = k) (h : ¬ (x.toRat = 0 ∧ k < 0))
    (hlarge : maxExponent < k.natAbs) :
    c.power x n = .error (.overflow s!"exponent {n.plain} is larger than {maxExponent}") := by
  rw [power_eq_integerPower hk h, integerPower, Decimal.whole_of_toRat hk, if_pos hlarge]

theorem power_of_nonneg (hk : n.toRat = k) (hnonneg : 0 ≤ k) (hsmall : k.natAbs ≤ maxExponent) :
    c.power x n = .ok (x.pow k.natAbs) := by
  have hneg : ¬ n.isNegative = true := by
    rw [Decimal.isNegative_of_toRat hk]
    exact not_lt.2 hnonneg
  rw [power_eq_integerPower hk (fun h => not_lt.2 hnonneg h.2), integerPower,
    Decimal.whole_of_toRat hk, if_neg (not_lt.2 hsmall)]
  exact if_neg hneg

theorem power_of_neg (hk : n.toRat = k) (hneg : k < 0) (hx : x.toRat ≠ 0)
    (hsmall : k.natAbs ≤ maxExponent) :
    c.power x n = c.divide .one (x.pow k.natAbs) := by
  rw [power_eq_integerPower hk (fun h => hx h.1), integerPower, Decimal.whole_of_toRat hk,
    if_neg (not_lt.2 hsmall)]
  exact if_pos ((Decimal.isNegative_of_toRat hk).2 hneg)

/-- What a whole exponent gives. Zero to a negative exponent is the only division by zero there is.
Any other exponent beyond `maxExponent` is refused. Up to there the power is exact if the exponent
is not negative, and else what a division of one by the exact power gives, which is rounded
correctly if the zeros that it takes are not too many. -/
theorem power_of_whole (c : Context) (x : Decimal) {n : Decimal} {k : ℤ} (hk : n.toRat = k) :
    (∀ e : Decimal, c.power x e = .error .divisionByZero ↔ x.toRat = 0 ∧ e.toRat < 0) ∧
      (¬ (x.toRat = 0 ∧ k < 0) → maxExponent < k.natAbs →
        c.power x n = .error (.overflow s!"exponent {n.plain} is larger than {maxExponent}")) ∧
      (0 ≤ k → k.natAbs ≤ maxExponent → x.PowFits k.natAbs →
        ∃ v, c.power x n = .ok v ∧ v.toRat = x.toRat ^ k.natAbs) ∧
      (k < 0 → x.toRat ≠ 0 → k.natAbs ≤ maxExponent → x.PowFits k.natAbs →
        ∃ raised v, c.power x n.abs = .ok raised ∧ raised.toRat = x.toRat ^ k.natAbs ∧
          c.divide? .one raised = some v ∧ c.power x n = .ok v ∧
          (c.DivideScalesFit .one raised → v.digits ≤ c.precision) ∧
          (c.DivideFits .one raised →
            ∀ q, c.rounding.Rounds c.precision (1 / x.toRat ^ k.natAbs) q ↔ q = v.toRat)) := by
  refine ⟨fun e => power_eq_divisionByZero_iff, power_of_large hk, ?_, ?_⟩
  · intro hnonneg hsmall hfits
    exact ⟨_, power_of_nonneg hk hnonneg hsmall, Decimal.toRat_pow hfits⟩
  · intro hneg hx hsmall hfits
    have hmagnitude : n.abs.toRat = (|k| : ℤ) := by rw [Decimal.toRat_abs, hk, Int.cast_abs]
    have habs : c.power x n.abs = .ok (x.pow k.natAbs) := by
      rw [power_of_nonneg hmagnitude (abs_nonneg k) (by rwa [Int.natAbs_abs]), Int.natAbs_abs]
    have hvalue := Decimal.toRat_pow hfits
    have hraised : (x.pow k.natAbs).toRat ≠ 0 := by
      rw [hvalue]
      exact pow_ne_zero _ hx
    obtain ⟨v, hv⟩ := Option.ne_none_iff_exists'.1
      (mt (divide?_eq_none_iff c .one (x.pow k.natAbs)).1 hraised)
    refine ⟨_, v, habs, hvalue, hv, ?_, fun hscales => digits_divide?_le hraised hscales hv,
      fun hzeros => ?_⟩
    · rw [power_of_neg hk hneg hx hsmall, divide, hv]
    · obtain ⟨w, hw, -, hrounds⟩ := divide?_rounds hraised hzeros.scalesFit
      obtain rfl := Option.some.inj (hw.symm.trans hv)
      rw [hvalue, Decimal.toRat_one] at hrounds
      exact hrounds hzeros

/-- The factors of `0.30 ^ -3.0` are `0.30` and `0.0900`; its reciprocal does not end. -/
theorem power_of_whole_reciprocal :
    let c : Context := ⟨4, .ceiling, by decide, by decide⟩
    let x : Decimal := ⟨30, 2⟩
    let n : Decimal := ⟨-30, 1⟩
    n.toRat = (-3 : ℤ) ∧ x.PowFits 3 ∧ c.power x n = .ok ⟨3704, 2⟩ ∧
      c.rounding.Rounds 4 (1 / x.toRat ^ 3) (Decimal.toRat ⟨3704, 2⟩) := by
  intro c x n
  have hk : n.toRat = (-3 : ℤ) := by
    rw [Decimal.toRat_mk]
    norm_num
  obtain ⟨hfits, hwithin⟩ := x.within_extent.pow (n := 3) (by decide +kernel)
  have hzeros : c.DivideFits .one (x.pow 3) :=
    divideFits_of_within Decimal.within_one hwithin (by decide +kernel) (by decide +kernel)
  have hpower : c.power x n = .ok ⟨3704, 2⟩ := by decide +kernel
  have hx : x.toRat ≠ 0 := by
    rw [ne_eq, Decimal.toRat_eq_zero_iff]
    decide
  obtain ⟨-, -, -, hneg⟩ := power_of_whole c x hk
  obtain ⟨raised, v, hraised, -, -, hv, -, hrounds⟩ := hneg (by decide) hx (by decide) hfits
  have habs : c.power x n.abs = .ok (x.pow 3) := by decide +kernel
  rw [habs] at hraised
  rw [hpower] at hv
  cases hraised
  cases hv
  exact ⟨hk, hfits, hpower, (hrounds hzeros _).2 rfl⟩

/-- Two reciprocals that are not rounded correctly: one of a number with `2 ^ 32 + 1` digits, and
one that has a scale of 64 bits, though not with the zeros that it is found with. -/
theorem power_of_whole_lost_zeros :
    let c : Context := .default
    let x : Decimal := ⟨10 ^ 2 ^ 32 + 1, 0⟩
    let y : Decimal := ⟨2, -9223372036854775806⟩
    let n : Decimal := ⟨-1, 0⟩
    n.toRat = (-1 : ℤ) ∧ x.toRat ≠ 0 ∧ c.QuotientFits .one x ∧
      c.power x n = .ok ⟨1, 4294967315⟩ ∧
      ¬ c.rounding.Rounds 16 (1 / x.toRat) (Decimal.toRat ⟨1, 4294967315⟩) ∧
      FitsScale y.scale ∧ FitsScale 9223372036854775807 ∧
      1 / y.toRat = Decimal.toRat ⟨5, 9223372036854775807⟩ ∧
      c.power y n = .ok ⟨0, -9223372036854775794⟩ ∧
      ¬ c.rounding.Rounds 16 (1 / y.toRat) (Decimal.toRat ⟨0, -9223372036854775794⟩) := by
  intro c x y n
  have hk : n.toRat = (-1 : ℤ) := by
    rw [Decimal.toRat_mk]
    norm_num
  have hcoeff : 0 < x.coeff := Int.add_pos (Int.pow_pos (by decide)) Int.one_pos
  have hdigits : x.digits = 2 ^ 32 + 1 := Decimal.digits_pow_add_one _ 0
  have hpow : x.pow 1 = x := by
    have hten : ¬ 10 ∣ x.coeff := by
      rw [Int.dvd_add_right (dvd_pow_self 10 (by decide))]
      decide
    rw [Decimal.pow_one]
    exact Decimal.normalized_of_not_dvd hten ⟨by decide, by decide⟩
  have hx : x.toRat ≠ 0 := (Decimal.toRat_pos_iff.2 hcoeff).ne'
  obtain ⟨hfits, hquotient, hless⟩ := divide?_one_of_long c hcoeff rfl hdigits
  have hpower : c.power x n = .ok ⟨1, 4294967315⟩ := by
    rw [power_of_neg hk (by decide) hx (by decide)]
    show c.divide .one (x.pow 1) = _
    rw [hpow, divide, hquotient]
    rfl
  have hy : 1 / y.toRat ≠ 0 := by
    rw [one_div, ne_eq, inv_eq_zero, Decimal.toRat_eq_zero_iff]
    decide
  exact ⟨hk, hx, hfits, hpower, fun h => lt_irrefl _ (hless _ h), ⟨by decide, by decide⟩,
    ⟨by decide, by decide⟩, Decimal.one_div_toRat_two (-9223372036854775806), by decide +kernel,
    fun h => h.ne_zero (by decide) hy (Decimal.toRat_eq_zero_iff.2 rfl)⟩

end Context

end Reckon
