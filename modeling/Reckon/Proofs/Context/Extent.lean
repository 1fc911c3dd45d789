import Reckon.Proofs.Decimal.Binary64
import Reckon.Proofs.Operator.Numbers

/-!
# How far scales go in a context

* `Context.within_round`: a rounded number reaches one place farther than the number, and
  `scale_round_bounds`: its last digit stands at most the precision behind its first one.
* `Context.lead_unroundedQuotient`: the first digit of a quotient stands where those of the
  operands say, or farther behind when zeros are lost. `Context.within_divide`: so the extents of
  the operands and the precision bound that of the quotient and all scales on the way.
* `Context.divideFits_of_within`: the number of zeros fits its 32 bits when the divisor does not
  reach as far.
* `Context.within_power`: a power is bounded by the exponent times the extent of the base, or comes
  from a double.
-/

namespace Reckon.Context

variable {c : Context} {x y : Decimal} {a b w : ℕ}

/-! ## Rounding to the precision -/

theorem roundFits_of_within (hx : x.Within w) (hw : w + 3 < 2 ^ 63) : c.RoundFits x := by
  intro hlong
  have hne := coeff_ne_zero_of_digits hlong
  have hlead := hx.lead_le hne
  have hpos := c.precision_pos
  have hscale := hx.scale_le
  have hdigits : (x.digits : ℤ) = x.lead + x.scale := by
    rw [Decimal.lead]
    omega
  dsimp only
  generalize htarget : x.scale - (x.digits - c.precision : ℕ) = target
  have hlow : -(w : ℤ) + 1 ≤ target := by omega
  have hhigh : target ≤ w := by omega
  have hround : x.RoundFits target :=
    hx.roundFits (fitsScale_of_le (w := w) (by omega) (by omega) (by omega)) (by omega)
  have hrounded := hx.roundAt c.rounding (by omega) hhigh hround
  refine ⟨fitsScale_of_le (w := w) (by omega) hhigh (by omega), hround, fun _ => ⟨?_, ?_⟩⟩
  · exact fitsScale_of_le (w := w) (by omega) (by omega) (by omega)
  · exact hrounded.roundFits (fitsScale_of_le (w := w + 1) (by omega) (by omega) (by omega))
      (by omega)

/-- The last digit that is kept stands at most `c.precision` places behind the first one. -/
theorem scale_round_bounds (h : c.RoundFits x) :
    -x.lead ≤ (c.round x).scale ∧ (c.round x).scale ≤ c.precision - x.lead := by
  have hpos := c.precision_pos
  have hlow := x.one_sub_scale_le_lead
  unfold round
  split
  · next hfew =>
    rw [Decimal.lead] at hlow ⊢
    omega
  · next hmany =>
    obtain ⟨htarget, -, hcarry⟩ := h (not_le.1 hmany)
    rw [wrapScale_of_fits htarget]
    dsimp only
    split
    · next hcarried =>
      rw [wrapScale_of_fits (hcarry hcarried).1, Decimal.scale_roundAt, Decimal.lead]
      omega
    · rw [Decimal.scale_roundAt, Decimal.lead]
      omega

/-- Rounding leaves no more digits behind the point. -/
theorem scale_round_le (h : c.RoundFits x) : (c.round x).scale ≤ x.scale := by
  by_cases hfew : x.digits ≤ c.precision
  · rw [round_of_digits_le hfew]
  · have hhigh := (scale_round_bounds h).2
    rw [Decimal.lead] at hhigh
    omega

theorem abs_toRat_round_le (h : c.RoundFits x) (hx : x.coeff ≠ 0) (hlead : x.lead ≤ w) :
    |(c.round x).toRat| ≤ 10 ^ w := by
  have hsize := Decimal.abs_toRat_lt_of_lead_le hlead
  rw [toRat_round h, Rounding.toDigits, ← Decimal.lead_eq_log hx]
  exact Decimal.abs_atScale_le _ (by omega) hsize

theorem within_round (hx : x.Within w) (hw : w + 3 < 2 ^ 63) :
    c.RoundFits x ∧ (c.round x).Within (w + 1) := by
  have hfits : c.RoundFits x := roundFits_of_within hx hw
  refine ⟨hfits, ?_⟩
  by_cases hfew : x.digits ≤ c.precision
  · rw [round_of_digits_le hfew]
    exact hx.mono w.le_succ
  · have hlong := not_le.1 hfew
    have hne := coeff_ne_zero_of_digits hlong
    have hlead := hx.lead_le hne
    have hscale := hx.scale_le
    have hlow := (scale_round_bounds hfits).1
    have hhigh := scale_round_le hfits
    refine ⟨by omega, by omega, ?_⟩
    exact (abs_toRat_round_le hfits hne hlead).trans_lt
      (pow_lt_pow_right₀ (by norm_num) w.lt_succ_self)

/-! ## Quotients -/

/-- A quotient has at most one digit more than the operands say. -/
theorem digitCount_div_le {m n : ℕ} (hn : 0 < n) (hquotient : 0 < m / n) :
    digitCount n + digitCount (m / n) ≤ digitCount m + 1 := by
  have hcount := digitCount_pos n
  have hcount' := digitCount_pos (m / n)
  have hlt : 10 ^ (digitCount n - 1 + (digitCount (m / n) - 1)) < 10 ^ digitCount m := by
    calc 10 ^ (digitCount n - 1 + (digitCount (m / n) - 1))
        = 10 ^ (digitCount n - 1) * 10 ^ (digitCount (m / n) - 1) := pow_add ..
      _ ≤ n * (m / n) :=
          Nat.mul_le_mul (pow_le_of_digitCount hn) (pow_le_of_digitCount hquotient)
      _ ≤ m := Nat.mul_div_le m n
      _ < 10 ^ digitCount m := lt_pow_digitCount m
  have hexponent := (Nat.pow_lt_pow_iff_right (by decide)).1 hlt
  omega

/-- A digit behind a number is one more digit. -/
theorem digitCount_mul_ten_add_one {n : ℕ} (hn : 0 < n) :
    digitCount (n * 10 + 1) = digitCount n + 1 := by
  have hlow := pow_le_of_digitCount hn
  have hhigh := lt_pow_digitCount n
  have hcount : digitCount n - 1 + 1 = digitCount n := Nat.sub_add_cancel (digitCount_pos n)
  have hten : 10 ^ digitCount n = 10 ^ (digitCount n - 1) * 10 := by rw [← pow_succ, hcount]
  apply digitCount_eq
  · omega
  · rw [pow_succ]
    omega

/-- A quotient that is cut off has no more digits for zeros that are lost. -/
theorem digitCount_widened_div_le (hx : x.coeff ≠ 0) (hy : y.coeff ≠ 0) (shift : ℕ)
    (hquotient : 0 < x.coeff.natAbs * 10 ^ wrapShift shift / y.coeff.natAbs) :
    y.digits + digitCount (x.coeff.natAbs * 10 ^ wrapShift shift / y.coeff.natAbs) ≤
      x.digits + shift + 1 := by
  have hwidth : digitCount (x.coeff.natAbs * 10 ^ wrapShift shift) ≤ x.digits + shift := by
    rw [digitCount_mul_pow (Int.natAbs_pos.2 hx)]
    exact Nat.add_le_add_left (wrapShift_le shift) _
  exact (digitCount_div_le (Int.natAbs_pos.2 hy) hquotient).trans (Nat.succ_le_succ hwidth)

/-- The first digit of the unrounded quotient stands where the operands say, or farther behind, but
there it is the one for what was cut off. -/
theorem lead_unroundedQuotient {natural : ℤ} {shift : ℕ} (hx : x.coeff ≠ 0) (hy : y.coeff ≠ 0)
    (hscale : FitsScale (natural + shift)) (hnext : FitsScale (natural + shift + 1)) :
    let u := unroundedQuotient natural shift x y
    u.coeff ≠ 0 ∧ u.scale ≤ natural + shift + 1 ∧
      (u.lead ≤ -(natural + shift) ∨ u.lead ≤ x.digits - y.digits + 1 - natural) := by
  have hsign : x.coeff.sign * y.coeff.sign ≠ 0 :=
    mul_ne_zero (mt Int.sign_eq_zero_iff_zero.1 hx) (mt Int.sign_eq_zero_iff_zero.1 hy)
  have hdivisor := Int.natAbs_pos.2 hy
  have hpos : 0 < x.coeff.natAbs * 10 ^ wrapShift shift :=
    Nat.mul_pos (Int.natAbs_pos.2 hx) (Nat.pow_pos (by decide))
  have hfew := digitCount_widened_div_le hx hy shift
  unfold unroundedQuotient
  generalize x.coeff.natAbs * 10 ^ wrapShift shift = widened at *
  simp only [wrapScale_of_fits hscale, wrapScale_of_fits hnext]
  split
  · next hexact =>
    have hquotient : 0 < widened / y.coeff.natAbs :=
      Nat.div_pos (Nat.le_of_dvd hpos (Nat.dvd_of_mod_eq_zero hexact)) hdivisor
    replace hfew := hfew hquotient
    have hkept := stripZeros_mul (natural + shift - natural).toNat (widened / y.coeff.natAbs)
    generalize stripZeros (natural + shift - natural).toNat (widened / y.coeff.natAbs) = stripped
      at hkept
    obtain ⟨count, kept⟩ := stripped
    rw [← hkept] at hquotient hfew
    dsimp only at hquotient hfew
    have hpos' : 0 < kept := Nat.pos_of_mul_pos_right hquotient
    have hcount := digitCount_mul_pow hpos' count
    refine ⟨mul_ne_zero hsign (Int.natCast_ne_zero.2 hpos'.ne'), by dsimp only; omega, ?_⟩
    rw [Decimal.lead, Decimal.digits, natAbs_sign_mul hx hy]
    dsimp only
    omega
  · refine ⟨Int.natAbs_ne_zero.1 ?_, le_rfl, ?_⟩
    · rw [natAbs_withSticky]
      exact Nat.succ_ne_zero _
    rw [Decimal.lead, Decimal.digits, natAbs_withSticky, natAbs_sign_mul hx hy]
    dsimp only
    rcases Nat.eq_zero_or_pos (widened / y.coeff.natAbs) with hzero | hquotient
    · have hone : digitCount (0 * 10 + 1) = 1 := digitCount_eq (k := 0) (by decide) (by decide)
      rw [hzero, hone]
      omega
    · have hcount := digitCount_mul_ten_add_one hquotient
      replace hfew := hfew hquotient
      omega

/-- The scales on the way to a quotient, and where its first digit stands. -/
theorem within_unroundedQuotient (hx : x.Within a) (hy : y.Within b) (hxne : x.coeff ≠ 0)
    (hyne : y.coeff ≠ 0) (h : a + b + c.precision + 2 ≤ 2 ^ 61) {u : Decimal}
    (hu : unroundedQuotient (x.scale - y.scale) (c.widening x y) x y = u) :
    c.QuotientFits x y ∧ u.coeff ≠ 0 ∧ u.scale ≤ (a + b + c.precision + 2 : ℕ) ∧
      u.lead ≤ (a + b : ℕ) := by
  obtain ⟨hxlow, hxhigh, -⟩ := id hx
  obtain ⟨hylow, hyhigh, -⟩ := id hy
  have hxlead := hx.lead_le hxne
  have hylead := hy.lead_le hyne
  have hxfirst := x.one_sub_scale_le_lead
  have hyfirst := y.one_sub_scale_le_lead
  have hxdigits : (x.digits : ℤ) = x.lead + x.scale := by rw [Decimal.lead]; omega
  have hydigits : (y.digits : ℤ) = y.lead + y.scale := by rw [Decimal.lead]; omega
  have hreach : x.scale - y.scale + c.widening x y ≤ (a + b + c.precision + 1 : ℕ) := by
    rw [widening]
    omega
  have hnatural : FitsScale (x.scale - y.scale) :=
    fitsScale_of_le (w := a + b) (by omega) (by omega) (by omega)
  have hscale : FitsScale (x.scale - y.scale + c.widening x y) :=
    fitsScale_of_le (w := a + b + c.precision + 1) (by omega) (by omega) (by omega)
  have hnext : FitsScale (x.scale - y.scale + c.widening x y + 1) :=
    fitsScale_of_le (w := a + b + c.precision + 2) (by omega) (by omega) (by omega)
  obtain ⟨hne, huscale, hulead⟩ := lead_unroundedQuotient hxne hyne hscale hnext
  rw [hu] at hne huscale hulead
  have hufirst := u.one_sub_scale_le_lead
  have hlead : u.lead ≤ (a + b : ℕ) := by rcases hulead with hulead | hulead <;> omega
  have hwithin : u.Within (a + b + c.precision + 2) :=
    ⟨by omega, by omega, Decimal.abs_toRat_lt_of_lead_le (by omega)⟩
  have hround : c.RoundFits u := roundFits_of_within hwithin (by omega)
  exact ⟨⟨hnatural, hscale, fun _ => hnext, hu ▸ hround⟩, hne, by omega, hlead⟩

theorem within_divide? (hx : x.Within a) (hy : y.Within b)
    (h : a + b + c.precision + 2 ≤ 2 ^ 61) :
    c.DivideScalesFit x y ∧
      ∀ q, c.divide? x y = some q → q.Within (a + b + c.precision + 2) := by
  by_cases hyzero : y.toRat = 0
  · rw [(divide?_eq_none_iff c x y).2 hyzero]
    exact ⟨.inr (.inl (Decimal.toRat_eq_zero_iff.1 hyzero)), nofun⟩
  by_cases hxzero : x.toRat = 0
  · rw [divide?_of_zero hxzero hyzero]
    refine ⟨.inl (Decimal.toRat_eq_zero_iff.1 hxzero), ?_⟩
    rintro q ⟨⟩
    exact Decimal.within_zero.mono (Nat.zero_le _)
  obtain ⟨hfits, hne, hscale, hlead⟩ :=
    within_unroundedQuotient hx hy (mt Decimal.toRat_eq_zero_iff.2 hxzero)
      (mt Decimal.toRat_eq_zero_iff.2 hyzero) h rfl
  refine ⟨.inr (.inr hfits), ?_⟩
  rw [divide?_eq_round hxzero hyzero hfits]
  rintro q ⟨⟩
  obtain ⟨-, -, -, hround⟩ := hfits
  have hlow := (scale_round_bounds hround).1
  have hhigh := scale_round_le hround
  refine ⟨by omega, by omega, ?_⟩
  refine (abs_toRat_round_le hround hne hlead).trans_lt ?_
  exact pow_lt_pow_right₀ (by norm_num) (by omega)

/-- The zeros that a dividend is given are few when the divisor has few digits. -/
theorem divideFits_of_within (hx : x.Within a) (hy : y.Within b)
    (h : a + b + c.precision + 2 ≤ 2 ^ 61) (hshift : c.precision + 2 + 2 * b < 2 ^ 32) :
    c.DivideFits x y := by
  refine (within_divide? hx hy h).1.imp_right (Or.imp_right fun hfits => ⟨?_, hfits⟩)
  have hlead := hy.lead_le_succ
  have hscale := hy.scale_le
  have hdigits : 1 ≤ x.digits := digitCount_pos _
  rw [Decimal.lead] at hlead
  rw [widening]
  omega

theorem within_divide (hx : x.Within a) (hy : y.Within b)
    (h : a + b + c.precision + 2 ≤ 2 ^ 61) :
    c.DivideScalesFit x y ∧
      ∀ q, c.divide x y = .ok q → q.Within (a + b + c.precision + 2) := by
  obtain ⟨hfits, hwithin⟩ := within_divide? hx hy h
  refine ⟨hfits, ?_⟩
  unfold divide
  split
  · next q hq =>
    rintro q' ⟨⟩
    exact hwithin q hq
  · rintro q ⟨⟩

/-! ## Powers -/

/-- A number that comes from a double is small before it is rounded. -/
theorem within_round_of_ofFloat? {v : Float} (h : Decimal.ofFloat? v = some x) :
    c.RoundFits x ∧ (c.round x).Within 1001 :=
  within_round (Decimal.within_of_ofFloat? h) (by decide)

/-- No scale leaves its 64 bits when a power through doubles is rounded. -/
def RealPowerFits (c : Context) (base exponent : Decimal) : Prop :=
  ∀ b e x, base.toFiniteFloat? = some b → exponent.toFiniteFloat? = some e →
    Decimal.ofFloat? (b.pow e) = some x → c.RoundFits x

theorem realPowerFits (c : Context) (base exponent : Decimal) : c.RealPowerFits base exponent :=
  fun _ _ _ _ _ h => (within_round_of_ofFloat? h).1

/-- No scale leaves its 64 bits on the way to a power with a whole exponent. -/
def PowerScalesFit (c : Context) (base exponent : Decimal) : Prop :=
  ¬ (base.isZero = true ∧ exponent.isNegative = true) → exponent.whole ≤ maxExponent →
    base.PowFits exponent.whole ∧
      (exponent.isNegative = true → c.DivideScalesFit .one (base.pow exponent.whole))

theorem within_integerPower {n : ℕ} (hx : x.Within a)
    (hn : y.whole ≤ maxExponent → y.whole ≤ n) (h : a * n + maxPrecision + 4 ≤ 2 ^ 61) :
    c.PowerScalesFit x y ∧
      ∀ v, c.integerPower x y = .ok v → v.Within (a * n + maxPrecision + 4) := by
  have hprecision := c.precision_le
  have hraised : y.whole ≤ maxExponent →
      x.PowFits y.whole ∧ (x.pow y.whole).Within (1 + a * n) := by
    intro hwhole
    have hle : a * y.whole ≤ a * n := Nat.mul_le_mul_left a (hn hwhole)
    obtain ⟨hfits, hwithin⟩ := hx.pow (n := y.whole) (by omega)
    exact ⟨hfits, hwithin.mono (by omega)⟩
  have hreciprocal : y.whole ≤ maxExponent → c.DivideScalesFit .one (x.pow y.whole) ∧
      ∀ q, c.divide .one (x.pow y.whole) = .ok q → q.Within (1 + (1 + a * n) + c.precision + 2) :=
    fun hwhole => within_divide Decimal.within_one (hraised hwhole).2 (by omega)
  refine ⟨fun _ hwhole => ⟨(hraised hwhole).1, fun _ => (hreciprocal hwhole).1⟩, ?_⟩
  intro v hv
  unfold integerPower at hv
  split at hv
  · cases hv
  · next hsmall =>
    have hwhole := not_lt.1 hsmall
    dsimp only at hv
    split at hv
    · exact ((hreciprocal hwhole).2 v hv).mono (by omega)
    · cases hv
      exact (hraised hwhole).2.mono (by omega)

theorem within_power {n : ℕ} (hx : x.Within a) (hn : y.whole ≤ maxExponent → y.whole ≤ n)
    (h : a * n + maxPrecision + 4 ≤ 2 ^ 61) :
    c.PowerScalesFit x y ∧ ∀ v, c.power x y = .ok v → v.Within (a * n + maxPrecision + 4) := by
  obtain ⟨hfits, hinteger⟩ := within_integerPower (c := c) hx hn h
  refine ⟨hfits, ?_⟩
  intro v hv
  unfold power at hv
  split at hv
  · cases hv
  · split at hv
    · exact hinteger v hv
    · split at hv
      · cases hv
      · split at hv
        · cases hv
          exact Decimal.within_zero.mono (Nat.zero_le _)
        · have hsmall : 1001 ≤ maxPrecision := by decide
          unfold realPower at hv
          dsimp only at hv
          split at hv
          · next z hz =>
            cases hv
            obtain ⟨b, -, hb⟩ := Option.bind_eq_some_iff.1 hz
            obtain ⟨e, -, he⟩ := Option.bind_eq_some_iff.1 hb
            exact (within_round_of_ofFloat? he).2.mono (by omega)
          · cases hv

end Reckon.Context
