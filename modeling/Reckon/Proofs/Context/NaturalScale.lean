import Mathlib.Data.Int.LeastGreatest
import Mathlib.Data.Nat.Cast.Order.Field
import Reckon.Proofs.Context.CorrectRounding

/-!
# The scale of an exact quotient

* `WholeAt q s`: a number `q` has an integer coefficient at the scale `s`. `exists_isLeast_wholeAt`:
  a number that is not zero has such a coefficient from a least scale on, if it has one at all.
* `IsNatural x y v`: the quotient of `x` by `y` at the difference of their scales, or at the least
  greater scale that it needs. `IsNatural.unique`, `exists_isNatural`: a terminating quotient has
  one such form. `isNatural_of_coeff`: the last digit tells it.
* `Context.isNatural_unroundedQuotient`: where the widened dividend leaves no remainder, the
  quotient has its natural form before it is rounded. `Context.digits_of_isNatural`: elsewhere that
  form has more digits than the precision.
* `Context.natural_quotient`: as long as no scale leaves its 64 bits and no number of zeros its 32
  bits, a quotient keeps its natural form when that is short enough, and has as many digits as the
  precision otherwise. `Context.natural_quotient_lost_zeros`: elsewhere it may lose that form.
-/

namespace Reckon

/-- The number `q` has an integer coefficient at the scale `s`. -/
def WholeAt (q : ℚ) (s : ℤ) : Prop := ∃ m : ℤ, q * 10 ^ s = m

/-- The exact quotient `v` of `x` by `y`, at the difference of their scales or at the least greater
scale that it needs. -/
structure IsNatural (x y v : Decimal) : Prop where
  value : v.toRat = x.toRat / y.toRat
  scale : ∃ t, IsLeast {s | WholeAt (x.toRat / y.toRat) s} t ∧
    v.scale = max (x.scale - y.scale) t

variable {q : ℚ} {s s' : ℤ}

/-! ## Scales of a number -/

theorem wholeAt_toRat (x : Decimal) : WholeAt x.toRat x.scale := ⟨x.coeff, x.cast_coeff.symm⟩

/-- A form can do with a place less when it ends in a zero. -/
theorem wholeAt_pred_iff (x : Decimal) : WholeAt x.toRat (x.scale - 1) ↔ 10 ∣ x.coeff := by
  have hplace : x.toRat * 10 ^ (x.scale - 1) = x.coeff / 10 := by
    rw [x.cast_coeff, zpow_sub_one₀ (by norm_num), ← mul_assoc, div_eq_mul_inv]
  rw [WholeAt, hplace]
  constructor
  · rintro ⟨m, hm⟩
    rw [div_eq_iff (by norm_num), mul_comm] at hm
    exact ⟨m, by exact_mod_cast hm⟩
  · rintro ⟨m, hm⟩
    refine ⟨m, ?_⟩
    rw [hm, Int.cast_mul, Int.cast_ofNat, mul_div_cancel_left₀ _ (by norm_num)]

theorem WholeAt.mono (h : WholeAt q s) (hle : s ≤ s') : WholeAt q s' := by
  obtain ⟨m, hm⟩ := h
  obtain ⟨i, rfl⟩ := Int.le.dest hle
  refine ⟨m * 10 ^ i, ?_⟩
  rw [zpow_add₀ (by norm_num), ← mul_assoc, hm, zpow_natCast]
  push_cast
  rfl

/-- A quotient of natural numbers is whole when it leaves no remainder. -/
theorem exists_div_eq_intCast_iff {m n : ℕ} (hn : n ≠ 0) :
    (∃ k : ℤ, (m : ℚ) / n = k) ↔ n ∣ m := by
  rw [← Rat.den_div_natCast_eq_one_iff m n hn]
  constructor
  · rintro ⟨k, hk⟩
    rw [hk]
    exact Rat.den_intCast k
  · intro hden
    exact ⟨_, ((Rat.den_eq_one_iff _).1 hden).symm⟩

theorem wholeAt_abs_iff : WholeAt |q| s ↔ WholeAt q s := by
  have hneg : ∀ {z : ℚ}, WholeAt z s → WholeAt (-z) s := by
    rintro z ⟨m, hm⟩
    exact ⟨-m, by rw [neg_mul, hm, Int.cast_neg]⟩
  rcases abs_choice q with habs | habs
  · rw [habs]
  · rw [habs]
    exact ⟨fun h => by simpa using hneg h, hneg⟩

/-- The first digit of a number bounds the scales at which it is whole. -/
theorem WholeAt.neg_log_le (h : WholeAt q s) (hq : q ≠ 0) : -Int.log 10 |q| ≤ s := by
  obtain ⟨m, hm⟩ := h
  have hscale := Decimal.ten_zpow_pos s
  have hne : m ≠ 0 := by
    rintro rfl
    rw [Int.cast_zero] at hm
    exact mul_ne_zero hq hscale.ne' hm
  have hone : (1 : ℚ) ≤ |q| * 10 ^ s := by
    rw [← abs_of_pos hscale, ← abs_mul, hm]
    exact_mod_cast Int.one_le_abs hne
  have hunit : ((10 : ℕ) : ℚ) ^ (-s) ≤ |q| := by
    rw [Nat.cast_ofNat, zpow_neg]
    exact (inv_le_iff_one_le_mul₀ hscale).2 hone
  have hlog := (Int.zpow_le_iff_le_log (by norm_num) (abs_pos.2 hq)).1 hunit
  omega

theorem exists_isLeast_wholeAt (hq : q ≠ 0) (h : WholeAt q s) :
    ∃ t, IsLeast {s | WholeAt q s} t :=
  Int.exists_least_of_bdd ⟨_, fun _ hs => WholeAt.neg_log_le hs hq⟩ ⟨s, h⟩

/-! ## Natural forms -/

variable {x y v w : Decimal} {shift : ℕ}

theorem IsNatural.unique (hv : IsNatural x y v) (hw : IsNatural x y w) : v = w := by
  obtain ⟨t, ht, hscale⟩ := hv.scale
  obtain ⟨t', ht', hscale'⟩ := hw.scale
  refine Decimal.eq_of_toRat_eq (hv.value.trans hw.value.symm) ?_
  rw [hscale, hscale', ht.unique ht']

theorem exists_isNatural (hq : x.toRat / y.toRat ≠ 0) (h : WholeAt (x.toRat / y.toRat) s) :
    ∃ v, IsNatural x y v := by
  obtain ⟨t, ht⟩ := exists_isLeast_wholeAt hq h
  obtain ⟨m, hm⟩ := WholeAt.mono ht.1 (le_max_right (x.scale - y.scale) t)
  exact ⟨⟨m, _⟩, Decimal.toRat_mk_of_cast hm.symm, t, ht, rfl⟩

/-- A form of the quotient is natural when it ends in no zero, unless it has the difference of the
scales. -/
theorem isNatural_of_coeff (hvalue : v.toRat = x.toRat / y.toRat) (hv : v.coeff ≠ 0)
    (hle : x.scale - y.scale ≤ v.scale)
    (hend : 10 ∣ v.coeff → v.scale = x.scale - y.scale) : IsNatural x y v := by
  have hwhole := wholeAt_toRat v
  obtain ⟨t, ht⟩ := exists_isLeast_wholeAt (mt Decimal.toRat_eq_zero_iff.1 hv) hwhole
  refine ⟨hvalue, t, hvalue ▸ ht, le_antisymm ?_ (max_le hle (ht.2 hwhole))⟩
  by_cases hzero : 10 ∣ v.coeff
  · exact (hend hzero).trans_le (le_max_left _ _)
  · refine le_max_of_le_right (not_lt.1 fun hbefore => hzero ?_)
    exact (wholeAt_pred_iff v).1 (WholeAt.mono ht.1 (Int.le_sub_one_of_lt hbefore))

theorem IsNatural.wholeAt (h : IsNatural x y v) : WholeAt (x.toRat / y.toRat) v.scale := by
  rw [← h.value]
  exact wholeAt_toRat v

namespace Context

variable {c : Context}

/-- The quotient is whole at the scale of the widened dividend when that leaves no remainder. -/
theorem wholeAt_widened_iff (hy : y.coeff ≠ 0) :
    WholeAt (x.toRat / y.toRat) (x.scale - y.scale + shift) ↔
      x.coeff.natAbs * 10 ^ shift % y.coeff.natAbs = 0 := by
  rw [← wholeAt_abs_iff, WholeAt, abs_quotient_mul,
    exists_div_eq_intCast_iff (Int.natAbs_ne_zero.2 hy), Nat.dvd_iff_mod_eq_zero]

/-- An exact quotient has its natural form before it is rounded. -/
theorem isNatural_unroundedQuotient (hx : x.coeff ≠ 0) (hy : y.coeff ≠ 0)
    (hshift : shift < 2 ^ 32)
    (hscale : FitsScale (x.scale - y.scale + shift))
    (hexact : x.coeff.natAbs * 10 ^ shift % y.coeff.natAbs = 0) :
    IsNatural x y (unroundedQuotient (x.scale - y.scale) shift x y) := by
  have hvalue := toRat_unroundedQuotient hy hshift hscale hexact
  have hne : (unroundedQuotient (x.scale - y.scale) shift x y).coeff ≠ 0 := by
    rw [Ne, ← Decimal.toRat_eq_zero_iff, hvalue]
    exact div_ne_zero (mt Decimal.toRat_eq_zero_iff.1 hx) (mt Decimal.toRat_eq_zero_iff.1 hy)
  have hlimit : (x.scale - y.scale + shift - (x.scale - y.scale)).toNat = shift := by omega
  have hcount := stripZeros_le shift (x.coeff.natAbs * 10 ^ shift / y.coeff.natAbs)
  have hend := @stripZeros_eq_limit shift (x.coeff.natAbs * 10 ^ shift / y.coeff.natAbs)
  unfold unroundedQuotient at *
  simp only [wrapShift_of_lt hshift, wrapScale_of_fits hscale, if_pos hexact, hlimit] at *
  generalize stripZeros shift (x.coeff.natAbs * 10 ^ shift / y.coeff.natAbs) = stripped at *
  refine isNatural_of_coeff hvalue hne ?_ fun hzero => ?_
  · show x.scale - y.scale ≤ x.scale - y.scale + shift - stripped.1
    omega
  · show x.scale - y.scale + shift - stripped.1 = x.scale - y.scale
    rw [← Int.natAbs_dvd_natAbs, natAbs_sign_mul hx hy] at hzero
    have := hend hzero
    omega

/-- Where something is cut off, the natural form has more digits than are kept. -/
theorem digits_of_isNatural (hx : x.coeff ≠ 0) (hy : y.coeff ≠ 0)
    (hinexact : x.coeff.natAbs * 10 ^ c.widening x y % y.coeff.natAbs ≠ 0)
    (h : IsNatural x y v) : c.precision < v.digits := by
  have hbeyond : x.scale - y.scale + c.widening x y ≤ v.scale := by
    by_contra hbefore
    exact hinexact ((wholeAt_widened_iff hy).1 (h.wholeAt.mono (not_le.1 hbefore).le))
  refine lt_digitCount ((pow_le_widened hx hy).trans ?_)
  have hcast : ((x.coeff.natAbs * 10 ^ c.widening x y / y.coeff.natAbs : ℕ) : ℚ) ≤
      v.coeff.natAbs := by
    calc ((x.coeff.natAbs * 10 ^ c.widening x y / y.coeff.natAbs : ℕ) : ℚ)
        ≤ (x.coeff.natAbs * 10 ^ c.widening x y : ℕ) / (y.coeff.natAbs : ℕ) := Nat.cast_div_le
      _ = |x.toRat / y.toRat| * 10 ^ (x.scale - y.scale + c.widening x y) :=
          (abs_quotient_mul x y _).symm
      _ ≤ |x.toRat / y.toRat| * 10 ^ v.scale :=
          mul_le_mul_of_nonneg_left (zpow_le_zpow_right₀ (by norm_num) hbeyond) (abs_nonneg _)
      _ = v.coeff.natAbs := by rw [v.natCast_natAbs_coeff, h.value]
  exact_mod_cast hcast

/-- So has the quotient with a digit for what was cut off. -/
theorem digits_unroundedQuotient (hx : x.coeff ≠ 0) (hy : y.coeff ≠ 0)
    (hshift : c.widening x y < 2 ^ 32)
    (hinexact : x.coeff.natAbs * 10 ^ c.widening x y % y.coeff.natAbs ≠ 0) (natural : ℤ) :
    c.precision < (unroundedQuotient natural (c.widening x y) x y).digits := by
  have hmany := pow_le_widened (c := c) hx hy
  unfold unroundedQuotient
  simp only [wrapShift_of_lt hshift, if_neg hinexact, Decimal.digits]
  rw [natAbs_withSticky, natAbs_sign_mul hx hy]
  exact lt_digitCount (by omega)

/-! ## Quotients -/

/-- A zero is divided to the form zero. Any other quotient keeps its natural form, in every
direction of rounding, if that has at most as many digits as the precision. Otherwise, and where the
quotient does not terminate, it has exactly as many. -/
theorem natural_quotient (c : Context) (x y : Decimal) (hy : y.toRat ≠ 0) :
    (x.toRat = 0 → c.divide? x y = some ⟨0, 0⟩) ∧
      (x.toRat ≠ 0 → c.DivideFits x y →
        ((∃ s, WholeAt (x.toRat / y.toRat) s) → ∃! v, IsNatural x y v) ∧
        (∀ v, IsNatural x y v → v.digits ≤ c.precision → c.divide? x y = some v) ∧
        ((∀ v, IsNatural x y v → c.precision < v.digits) →
          ∃ w, c.divide? x y = some w ∧ w.digits = c.precision)) := by
  refine ⟨fun hx => divide?_of_zero hx hy, fun hx hfits => ⟨?_, ?_⟩⟩
  · rintro ⟨s, hs⟩
    obtain ⟨v, hv⟩ := exists_isNatural (div_ne_zero hx hy) hs
    exact ⟨v, hv, fun w hw => hw.unique hv⟩
  · have hx' : x.coeff ≠ 0 := mt Decimal.toRat_eq_zero_iff.2 hx
    have hy' : y.coeff ≠ 0 := mt Decimal.toRat_eq_zero_iff.2 hy
    obtain ⟨hshift, hfits⟩ := hfits.quotientFits hx hy
    rw [divide?_eq_round hx hy hfits]
    obtain ⟨-, hscale, -, hround⟩ := hfits
    by_cases hexact : x.coeff.natAbs * 10 ^ c.widening x y % y.coeff.natAbs = 0
    · have hnatural := isNatural_unroundedQuotient hx' hy' hshift hscale hexact
      refine ⟨fun v hv hfew => ?_, fun hlong => ⟨_, rfl, ?_⟩⟩
      · rw [hnatural.unique hv, round_of_digits_le hfew]
      · exact digits_round_of_long hround (hlong _ hnatural)
    · refine ⟨fun v hv hfew => ?_, fun _ => ⟨_, rfl, ?_⟩⟩
      · exact absurd hfew (not_le.2 (digits_of_isNatural hx' hy' hexact hv))
      · exact digits_round_of_long hround (digits_unroundedQuotient hx' hy' hshift hexact _)

/-- `1.20 / 2` keeps its zero, and `1 / 8` needs three digits. -/
theorem natural_quotient_two_digits :
    let c : Context := ⟨2, .up, by decide, by decide⟩
    let x : Decimal := ⟨120, 2⟩
    let y : Decimal := ⟨2, 0⟩
    let z : Decimal := ⟨8, 0⟩
    c.DivideFits x y ∧ IsNatural x y ⟨60, 2⟩ ∧ c.divide? x y = some ⟨60, 2⟩ ∧
      c.divide? .zero y = some ⟨0, 0⟩ ∧ c.DivideFits .one z ∧
      (∃! v, IsNatural .one z v) ∧ (∀ v, IsNatural .one z v → 2 < v.digits) ∧
      ∃ w, c.divide? .one z = some w ∧ w.digits = 2 := by
  intro c x y z
  have hx : x.toRat ≠ 0 := mt Decimal.toRat_eq_zero_iff.1 (by decide)
  have hy : y.toRat ≠ 0 := mt Decimal.toRat_eq_zero_iff.1 (by decide)
  have hz : z.toRat ≠ 0 := mt Decimal.toRat_eq_zero_iff.1 (by decide)
  have hone : Decimal.one.toRat ≠ 0 := mt Decimal.toRat_eq_zero_iff.1 (by decide)
  have hxy : c.DivideFits x y :=
    divideFits_of_within x.within_extent y.within_extent (by decide +kernel) (by decide +kernel)
  have hoz : c.DivideFits .one z :=
    divideFits_of_within Decimal.within_one z.within_extent (by decide +kernel) (by decide +kernel)
  have hshort : IsNatural x y ⟨60, 2⟩ := by
    refine isNatural_of_coeff ?_ (by decide) (by decide) fun _ => rfl
    rw [Decimal.toRat_mk, Decimal.toRat_mk, Decimal.toRat_mk]
    norm_num
  have hlong : IsNatural .one z ⟨125, 3⟩ := by
    refine isNatural_of_coeff ?_ (by decide) (by decide) fun h => absurd h (by decide)
    rw [Decimal.toRat_mk, Decimal.toRat_one, Decimal.toRat_mk]
    norm_num
  have hdigits : ∀ v, IsNatural .one z v → 2 < v.digits := by
    intro v hv
    rw [hv.unique hlong]
    decide +kernel
  obtain ⟨hzero, hquotient⟩ := natural_quotient c x y hy
  obtain ⟨-, hkept, -⟩ := hquotient hx hxy
  obtain ⟨hunique, -, hrounded⟩ := (natural_quotient c .one z hz).2 hone hoz
  exact ⟨hxy, hshort, hkept _ hshort (by decide +kernel),
    (natural_quotient c .zero y hy).1 Decimal.toRat_zero, hoz, hunique ⟨3, hlong.wholeAt⟩,
    hdigits, hrounded hdigits⟩

/-- Two quotients without their natural form: one by the least number of `2 ^ 32 + 1` digits, and
one of a dividend whose first digit stands at a place that does not fit its word, though all scales
do. -/
theorem natural_quotient_lost_zeros :
    let c : Context := .default
    let x : Decimal := ⟨10 ^ 2 ^ 32, 0⟩
    let y : Decimal := ⟨12345678901234567, -9223372036854775806⟩
    c.QuotientFits .one x ∧ IsNatural .one x ⟨1, 4294967296⟩ ∧
      (Decimal.mk 1 4294967296).digits ≤ 16 ∧ c.divide? .one x = some ⟨1, 4294967315⟩ ∧
      FitsScale y.scale ∧ FitsScale (y.scale + c.widening y .one) ∧ FitsScale (y.scale - 1) ∧
      (∀ v, IsNatural y .one v → 16 < v.digits) ∧
      c.divide? y .one = some ⟨0, -9223372036854775807⟩ ∧
      (Decimal.mk 0 (-9223372036854775807)).digits = 1 := by
  intro c x y
  have hcoeff : 0 < x.coeff := Int.pow_pos (by decide)
  have hdigits : x.digits = 2 ^ 32 + 1 := Decimal.digits_pow _ 0
  obtain ⟨hfits, hquotient, -⟩ := divide?_one_of_long c hcoeff rfl hdigits
  have hshort : IsNatural .one x ⟨1, 4294967296⟩ := by
    refine isNatural_of_coeff ?_ (by decide) (by decide) fun h => absurd h (by decide)
    rw [Decimal.toRat_one]
    exact Decimal.toRat_mk_one (2 ^ 32)
  have hlong : IsNatural y .one y := by
    refine isNatural_of_coeff ?_ (by decide) le_rfl fun h => absurd h (by decide)
    rw [Decimal.toRat_one, div_one]
  refine ⟨hfits, hshort, by decide +kernel, hquotient, ⟨by decide, by decide⟩,
    ⟨by decide +kernel, by decide +kernel⟩, ⟨by decide, by decide⟩, fun v hv => ?_,
    by decide +kernel, by decide +kernel⟩
  rw [hv.unique hlong]
  decide +kernel

end Context

end Reckon
