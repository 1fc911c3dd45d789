import Reckon.Context
import Reckon.Proofs.Decimal.Order

/-!
# Rounding of the numbers

* `Rounding.magnitude`, `Rounding.atScale`, `Rounding.toDigits`: a number rounded to a whole
  number, to a number of places, to a number of significant digits.
* `magnitude_congr`: rounding asks only how twice a magnitude compares with the whole numbers.
* `Decimal.RoundFits`, `Context.RoundFits`: no scale on the way leaves its 64 bits.
* `toRat_roundAt`, `toRat_round`: so what is rounded is the number, whatever its form. `round`
  rounds it to the precision.
-/

namespace Reckon

namespace Rounding

/-! ## Whole numbers -/

/-- The whole number that the magnitude `a` of a number is rounded to. -/
def magnitude (r : Rounding) (negative : Bool) (a : ℚ) : ℕ :=
  if a = ⌊a⌋₊ then ⌊a⌋₊
  else if r.raises negative (⌊a⌋₊ % 2 == 1) (compare (2 * (a - ⌊a⌋₊)) 1) then ⌊a⌋₊ + 1
  else ⌊a⌋₊

variable (r : Rounding) (negative : Bool)

theorem magnitude_natCast (n : ℕ) : r.magnitude negative n = n := by
  rw [magnitude, Nat.floor_natCast, if_pos rfl]

theorem quotient_eq_magnitude (n : ℕ) {m : ℕ} (hm : 0 < m) :
    r.quotient negative n m = r.magnitude negative (n / m) := by
  have hm' : (0 : ℚ) < m := by exact_mod_cast hm
  have hn : (n : ℚ) = (n / m : ℕ) * m + (n % m : ℕ) := by
    exact_mod_cast (Nat.div_add_mod' n m).symm
  have hsplit : (n : ℚ) / m = (n / m : ℕ) + (n % m : ℕ) / m := by
    rw [hn, add_div, mul_div_cancel_right₀ _ hm'.ne']
  have hexact : (n : ℚ) / m = (n / m : ℕ) ↔ n % m = 0 := by
    rw [hsplit, add_eq_left, div_eq_zero_iff, or_iff_left hm'.ne', Nat.cast_eq_zero]
  have hhalf : compare (2 * ((n : ℚ) / m - (n / m : ℕ))) 1 = compare (2 * (n % m)) m := by
    have hrest : 2 * ((n : ℚ) / m - (n / m : ℕ)) = (2 * (n % m) : ℕ) / m := by
      rw [hsplit]
      push_cast
      ring
    rw [hrest]
    refine compare_congr ?_ ?_ ?_
    · intro h
      exact_mod_cast (div_lt_one hm').1 h
    · intro h
      exact_mod_cast (div_eq_one_iff_eq hm'.ne').1 h
    · intro h
      exact_mod_cast (one_lt_div hm').1 h
  unfold quotient magnitude
  rw [Nat.floor_div_eq_div, hhalf]
  simp only [hexact]

theorem magnitude_le {a : ℚ} {n : ℕ} (ha : 0 ≤ a) (h : a < n) : r.magnitude negative a ≤ n := by
  have hfloor : ⌊a⌋₊ < n := (Nat.floor_lt ha).2 h
  unfold magnitude
  split_ifs <;> omega

/-- Rounding asks only how twice a magnitude compares with the whole numbers. -/
theorem magnitude_congr {a b : ℚ} (ha : 0 ≤ a) (hb : 0 ≤ b)
    (h : ∀ k : ℕ, compare (2 * a) k = compare (2 * b) k) :
    r.magnitude negative a = r.magnitude negative b := by
  have hle : ∀ k : ℕ, (k : ℚ) ≤ a ↔ (k : ℚ) ≤ b := by
    intro k
    have hk := h (2 * k)
    have hlt : ∀ {c : ℚ}, (k : ℚ) ≤ c ↔ compare (2 * c) ((2 * k : ℕ) : ℚ) ≠ .lt := by
      intro c
      rw [ne_eq, compare_lt_iff_lt, not_lt, Nat.cast_mul, Nat.cast_ofNat,
        mul_le_mul_iff_right₀ two_pos]
    rw [hlt, hlt, hk]
  have hfloor : ⌊a⌋₊ = ⌊b⌋₊ := by
    refine le_antisymm ?_ ?_
    · exact Nat.le_floor ((hle _).1 (Nat.floor_le ha))
    · exact Nat.le_floor ((hle _).2 (Nat.floor_le hb))
  have hexact : a = ⌊b⌋₊ ↔ b = ⌊b⌋₊ := by
    have heq : ∀ {c : ℚ}, c = ⌊b⌋₊ ↔ compare (2 * c) ((2 * ⌊b⌋₊ : ℕ) : ℚ) = .eq := by
      intro c
      rw [compare_eq_iff_eq, Nat.cast_mul, Nat.cast_ofNat, mul_right_inj' two_ne_zero]
    rw [heq, heq, h]
  have hhalf : compare (2 * (a - ⌊b⌋₊)) 1 = compare (2 * (b - ⌊b⌋₊)) 1 := by
    have hshift : ∀ {c : ℚ}, compare (2 * (c - ⌊b⌋₊)) 1 =
        compare (2 * c) ((2 * ⌊b⌋₊ + 1 : ℕ) : ℚ) := by
      intro c
      refine compare_congr ?_ ?_ ?_ <;> intro hc <;> push_cast <;> linarith
    rw [hshift, hshift, h]
  unfold magnitude
  rw [hfloor, hhalf]
  simp only [hexact]

/-- Magnitudes between the same two whole numbers compare alike with whole numbers. -/
theorem compare_natCast_of_between {a b : ℚ} {n : ℕ} (ha : n < a ∧ a < n + 1)
    (hb : n < b ∧ b < n + 1) (k : ℕ) : compare a k = compare b k := by
  rcases Nat.lt_or_ge n k with hk | hk
  · have hk' : ((n + 1 : ℕ) : ℚ) ≤ k := by exact_mod_cast hk
    push_cast at hk'
    rw [compare_lt_iff_lt.2 (ha.2.trans_le hk'), compare_lt_iff_lt.2 (hb.2.trans_le hk')]
  · have hk' : (k : ℚ) ≤ n := by exact_mod_cast hk
    rw [compare_gt_iff_gt.2 (hk'.trans_lt ha.1), compare_gt_iff_gt.2 (hk'.trans_lt hb.1)]

/-! ## Places -/

/-- The number `q` rounded to a multiple of `10 ^ (-s)`. -/
def atScale (s : ℤ) (q : ℚ) : ℚ :=
  let m : ℚ := r.magnitude (q < 0) (|q| * 10 ^ s) * 10 ^ (-s)
  if q < 0 then -m else m

/-- The number `q` rounded to `p` significant digits. -/
def toDigits (p : ℕ) (q : ℚ) : ℚ := r.atScale (p - (Int.log 10 |q| + 1)) q

theorem atScale_zero (s : ℤ) : r.atScale s 0 = 0 := by
  have hzero : r.magnitude false 0 = 0 := by simpa using r.magnitude_natCast false 0
  simp [atScale, hzero]

theorem abs_atScale_mul (s : ℤ) (q : ℚ) :
    |r.atScale s q| * 10 ^ s = r.magnitude (q < 0) (|q| * 10 ^ s) := by
  have hscale : (10 : ℚ) ^ (-s) * 10 ^ s = 1 := by
    rw [← zpow_add₀ (by norm_num), neg_add_cancel, zpow_zero]
  have hnonneg : (0 : ℚ) ≤ r.magnitude (q < 0) (|q| * 10 ^ s) * 10 ^ (-s) :=
    mul_nonneg (Nat.cast_nonneg _) (Decimal.ten_zpow_pos _).le
  simp only [atScale]
  split
  · rw [abs_neg, abs_of_nonneg hnonneg, mul_assoc, hscale, mul_one]
  · rw [abs_of_nonneg hnonneg, mul_assoc, hscale, mul_one]

/-- A number with no more places stays as it is. -/
theorem atScale_of_natCast {s : ℤ} {q : ℚ} {n : ℕ} (h : |q| * 10 ^ s = n) :
    r.atScale s q = q := by
  have hback : (n : ℚ) * 10 ^ (-s) = |q| := by
    rw [← h, mul_assoc, ← zpow_add₀ (by norm_num), add_neg_cancel, zpow_zero, mul_one]
  simp only [atScale, h, magnitude_natCast, hback]
  split
  · next hneg => rw [abs_of_neg hneg, neg_neg]
  · next hneg => exact abs_of_nonneg (not_lt.1 hneg)

/-! ## Significant digits -/

/-- The position of the first digit of a magnitude that lies between two whole units. -/
theorem log_of_between {q : ℚ} {n : ℕ} {s : ℤ} (hn : 0 < n)
    (h : n < |q| * 10 ^ s ∧ |q| * 10 ^ s < n + 1) : Int.log 10 |q| = Nat.log 10 n - s := by
  have hlow : 10 ^ Nat.log 10 n ≤ n := Nat.pow_log_le_self 10 hn.ne'
  have hhigh : n + 1 ≤ 10 ^ (Nat.log 10 n + 1) := Nat.lt_pow_succ_log_self (by decide) n
  have hpos : 0 < |q| := by
    refine abs_pos.2 ?_
    rintro rfl
    rw [abs_zero, zero_mul] at h
    exact absurd h.1 (not_lt.2 (Nat.cast_nonneg n))
  have hunscale : ∀ k : ℤ, (10 : ℚ) ^ (k - s) * 10 ^ s = 10 ^ k := by
    intro k
    rw [← zpow_add₀ (by norm_num), sub_add_cancel]
  have hle : ((10 : ℕ) : ℚ) ^ ((Nat.log 10 n : ℤ) - s) ≤ |q| := by
    refine le_of_mul_le_mul_right ?_ (Decimal.ten_zpow_pos s)
    rw [Nat.cast_ofNat, hunscale, zpow_natCast]
    exact le_trans (by exact_mod_cast hlow) h.1.le
  have hlt : |q| < ((10 : ℕ) : ℚ) ^ (((Nat.log 10 n + 1 : ℕ) : ℤ) - s) := by
    refine lt_of_mul_lt_mul_right ?_ (Decimal.ten_zpow_pos s).le
    rw [Nat.cast_ofNat, hunscale, zpow_natCast]
    exact h.2.trans_le (by exact_mod_cast hhigh)
  have hlog := (Int.zpow_le_iff_le_log (by norm_num) hpos).1 hle
  have hlog' := (Int.lt_zpow_iff_log_lt (by norm_num) hpos).1 hlt
  omega

/-- Numbers that lie between the same two units of a place behind all digits that are kept are
rounded alike. -/
theorem toDigits_of_between {q u : ℚ} {p n : ℕ} {s : ℤ} (hsign : q < 0 ↔ u < 0)
    (hn : 10 ^ p ≤ n) (hq : n < |q| * 10 ^ s ∧ |q| * 10 ^ s < n + 1)
    (hu : n < |u| * 10 ^ s ∧ |u| * 10 ^ s < n + 1) : r.toDigits p q = r.toDigits p u := by
  have hpos : 0 < n := (Nat.pow_pos (by decide)).trans_le hn
  have hp : p ≤ Nat.log 10 n := Nat.le_log_of_pow_le (by decide) hn
  obtain ⟨t, ht⟩ : ∃ t : ℕ, (p : ℤ) - (Nat.log 10 n - s + 1) = s - (t + 1 : ℕ) :=
    ⟨Nat.log 10 n - p, by omega⟩
  -- A unit of the target place is a whole number of pairs of units of the place `s`.
  have hscale : ∀ v : ℚ, 2 * (v * 10 ^ (s - (t + 1 : ℕ))) = v * 10 ^ s / (5 * 10 ^ t) := by
    intro v
    rw [zpow_sub₀ (by norm_num), zpow_natCast, pow_succ]
    field_simp
    ring
  have hcompare : ∀ v : ℚ, ∀ k : ℕ, compare (2 * (v * 10 ^ (s - (t + 1 : ℕ)))) (k : ℚ) =
      compare (v * 10 ^ s) ((k * (5 * 10 ^ t) : ℕ) : ℚ) := by
    intro v k
    have hunit : (0 : ℚ) < 5 * 10 ^ t := by positivity
    rw [hscale]
    push_cast
    refine compare_congr ?_ ?_ ?_
    · exact (div_lt_iff₀ hunit).1
    · exact (div_eq_iff hunit.ne').1
    · exact (lt_div_iff₀ hunit).1
  have hmagnitude : r.magnitude (decide (q < 0)) (|q| * 10 ^ (s - (t + 1 : ℕ))) =
      r.magnitude (decide (u < 0)) (|u| * 10 ^ (s - (t + 1 : ℕ))) := by
    rw [decide_eq_decide.2 hsign]
    refine r.magnitude_congr _ ?_ ?_ fun k => ?_
    · exact mul_nonneg (abs_nonneg _) (Decimal.ten_zpow_pos _).le
    · exact mul_nonneg (abs_nonneg _) (Decimal.ten_zpow_pos _).le
    · rw [hcompare, hcompare]
      exact compare_natCast_of_between hq hu _
  rw [toDigits, toDigits, log_of_between hpos hq, log_of_between hpos hu, ht]
  simp only [atScale]
  rw [hmagnitude]
  simp only [hsign]

end Rounding

/-! ## Dropped digits -/

namespace Decimal

variable {s : Int} {x : Decimal}

/-- The places that are compared to round `x` at the scale `s` fit their words. -/
def RoundFits (s : Int) (x : Decimal) : Prop :=
  x.scale ≤ s ∨ FitsScale x.lead ∧ FitsScale (-s)

theorem scale_roundAt (r : Rounding) (s : ℤ) (x : Decimal) : (x.roundAt r s).scale = s := by
  unfold roundAt
  split <;> rfl

theorem abs_toRat_mul_zpow {count : ℕ} (h : s = x.scale - count) :
    |x.toRat| * 10 ^ s = (x.coeff.natAbs : ℚ) / (10 ^ count : ℕ) := by
  rw [natCast_natAbs_coeff, h, zpow_sub₀ (by norm_num), zpow_natCast, mul_div_assoc]
  push_cast
  rfl

/-- More digits than there are make no difference to what is dropped. -/
theorem quotient_min (r : Rounding) (negative : Bool) (n count : ℕ) :
    r.quotient negative n (10 ^ min count (digitCount n + 1)) =
      r.magnitude negative (n / (10 ^ count : ℕ)) := by
  rw [r.quotient_eq_magnitude negative n (by positivity)]
  rcases Nat.le_total count (digitCount n + 1) with hcount | hcount
  · rw [min_eq_left hcount]
  · rw [min_eq_right hcount]
    -- Both magnitudes are less than a half; if they are not zero, they are rounded alike.
    rcases Nat.eq_zero_or_pos n with rfl | hn
    · simp
    have hsmall : ∀ j : ℕ, digitCount n + 1 ≤ j →
        ((0 : ℕ) : ℚ) < 2 * (n / (10 ^ j : ℕ)) ∧ 2 * ((n : ℚ) / (10 ^ j : ℕ)) < (0 : ℕ) + 1 := by
      intro j hj
      have hpow : 2 * n < 10 ^ j := by
        have hlt := lt_pow_digitCount n
        have hle : 10 ^ (digitCount n + 1) ≤ 10 ^ j := Nat.pow_le_pow_right (by decide) hj
        rw [pow_succ] at hle
        omega
      have hpow' : (2 * n : ℚ) < (10 ^ j : ℕ) := by exact_mod_cast hpow
      have hpos : (0 : ℚ) < n := by exact_mod_cast hn
      constructor
      · rw [Nat.cast_zero]
        positivity
      · rw [Nat.cast_zero, zero_add, ← mul_div_assoc, div_lt_one (by positivity)]
        exact hpow'
    refine r.magnitude_congr negative (by positivity) (by positivity) fun k => ?_
    exact Rounding.compare_natCast_of_between (hsmall _ le_rfl) (hsmall _ hcount) k

theorem min_droppedAt (hscale : s ≤ x.scale) (hlead : FitsScale x.lead) (hs : FitsScale (-s)) :
    min (x.droppedAt s) (x.digits + 1) = min (x.scale - s).toNat (x.digits + 1) := by
  unfold droppedAt
  rw [wrapScale_of_fits hlead, wrapScale_of_fits hs]
  split
  · next hlt =>
    rw [lead] at hlt
    omega
  · rfl

/-- What is rounded is the number. -/
theorem toRat_roundAt (r : Rounding) (h : x.RoundFits s) :
    (x.roundAt r s).toRat = r.atScale s x.toRat := by
  unfold roundAt
  split
  · next hscale =>
    have hcoeff := cast_coeffAt hscale
    rw [toRat_mk_of_cast hcoeff]
    refine (r.atScale_of_natCast (n := (x.coeffAt s).natAbs) ?_).symm
    rw [Nat.cast_natAbs, Int.cast_abs, hcoeff, abs_mul, abs_of_pos (ten_zpow_pos s)]
  · next hscale =>
    obtain ⟨hlead, hs⟩ := h.resolve_left hscale
    have hcount : s = x.scale - ((x.scale - s).toNat : ℕ) := by omega
    have hquotient := quotient_min r x.isNegative x.coeff.natAbs (x.scale - s).toNat
    rw [← abs_toRat_mul_zpow hcount] at hquotient
    have hsign : x.isNegative = decide (x.toRat < 0) := by
      rw [Bool.eq_iff_iff, isNegative_iff, decide_eq_true_eq]
    rw [toRat_mk, dropDigits, min_droppedAt (by omega) hlead hs, digits, hquotient, hsign]
    simp only [Rounding.atScale]
    rcases lt_trichotomy x.coeff 0 with hx | hx | hx
    · rw [if_pos (toRat_neg_iff.2 hx), Int.sign_eq_neg_one_of_neg hx]
      push_cast
      ring
    · have hzero : x.toRat = 0 := toRat_eq_zero_iff.2 hx
      have hmagnitude : r.magnitude false 0 = 0 := by simpa using r.magnitude_natCast false 0
      simp [hx, hzero, hmagnitude]
    · rw [if_neg (mt toRat_neg_iff.1 (not_lt.2 hx.le)), Int.sign_eq_one_of_pos hx]
      push_cast
      ring

end Decimal

/-! ## Rounding to the precision -/

namespace Context

variable {c : Context} {x : Decimal}

/-- No scale leaves its 64 bits when `x` is rounded to the precision. -/
def RoundFits (c : Context) (x : Decimal) : Prop :=
  c.precision < x.digits →
    let target := x.scale - (x.digits - c.precision : ℕ)
    let rounded := x.roundAt c.rounding target
    FitsScale target ∧ x.RoundFits target ∧
      (c.precision < rounded.digits → FitsScale (target - 1) ∧ rounded.RoundFits (target - 1))

/-- A zero is not too long for any precision. -/
theorem coeff_ne_zero_of_digits (h : c.precision < x.digits) : x.coeff ≠ 0 := by
  intro hzero
  rw [Decimal.digits, hzero, Int.natAbs_zero, digitCount_zero] at h
  exact absurd h (not_lt.2 c.precision_pos)

/-- A number with `p` digits at most is no number of more digits. -/
theorem toDigits_of_digits_le (r : Rounding) {p : ℕ} (h : x.digits ≤ p) :
    r.toDigits p x.toRat = x.toRat := by
  rcases eq_or_ne x.coeff 0 with hzero | hne
  · rw [Decimal.toRat_eq_zero_iff.2 hzero]
    exact r.atScale_zero _
  · rw [Rounding.toDigits, ← Decimal.lead_eq_log hne]
    have hscale : x.scale ≤ p - x.lead := by
      rw [Decimal.lead]
      omega
    refine r.atScale_of_natCast (n := (x.coeffAt (p - x.lead)).natAbs) ?_
    rw [Nat.cast_natAbs, Int.cast_abs, Decimal.cast_coeffAt hscale, abs_mul,
      abs_of_pos (Decimal.ten_zpow_pos _)]

/-- The target scale is that of the last significant digit. -/
theorem target_eq (hne : x.coeff ≠ 0) (h : c.precision < x.digits) :
    x.scale - (x.digits - c.precision : ℕ) = c.precision - (Int.log 10 |x.toRat| + 1) := by
  rw [← Decimal.lead_eq_log hne, Decimal.lead]
  omega

/-- A carry that makes a digit too many leaves a power of ten. -/
theorem natAbs_coeff_of_carry {s : Int} (hs : s = c.precision - x.lead)
    (hround : x.RoundFits s) (hscale : (x.roundAt c.rounding s).scale = s)
    (hcarry : c.precision < (x.roundAt c.rounding s).digits) :
    (x.roundAt c.rounding s).coeff.natAbs = 10 ^ c.precision := by
  have hlt : |x.toRat| * 10 ^ s < (10 ^ c.precision : ℕ) := by
    calc |x.toRat| * 10 ^ s
        < 10 ^ x.lead * 10 ^ s :=
          mul_lt_mul_of_pos_right x.abs_toRat_lt (Decimal.ten_zpow_pos s)
      _ = (10 ^ c.precision : ℕ) := by
          rw [← zpow_add₀ (by norm_num), hs, add_sub_cancel, zpow_natCast]
          push_cast
          rfl
  have hcoeff : ((x.roundAt c.rounding s).coeff.natAbs : ℚ) =
      c.rounding.magnitude (x.toRat < 0) (|x.toRat| * 10 ^ s) := by
    rw [Decimal.natCast_natAbs_coeff, hscale, Decimal.toRat_roundAt _ hround,
      Rounding.abs_atScale_mul]
  have hle : (x.roundAt c.rounding s).coeff.natAbs ≤ 10 ^ c.precision := by
    rw [Nat.cast_inj.1 hcoeff]
    have hnonneg : 0 ≤ |x.toRat| * 10 ^ s :=
      mul_nonneg (abs_nonneg _) (Decimal.ten_zpow_pos _).le
    exact c.rounding.magnitude_le _ hnonneg hlt
  have hpos : 0 < (x.roundAt c.rounding s).coeff.natAbs := by
    by_contra hzero
    rw [Decimal.digits, Nat.eq_zero_of_not_pos hzero, digitCount_zero] at hcarry
    exact absurd hcarry (not_lt.2 c.precision_pos)
  have hge : 10 ^ c.precision ≤ (x.roundAt c.rounding s).coeff.natAbs :=
    (Nat.pow_le_pow_right (by decide) (Nat.le_sub_one_of_lt hcarry)).trans
      (pow_le_of_digitCount hpos)
  exact le_antisymm hle hge

/-- What is rounded to the precision is the number. -/
theorem toRat_round (h : c.RoundFits x) :
    (c.round x).toRat = c.rounding.toDigits c.precision x.toRat := by
  unfold round
  split
  · next hdigits => exact (toDigits_of_digits_le c.rounding hdigits).symm
  · next hdigits =>
    have hlong : c.precision < x.digits := not_le.1 hdigits
    obtain ⟨htarget, hround, hcarry⟩ := h hlong
    have hne := coeff_ne_zero_of_digits hlong
    have hvalue : (x.roundAt c.rounding (x.scale - (x.digits - c.precision : ℕ))).toRat =
        c.rounding.toDigits c.precision x.toRat := by
      rw [Decimal.toRat_roundAt _ hround, Rounding.toDigits, target_eq hne hlong]
    have hlead : x.scale - (x.digits - c.precision : ℕ) = c.precision - x.lead := by
      rw [Decimal.lead]
      omega
    have hscale := Decimal.scale_roundAt c.rounding (x.scale - (x.digits - c.precision : ℕ)) x
    rw [wrapScale_of_fits htarget]
    simp only
    split
    · next hcarried =>
      obtain ⟨hnext, hagain⟩ := hcarry hcarried
      have hcoeff := natAbs_coeff_of_carry hlead hround hscale hcarried
      -- One more zero is dropped.
      rw [wrapScale_of_fits hnext, Decimal.toRat_roundAt _ hagain, ← hvalue]
      refine c.rounding.atScale_of_natCast (n := 10 ^ (c.precision - 1)) ?_
      have hstep := Decimal.natCast_natAbs_coeff
        (x.roundAt c.rounding (x.scale - (x.digits - c.precision : ℕ)))
      rw [hcoeff, hscale] at hstep
      have hten : 10 ^ c.precision = 10 ^ (c.precision - 1) * 10 := by
        rw [← pow_succ, Nat.sub_add_cancel c.precision_pos]
      rw [zpow_sub₀ (by norm_num), zpow_one, ← mul_div_assoc, ← hstep, hten, Nat.cast_mul,
        Nat.cast_ofNat, mul_div_cancel_right₀ _ (by norm_num)]
    · exact hvalue

end Context

end Reckon
