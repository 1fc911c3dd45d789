import Reckon.Decimal.Plain
import Reckon.Proofs.Decimal.Rounding

/-!
# Trailing zeros

* `lt_digitCount`, `digitCount_le`: bounds of a number and of its digits.
* `digitCount_mul_pow`, `digits_mul_pow`: the digits of a number with zeros behind it.
* `plainChars_zeros`: in plain notation it makes no difference whether zeros stand in the
  coefficient or in a scale that is not positive.
* `stripZeros_le`, `le_stripZeros`, `stripZeros_eq_limit`: as many zeros are removed as there are,
  up to the limit.
* `roundAt_zeros`, `round_zeros`: where only zeros are dropped, no direction does anything else.
* `digits_round_le`, `digits_round_of_long`: a rounded number has no more digits than the precision,
  and as many if it had more. `round_ne_zero`: it is not zero unless the number is.
  `round_of_round`: it is not rounded again.
-/

namespace Reckon

/-! ## Digits -/

theorem lt_digitCount {n k : ℕ} (h : 10 ^ k ≤ n) : k < digitCount n :=
  (Nat.pow_lt_pow_iff_right (by decide)).1 (h.trans_lt (lt_pow_digitCount n))

theorem digitCount_le {n k : ℕ} (hn : 0 < n) (h : n < 10 ^ k) : digitCount n ≤ k := by
  have hlt : digitCount n - 1 < k :=
    (Nat.pow_lt_pow_iff_right (by decide)).1 ((pow_le_of_digitCount hn).trans_lt h)
  omega

theorem digitCount_eq {n k : ℕ} (hlow : 10 ^ k ≤ n) (hhigh : n < 10 ^ (k + 1)) :
    digitCount n = k + 1 :=
  le_antisymm (digitCount_le ((Nat.pow_pos (by decide)).trans_le hlow) hhigh) (lt_digitCount hlow)

theorem digitCount_pow (k : ℕ) : digitCount (10 ^ k) = k + 1 :=
  digitCount_eq le_rfl (Nat.pow_lt_pow_succ (by decide))

theorem Decimal.digits_pow (k : ℕ) (s : ℤ) : (Decimal.mk (10 ^ k) s).digits = k + 1 := by
  rw [Decimal.digits, Int.natAbs_pow]
  exact digitCount_pow k

theorem Decimal.digits_pow_add_one (k : ℕ) (s : ℤ) :
    (Decimal.mk (10 ^ k + 1) s).digits = k + 1 := by
  have hcoeff : (10 : ℤ) ^ k + 1 = (10 ^ k + 1 : ℕ) := by push_cast; rfl
  have hpos : 0 < 10 ^ k := Nat.pow_pos (by decide)
  rw [Decimal.digits, hcoeff, Int.natAbs_natCast]
  exact digitCount_eq (Nat.le_succ _) (by rw [pow_succ]; omega)

theorem digitCount_mul_pow {n : ℕ} (hn : 0 < n) (k : ℕ) :
    digitCount (n * 10 ^ k) = digitCount n + k := by
  have hcount := digitCount_pos n
  have hsplit : digitCount n + k = digitCount n - 1 + k + 1 := by omega
  have hnext : digitCount n - 1 + k + 1 = digitCount n + k := by omega
  rw [hsplit]
  apply digitCount_eq
  · rw [pow_add]
    exact Nat.mul_le_mul_right _ (pow_le_of_digitCount hn)
  · rw [hnext, pow_add]
    exact Nat.mul_lt_mul_of_pos_right (lt_pow_digitCount n) (by positivity)

theorem putDigits_append (w n : ℕ) (rest : List Char) :
    putDigits w n rest = putDigits w n [] ++ rest := by
  induction w generalizing n rest with
  | zero => rfl
  | succ w ih =>
    rw [putDigits, ih, putDigits, ih _ [Nat.digitChar (n % 10)], List.append_assoc]
    rfl

theorem putDigits_zeros (k n : ℕ) (rest : List Char) :
    putDigits k (n * 10 ^ k) rest = List.replicate k '0' ++ rest := by
  induction k generalizing rest with
  | zero => rfl
  | succ k ih =>
    have hten : n * 10 ^ (k + 1) = 10 * (n * 10 ^ k) := by ring
    rw [putDigits, hten, Nat.mul_div_cancel_left _ (by decide), Nat.mul_mod_right, ih,
      List.replicate_succ', List.append_assoc]
    rfl

theorem digits_mul_pow {n : ℕ} (hn : 0 < n) (k : ℕ) :
    digits (n * 10 ^ k) = digits n ++ List.replicate k '0' := by
  rw [digits, appendDigits_eq, digitCount_mul_pow hn, putDigits_add,
    Nat.mul_div_cancel _ (by positivity), putDigits_zeros, List.append_nil, putDigits_append,
    digits, appendDigits_eq]

/-! ## Removed zeros -/

theorem stripFrom_le (j limit n : ℕ) : (stripFrom j limit n).1 ≤ limit := by
  induction j generalizing limit n with
  | zero => exact Nat.zero_le limit
  | succ j ih =>
    unfold stripFrom
    split
    · next h =>
      have := ih (limit - 2 ^ j) (n / 10 ^ 2 ^ j)
      dsimp only
      omega
    · exact ih limit n

/-- As many zeros are found as `j` binary digits can count. -/
theorem le_stripFrom {j limit n i : ℕ} (hi : i < 2 ^ j) (hlimit : i ≤ limit) (h : 10 ^ i ∣ n) :
    i ≤ (stripFrom j limit n).1 := by
  induction j generalizing limit n i with
  | zero => exact Nat.le_of_lt_succ hi
  | succ j ih =>
    rw [pow_succ] at hi
    unfold stripFrom
    split
    · next hstep =>
      dsimp only
      rcases Nat.lt_or_ge i (2 ^ j) with hlow | hhigh
      · omega
      · have hrest : 10 ^ (i - 2 ^ j) ∣ n / 10 ^ 2 ^ j := by
          refine Nat.dvd_div_of_mul_dvd ?_
          rwa [← pow_add, Nat.add_sub_cancel' hhigh]
        have := @ih (limit - 2 ^ j) _ _ (by omega) (by omega) hrest
        omega
    · next hstep =>
      refine ih ?_ hlimit h
      by_contra hhigh
      have hdvd : 10 ^ 2 ^ j ∣ n := (pow_dvd_pow 10 (not_lt.1 hhigh)).trans h
      exact hstep ⟨(not_lt.1 hhigh).trans hlimit, Nat.mod_eq_zero_of_dvd hdvd⟩

theorem stripZeros_le (limit n : ℕ) : (stripZeros limit n).1 ≤ limit := stripFrom_le _ limit n

/-- All zeros are removed that the limit allows. -/
theorem le_stripZeros {limit n i : ℕ} (hlimit : i ≤ limit) (h : 10 ^ i ∣ n) :
    i ≤ (stripZeros limit n).1 :=
  le_stripFrom (hlimit.trans_lt Nat.lt_log2_self) hlimit h

/-- A zero is kept only when the limit is reached. -/
theorem stripZeros_eq_limit {limit n : ℕ} (h : 10 ∣ (stripZeros limit n).2) :
    (stripZeros limit n).1 = limit := by
  refine (stripZeros_le limit n).antisymm (not_lt.1 fun hbefore => ?_)
  have hdvd : 10 ^ ((stripZeros limit n).1 + 1) ∣ n := by
    nth_rewrite 2 [← stripZeros_mul limit n]
    rw [pow_succ']
    exact Nat.mul_dvd_mul_right h _
  exact absurd (le_stripZeros hbefore hdvd) (Nat.not_succ_le_self _)

namespace Decimal

variable {m s : Int} {x : Decimal}

theorem digits_zeros (hm : m ≠ 0) (s : Int) (k : ℕ) :
    (Decimal.mk (m * 10 ^ k) s).digits = digitCount m.natAbs + k := by
  rw [digits, Int.natAbs_mul, Int.natAbs_pow]
  exact digitCount_mul_pow (Int.natAbs_pos.2 hm) k

/-- Zeros are written the same, whether they stand in the coefficient or in the scale. -/
theorem plainChars_zeros (hm : m ≠ 0) (hs : s ≤ 0) (k : ℕ) :
    (Decimal.mk (m * 10 ^ k) s).plainChars = (Decimal.mk m (s - k)).plainChars := by
  have hsign : m * 10 ^ k < 0 ↔ m < 0 := by
    constructor
    · intro h
      exact neg_of_mul_neg_left h (by positivity)
    · intro h
      exact mul_neg_of_neg_of_pos h (by positivity)
  have hdigits : Reckon.digits (m * 10 ^ k).natAbs =
      Reckon.digits m.natAbs ++ List.replicate k '0' := by
    rw [Int.natAbs_mul, Int.natAbs_pow]
    exact digits_mul_pow (Int.natAbs_pos.2 hm) k
  have hplaces : (-(s - k)).toNat = k + (-s).toNat := by omega
  simp only [plainChars, hsign, hdigits, if_pos hs, if_pos (show s - k ≤ 0 by omega), hplaces,
    List.replicate_add, List.append_assoc]

/-! ## Rounding -/

/-- Where only zeros are dropped, no direction does anything else. -/
theorem roundAt_zeros (r : Rounding) (hm : m ≠ 0) {j k : ℕ} (hj : j ≤ k)
    (hfits : (Decimal.mk (m * 10 ^ k) s).RoundFits (s - j)) :
    (Decimal.mk (m * 10 ^ k) s).roundAt r (s - j) = ⟨m * 10 ^ (k - j), s - j⟩ := by
  rcases Nat.eq_zero_or_pos j with rfl | hpos
  · have hself := coeffAt_self ⟨m * 10 ^ k, s⟩
    rw [Nat.cast_zero, sub_zero, Nat.sub_zero]
    rw [roundAt, if_pos le_rfl]
    exact congrArg (Decimal.mk · s) hself
  · have hlower : ¬ s ≤ s - j := by omega
    obtain ⟨hlead, hs⟩ := hfits.resolve_left hlower
    have hcount : (s - (s - j)).toNat = j := by omega
    have hdigits := digits_zeros hm s k
    have hmin : min j ((Decimal.mk (m * 10 ^ k) s).digits + 1) = j := by omega
    have hsplit : (m * 10 ^ k).natAbs = m.natAbs * 10 ^ (k - j) * 10 ^ j := by
      rw [Int.natAbs_mul, Int.natAbs_pow, mul_assoc, ← pow_add, Nat.sub_add_cancel hj]
      rfl
    have hquotient : r.quotient (Decimal.mk (m * 10 ^ k) s).isNegative (m * 10 ^ k).natAbs
        (10 ^ j) = m.natAbs * 10 ^ (k - j) := by
      rw [hsplit, Rounding.quotient_of_dvd (Nat.mul_mod_left _ _),
        Nat.mul_div_cancel _ (by positivity)]
    have hpow : (0 : ℤ) < 10 ^ k := by positivity
    have hsign : (m * 10 ^ k).sign = m.sign := by
      rw [Int.sign_mul, Int.sign_eq_one_of_pos hpow, mul_one]
    have hcoeff : m.sign * ((m.natAbs * 10 ^ (k - j) : ℕ) : ℤ) = m * 10 ^ (k - j) := by
      rw [Nat.cast_mul, ← mul_assoc, Int.sign_mul_natAbs, Nat.cast_pow, Nat.cast_ofNat]
    have hbelow : s - j ≤ (Decimal.mk (m * 10 ^ k) s).scale := not_le.1 hlower |>.le
    rw [roundAt, if_neg hlower, dropDigits, min_droppedAt hbelow hlead hs]
    simp only [hcount, hmin, hquotient, hsign, hcoeff]

/-- The digits of a power of ten are zeros, but for the first. -/
theorem roundAt_of_pow (r : Rounding) {j k : ℕ} (h : x.coeff.natAbs = 10 ^ k) (hj : j ≤ k)
    (hfits : x.RoundFits (x.scale - j)) :
    x.roundAt r (x.scale - j) = ⟨x.coeff.sign * 10 ^ (k - j), x.scale - j⟩ := by
  obtain ⟨m, s⟩ := x
  replace h : m.natAbs = 10 ^ k := h
  obtain ⟨u, hu⟩ : ∃ u, u = m.sign := ⟨m.sign, rfl⟩
  have hm : m = u * 10 ^ k := by
    rw [← Int.sign_mul_natAbs m, h, ← hu]
    push_cast
    rfl
  have hne : u ≠ 0 := by
    rintro rfl
    rw [hm, zero_mul, Int.natAbs_zero] at h
    exact absurd h.symm (by positivity)
  subst hm
  rw [← hu]
  exact roundAt_zeros r hne hj hfits

/-- What is left of a number keeps its first digit. -/
theorem pow_le_natAbs_roundAt (r : Rounding) (hx : x.coeff ≠ 0) {d : ℕ} (hd : d < x.digits)
    (hfits : x.RoundFits (x.scale - d)) :
    10 ^ (x.digits - 1 - d) ≤ (x.roundAt r (x.scale - d)).coeff.natAbs := by
  have hcoeff : 10 ^ (x.digits - 1) ≤ x.coeff.natAbs := pow_le_of_digitCount (Int.natAbs_pos.2 hx)
  rcases Nat.eq_zero_or_pos d with rfl | hpos
  · rw [roundAt, Nat.cast_zero, sub_zero, if_pos le_rfl, coeffAt_self]
    exact hcoeff
  · have hlower : ¬ x.scale ≤ x.scale - d := by omega
    obtain ⟨hlead, hs⟩ := hfits.resolve_left hlower
    have hcount : min (x.scale - (x.scale - d)).toNat (x.digits + 1) = d := by omega
    rw [roundAt, if_neg hlower, dropDigits, min_droppedAt (by omega) hlead hs, hcount,
      Int.natAbs_mul, Int.natAbs_sign_of_ne_zero hx, one_mul, Int.natAbs_natCast]
    have hfloor : 10 ^ (x.digits - 1 - d) ≤ x.coeff.natAbs / 10 ^ d := by
      rw [Nat.le_div_iff_mul_le (by positivity), ← pow_add]
      have hsum : x.digits - 1 - d + d = x.digits - 1 := by omega
      rwa [hsum]
    rcases r.quotient_eq_or x.isNegative x.coeff.natAbs (10 ^ d) with hq | hq <;> omega

end Decimal

namespace Context

variable {c : Context} {x : Decimal}

theorem round_of_digits_le (h : x.digits ≤ c.precision) : c.round x = x := if_pos h

/-- A number with few digits in front of its zeros loses nothing else. -/
theorem round_zeros {m s : Int} {k : ℕ} (hm : m ≠ 0) (hdigits : digitCount m.natAbs ≤ c.precision)
    (hfits : c.RoundFits ⟨m * 10 ^ k, s⟩) :
    ∃ j ≤ k, c.round ⟨m * 10 ^ k, s⟩ = ⟨m * 10 ^ (k - j), s - j⟩ := by
  have hlength := Decimal.digits_zeros hm s k
  by_cases hfew : (Decimal.mk (m * 10 ^ k) s).digits ≤ c.precision
  · refine ⟨0, Nat.zero_le k, ?_⟩
    rw [round_of_digits_le hfew, Nat.sub_zero, Nat.cast_zero, sub_zero]
  · obtain ⟨htarget, hround, -⟩ := hfits (not_le.1 hfew)
    have hj : (Decimal.mk (m * 10 ^ k) s).digits - c.precision ≤ k := by omega
    refine ⟨_, hj, ?_⟩
    have hrounded := Decimal.roundAt_zeros c.rounding hm hj hround
    have hcount := Decimal.digits_zeros hm
      (s - ((Decimal.mk (m * 10 ^ k) s).digits - c.precision : ℕ))
      (k - ((Decimal.mk (m * 10 ^ k) s).digits - c.precision))
    rw [round, if_neg hfew]
    simp only [wrapScale_of_fits htarget, hrounded]
    rw [if_neg (by omega)]

/-- A longer number is rounded to as many digits as the precision has; where a carry makes one more,
the last zero is dropped. -/
theorem round_cases (h : c.RoundFits x) (hlong : c.precision < x.digits) :
    let rounded := x.roundAt c.rounding (x.scale - (x.digits - c.precision : ℕ))
    (rounded.digits ≤ c.precision ∧ c.round x = rounded) ∨
      (c.round x).coeff = rounded.coeff.sign * 10 ^ (c.precision - 1) ∧ rounded.coeff ≠ 0 := by
  intro rounded
  obtain ⟨htarget, hround, hcarry⟩ := h hlong
  have hscale : rounded.scale = x.scale - (x.digits - c.precision : ℕ) :=
    Decimal.scale_roundAt _ _ x
  have hround_eq : c.round x = if c.precision < rounded.digits then
      rounded.roundAt c.rounding (wrapScale (x.scale - (x.digits - c.precision : ℕ) - 1))
      else rounded := by
    rw [round, if_neg (not_le.2 hlong)]
    simp only [wrapScale_of_fits htarget, rounded]
  by_cases hcarried : c.precision < rounded.digits
  · right
    obtain ⟨hnext, hagain⟩ := hcarry hcarried
    have hlead : x.scale - (x.digits - c.precision : ℕ) = c.precision - x.lead := by
      rw [Decimal.lead]
      omega
    have hcoeff : rounded.coeff.natAbs = 10 ^ c.precision :=
      natAbs_coeff_of_carry hlead hround hscale hcarried
    have hne : rounded.coeff ≠ 0 := by
      intro hzero
      rw [hzero, Int.natAbs_zero] at hcoeff
      exact absurd hcoeff.symm (by positivity)
    have hagain' : rounded.RoundFits (rounded.scale - (1 : ℕ)) := by
      rw [hscale]
      exact hagain
    have hdrop := Decimal.roundAt_of_pow c.rounding hcoeff c.precision_pos hagain'
    refine ⟨?_, hne⟩
    rw [hround_eq, if_pos hcarried, wrapScale_of_fits hnext, ← hscale]
    exact congrArg Decimal.coeff hdrop
  · left
    rw [hround_eq, if_neg hcarried]
    exact ⟨not_lt.1 hcarried, rfl⟩

/-- A rounded number has no more digits than the precision. -/
theorem digits_round_le (h : c.RoundFits x) : (c.round x).digits ≤ c.precision := by
  by_cases hfew : x.digits ≤ c.precision
  · rwa [round_of_digits_le hfew]
  · rcases round_cases h (not_le.1 hfew) with ⟨hdigits, hround⟩ | ⟨hcoeff, hne⟩
    · rwa [hround]
    · have hpos := c.precision_pos
      have hsign := Int.natAbs_sign_of_ne_zero hne
      have hcount : digitCount (1 * 10 ^ (c.precision - 1)) = digitCount 1 + (c.precision - 1) :=
        digitCount_mul_pow one_pos _
      have hone : digitCount 1 = 1 := digitCount_eq (k := 0) (by decide) (by decide)
      rw [Decimal.digits, hcoeff, Int.natAbs_mul, hsign, Int.natAbs_pow]
      show digitCount (1 * 10 ^ (c.precision - 1)) ≤ c.precision
      omega

/-- It is not rounded again. -/
theorem round_of_round (h : c.RoundFits x) : c.round (c.round x) = c.round x :=
  round_of_digits_le (digits_round_le h)

/-- A longer number keeps its first digit. -/
theorem pow_le_natAbs_round (h : c.RoundFits x) (hlong : c.precision < x.digits) :
    10 ^ (c.precision - 1) ≤ (c.round x).coeff.natAbs := by
  have hpos := c.precision_pos
  rcases round_cases h hlong with ⟨-, hround⟩ | ⟨hcoeff, hne⟩
  · obtain ⟨-, hfits, -⟩ := h hlong
    have hkept := Decimal.pow_le_natAbs_roundAt c.rounding (coeff_ne_zero_of_digits hlong)
      (by omega) hfits
    have hcount : x.digits - 1 - (x.digits - c.precision) = c.precision - 1 := by omega
    rwa [hround, ← hcount]
  · rw [hcoeff, Int.natAbs_mul, Int.natAbs_sign_of_ne_zero hne, one_mul, Int.natAbs_pow]
    exact le_rfl

/-- It is rounded to exactly as many digits as the precision has. -/
theorem digits_round_of_long (h : c.RoundFits x) (hlong : c.precision < x.digits) :
    (c.round x).digits = c.precision := by
  have hpos := c.precision_pos
  have hmany := lt_digitCount (pow_le_natAbs_round h hlong)
  have hfew := digits_round_le h
  rw [Decimal.digits] at hfew ⊢
  omega

/-- What is rounded to zero is zero. -/
theorem round_ne_zero (h : c.RoundFits x) (hx : x.coeff ≠ 0) : (c.round x).coeff ≠ 0 := by
  by_cases hfew : x.digits ≤ c.precision
  · rwa [round_of_digits_le hfew]
  · have hkept := pow_le_natAbs_round h (not_le.1 hfew)
    exact Int.natAbs_pos.1 ((Nat.pow_pos (by decide)).trans_le hkept)

end Context

end Reckon
