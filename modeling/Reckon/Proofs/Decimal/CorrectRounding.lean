import Reckon.Proofs.Decimal.Neighbours
import Mathlib.Data.Sign.Basic

/-!
# Correct rounding

* `Rounding.Rounds r p q y`: what it is for `y` to be the number `q` rounded to `p` significant
  digits in the direction `r`, said without computing it.
* `Rounding.mirror`, `rounds_of_neg`: below zero the directions to the ceiling and to the floor
  change places.
* `rounds_toDigits`: `toDigits` rounds, and `Rounds.unique`: nothing else does. `rounds_iff`: so the
  two say the same.
* `Rounds.mono`: rounding keeps the order of numbers. `Rounds.ne_zero`: only zero becomes zero.
-/

namespace Reckon

/-- The place of the last of `p` digits of `q`. -/
def lastPlace (p : ℕ) (q : ℚ) : ℤ := Int.log 10 |q| + 1 - p

/-- `y` ends at the place `k`, with an even digit. -/
def EvenAt (k : ℤ) (y : ℚ) : Prop := ∃ m : ℤ, Even m ∧ y = m * 10 ^ k

namespace Rounding

/-- The number `q` rounded to `p` significant digits is `y`. Of two nearest numbers a half goes away
from zero, toward zero, or to the one whose last digit is even. -/
def Rounds (r : Rounding) (p : ℕ) (q y : ℚ) : Prop :=
  match r with
  | up => ∃ m, IsLeast {z | z ∈ Short p ∧ |q| ≤ z} m ∧ y = SignType.sign q * m
  | down => ∃ m, IsGreatest {z | z ∈ Short p ∧ z ≤ |q|} m ∧ y = SignType.sign q * m
  | ceiling => IsLeast {z | z ∈ Short p ∧ q ≤ z} y
  | floor => IsGreatest {z | z ∈ Short p ∧ z ≤ q} y
  | halfUp => IsNearest (Short p) q y ∧ ∀ z, IsNearest (Short p) q z → |z| ≤ |y|
  | halfDown => IsNearest (Short p) q y ∧ ∀ z, IsNearest (Short p) q z → |y| ≤ |z|
  | halfEven => IsNearest (Short p) q y ∧
      ∀ z, IsNearest (Short p) q z → z ≠ y → EvenAt (lastPlace p q) y

variable {r : Rounding} {p : ℕ} {q q' y y' low high : ℚ}

/-! ## Numbers that are short already -/

/-- A number with no more digits is rounded to itself. -/
theorem rounds_self (hq : q ∈ Short p) : r.Rounds p q q := by
  have habs : |q| ∈ Short p := by
    rcases abs_choice q with h | h <;> rw [h]
    · exact hq
    · exact neg_mem_short_iff.2 hq
  have honly : ∀ z, IsNearest (Short p) q z → z = q := fun z hz => hz.eq_of_mem hq
  cases r with
  | up => exact ⟨|q|, ⟨⟨habs, le_rfl⟩, fun z hz => hz.2⟩, (sign_mul_abs q).symm⟩
  | down => exact ⟨|q|, ⟨⟨habs, le_rfl⟩, fun z hz => hz.2⟩, (sign_mul_abs q).symm⟩
  | ceiling => exact ⟨⟨hq, le_rfl⟩, fun z hz => hz.2⟩
  | floor => exact ⟨⟨hq, le_rfl⟩, fun z hz => hz.2⟩
  | halfUp => exact ⟨isNearest_self hq, fun z hz => by rw [honly z hz]⟩
  | halfDown => exact ⟨isNearest_self hq, fun z hz => by rw [honly z hz]⟩
  | halfEven => exact ⟨isNearest_self hq, fun z hz hne => absurd (honly z hz) hne⟩

/-! ## Positive numbers -/

/-- What the sign, the parity and the midpoint decide between two neighbours is right. -/
theorem rounds_of_neighbours (h : Neighbours (Short p) q low high) (hlow : 0 ≤ low)
    (hlt : low < q) {odd : Bool} (heven : odd = false → EvenAt (lastPlace p q) low)
    (hodd : odd = true → EvenAt (lastPlace p q) high) :
    r.Rounds p q (if r.raises false odd (compare (2 * q) (low + high)) then high else low) := by
  have hq : 0 < q := hlow.trans_lt hlt
  have hhigh : low < high := hlt.trans h.lt_high
  have hsign : ((SignType.sign q : SignType) : ℚ) = 1 := by rw [sign_pos hq, SignType.coe_one]
  have habs : |low| ≤ |high| := by
    rw [abs_of_nonneg hlow, abs_of_pos (hlow.trans_lt hhigh)]
    exact hhigh.le
  -- On one side of the midpoint there is one nearest number.
  have hbelow : 2 * q < low + high → ∀ z, IsNearest (Short p) q z → z = low := by
    intro hside z hz
    refine (h.eq_low_or_eq_high hz).resolve_right ?_
    rintro rfl
    exact absurd (h.isNearest_high_iff.1 hz) (not_le.2 hside)
  have habove : low + high < 2 * q → ∀ z, IsNearest (Short p) q z → z = high := by
    intro hside z hz
    refine (h.eq_low_or_eq_high hz).resolve_left ?_
    rintro rfl
    exact absurd (h.isNearest_low_iff.1 hz) (not_le.2 hside)
  cases r with
  | up =>
    refine ⟨high, ?_, by rw [hsign, one_mul]; rfl⟩
    rw [abs_of_pos hq]
    exact h.isLeast_high hlt
  | down =>
    refine ⟨low, ?_, by rw [hsign, one_mul]; rfl⟩
    rw [abs_of_pos hq]
    exact h.isGreatest_low
  | ceiling => exact h.isLeast_high hlt
  | floor => exact h.isGreatest_low
  | halfUp =>
    rcases lt_or_ge (2 * q) (low + high) with hside | hside
    · rw [compare_lt_iff_lt.2 hside]
      refine ⟨h.isNearest_low_iff.2 hside.le, fun z hz => ?_⟩
      rw [hbelow hside z hz]
      rfl
    · have hraise : raises halfUp false odd (compare (2 * q) (low + high)) = true :=
        bne_iff_ne.2 (mt compare_lt_iff_lt.1 (not_lt.2 hside))
      rw [if_pos hraise]
      refine ⟨h.isNearest_high_iff.2 hside, fun z hz => ?_⟩
      rcases h.eq_low_or_eq_high hz with rfl | rfl
      · exact habs
      · exact le_rfl
  | halfDown =>
    rcases lt_or_ge (low + high) (2 * q) with hside | hside
    · rw [compare_gt_iff_gt.2 hside]
      refine ⟨h.isNearest_high_iff.2 hside.le, fun z hz => ?_⟩
      rw [habove hside z hz]
      rfl
    · have hkeep : ¬ raises halfDown false odd (compare (2 * q) (low + high)) = true := by
        intro hraise
        exact absurd (compare_gt_iff_gt.1 (beq_iff_eq.1 hraise)) (not_lt.2 hside)
      rw [if_neg hkeep]
      refine ⟨h.isNearest_low_iff.2 hside, fun z hz => ?_⟩
      rcases h.eq_low_or_eq_high hz with rfl | rfl
      · exact le_rfl
      · exact habs
  | halfEven =>
    rcases lt_trichotomy (2 * q) (low + high) with hside | hside | hside
    · rw [compare_lt_iff_lt.2 hside]
      refine ⟨h.isNearest_low_iff.2 hside.le, fun z hz hne => ?_⟩
      exact absurd (hbelow hside z hz) hne
    · rw [compare_eq_iff_eq.2 hside]
      cases odd with
      | false => exact ⟨h.isNearest_low_iff.2 hside.le, fun _ _ _ => heven rfl⟩
      | true => exact ⟨h.isNearest_high_iff.2 hside.ge, fun _ _ _ => hodd rfl⟩
    · rw [compare_gt_iff_gt.2 hside]
      refine ⟨h.isNearest_high_iff.2 hside.le, fun z hz hne => ?_⟩
      exact absurd (habove hside z hz) hne

/-- What is rounded of a positive number is one of its two neighbours. -/
theorem toDigits_of_pos (hq : 0 < q) {s : ℤ} (hs : s = p - (Int.log 10 q + 1)) {n : ℕ}
    (hn : n = ⌊q * 10 ^ s⌋₊) (hlow : low = n * 10 ^ (-s)) (hhigh : high = (n + 1 : ℕ) * 10 ^ (-s)) :
    r.toDigits p q = if q = low then low
      else if r.raises false (n % 2 == 1) (compare (2 * q) (low + high)) then high else low := by
  have hunit := Decimal.ten_zpow_pos s
  have hscale : (10 : ℚ) ^ (-s) * 10 ^ s = 1 := by
    rw [← zpow_add₀ (by norm_num), neg_add_cancel, zpow_zero]
  have hlow' : low * 10 ^ s = n := by rw [hlow, mul_assoc, hscale, mul_one]
  have hhigh' : high * 10 ^ s = n + 1 := by
    rw [hhigh, mul_assoc, hscale, mul_one]
    push_cast
    rfl
  have hexact : q * 10 ^ s = n ↔ q = low := by rw [← hlow', mul_left_inj' hunit.ne']
  have hhalf : compare (2 * (q * 10 ^ s - n)) 1 = compare (2 * q) (low + high) := by
    have hscaled : 2 * (q * 10 ^ s - n) - 1 = (2 * q - (low + high)) * 10 ^ s := by
      rw [sub_mul, add_mul, hlow', hhigh']
      ring
    refine compare_congr (fun hc => ?_) (fun hc => ?_) (fun hc => ?_)
    · have hneg : (2 * q - (low + high)) * 10 ^ s < 0 := by rw [← hscaled]; linarith
      have := neg_of_mul_neg_left hneg hunit.le
      linarith
    · have hzero : (2 * q - (low + high)) * 10 ^ s = 0 := by rw [← hscaled]; linarith
      have := (mul_eq_zero.1 hzero).resolve_right hunit.ne'
      linarith
    · have hpos : 0 < (2 * q - (low + high)) * 10 ^ s := by rw [← hscaled]; linarith
      have := pos_of_mul_pos_left hpos hunit.le
      linarith
  have hnonneg : decide (q < 0) = false := decide_eq_false (not_lt.2 hq.le)
  simp only [toDigits, atScale, abs_of_pos hq, ← hs, hnonneg, magnitude, ← hn, hexact, hhalf,
    if_neg (not_lt.2 hq.le)]
  split_ifs
  · exact hlow.symm
  · exact hhigh.symm
  · exact hlow.symm

theorem rounds_toDigits_of_pos (hp : 1 ≤ p) (hq : 0 < q) : r.Rounds p q (r.toDigits p q) := by
  obtain ⟨s, hs⟩ : ∃ s : ℤ, s = p - (Int.log 10 q + 1) := ⟨_, rfl⟩
  have h := neighbours_short hp hq hs
  have hplace : lastPlace p q = -s := by
    rw [lastPlace, abs_of_pos hq]
    omega
  rw [toDigits_of_pos hq hs rfl rfl rfl]
  generalize ⌊q * 10 ^ s⌋₊ = n at *
  split
  · next hexact =>
    rw [← hexact] at h ⊢
    exact rounds_self h.low_mem
  · next hinexact =>
    have hlow : (0 : ℚ) ≤ n * 10 ^ (-s) :=
      mul_nonneg (Nat.cast_nonneg n) (Decimal.ten_zpow_pos _).le
    refine rounds_of_neighbours h hlow (lt_of_le_of_ne h.low_le (Ne.symm hinexact)) ?_ ?_
    · intro hparity
      refine ⟨n, ?_, by rw [hplace, Int.cast_natCast]⟩
      have heven : ¬ n % 2 = 1 := by simpa using hparity
      exact (Int.even_coe_nat n).2 (Nat.not_odd_iff_even.1 (mt Nat.odd_iff.1 heven))
    · intro hparity
      refine ⟨(n + 1 : ℕ), ?_, by rw [hplace, Int.cast_natCast]⟩
      exact (Int.even_coe_nat _).2 (Nat.odd_iff.2 (beq_iff_eq.1 hparity)).add_one

/-! ## Negative numbers -/

/-- The direction that does below zero what `r` does above it. -/
def mirror : Rounding → Rounding
  | ceiling => floor
  | floor => ceiling
  | r => r

theorem raises_mirror (r : Rounding) (negative odd : Bool) (toHalf : Ordering) :
    r.mirror.raises (!negative) odd toHalf = r.raises negative odd toHalf := by
  cases r <;> cases negative <;> rfl

theorem magnitude_mirror (r : Rounding) (negative : Bool) (a : ℚ) :
    r.mirror.magnitude (!negative) a = r.magnitude negative a := by
  simp only [magnitude, raises_mirror]

/-- At a place, numbers are rounded below zero as their mirror images are above it. -/
theorem atScale_neg (r : Rounding) (s : ℤ) (q : ℚ) : r.mirror.atScale s (-q) = -r.atScale s q := by
  rcases eq_or_ne q 0 with rfl | hq
  · rw [neg_zero, atScale_zero, atScale_zero, neg_zero]
  · have hsign : decide (-q < 0) = !decide (q < 0) := by
      rw [Bool.eq_iff_iff, decide_eq_true_eq, Bool.not_eq_true', decide_eq_false_iff_not,
        neg_lt_zero, not_lt, le_iff_lt_or_eq, or_iff_left hq.symm]
    simp only [atScale, abs_neg, hsign, magnitude_mirror]
    rcases hq.lt_or_gt with hneg | hpos
    · rw [if_neg (neg_pos.2 hneg).not_gt, if_pos hneg, neg_neg]
    · rw [if_pos (neg_neg_of_pos hpos), if_neg hpos.not_gt]

theorem toDigits_neg (r : Rounding) (p : ℕ) (q : ℚ) :
    r.mirror.toDigits p (-q) = -r.toDigits p q := by
  rw [toDigits, abs_neg, atScale_neg, toDigits]

theorem isNearest_neg (h : IsNearest (Short p) (-q) (-y)) : IsNearest (Short p) q y := by
  have hneg : ∀ z : ℚ, |q - z| = |-q - -z| := by
    intro z
    rw [← neg_sub', abs_neg]
  refine ⟨neg_mem_short_iff.1 h.1, fun z hz => ?_⟩
  rw [hneg, hneg]
  exact h.2 (-z) (neg_mem_short_iff.2 hz)

theorem evenAt_neg {k : ℤ} (h : EvenAt k (-y)) : EvenAt k y := by
  obtain ⟨m, hm, hy⟩ := h
  refine ⟨-m, hm.neg, ?_⟩
  rw [← neg_neg y, hy]
  push_cast
  ring

/-- Numbers are rounded below zero as their mirror images are above it. -/
theorem rounds_of_neg (h : r.mirror.Rounds p (-q) (-y)) : r.Rounds p q y := by
  have hsign : ∀ m : ℚ, -y = SignType.sign (-q) * m → y = SignType.sign q * m := by
    intro m hm
    rw [Left.sign_neg, SignType.coe_neg, neg_mul] at hm
    exact neg_injective hm
  have hnearest : ∀ z, IsNearest (Short p) q z → IsNearest (Short p) (-q) (-z) := by
    intro z hz
    apply isNearest_neg
    rwa [neg_neg, neg_neg]
  cases r with
  | up =>
    obtain ⟨m, hm, hy⟩ := h
    rw [abs_neg] at hm
    exact ⟨m, hm, hsign m hy⟩
  | down =>
    obtain ⟨m, hm, hy⟩ := h
    rw [abs_neg] at hm
    exact ⟨m, hm, hsign m hy⟩
  | ceiling =>
    obtain ⟨⟨hmem, hle⟩, hbest⟩ := h
    refine ⟨⟨neg_mem_short_iff.1 hmem, neg_le_neg_iff.1 hle⟩, ?_⟩
    rintro z ⟨hz, hz'⟩
    exact neg_le_neg_iff.1 (hbest ⟨neg_mem_short_iff.2 hz, neg_le_neg hz'⟩)
  | floor =>
    obtain ⟨⟨hmem, hle⟩, hbest⟩ := h
    refine ⟨⟨neg_mem_short_iff.1 hmem, neg_le_neg_iff.1 hle⟩, ?_⟩
    rintro z ⟨hz, hz'⟩
    exact neg_le_neg_iff.1 (hbest ⟨neg_mem_short_iff.2 hz, neg_le_neg hz'⟩)
  | halfUp =>
    refine ⟨isNearest_neg h.1, fun z hz => ?_⟩
    simpa only [abs_neg] using h.2 (-z) (hnearest z hz)
  | halfDown =>
    refine ⟨isNearest_neg h.1, fun z hz => ?_⟩
    simpa only [abs_neg] using h.2 (-z) (hnearest z hz)
  | halfEven =>
    refine ⟨isNearest_neg h.1, fun z hz hne => ?_⟩
    have heven := h.2 (-z) (hnearest z hz) (mt neg_injective.eq_iff.1 hne)
    rw [lastPlace, abs_neg] at heven
    exact evenAt_neg heven

/-! ## Every number -/

/-- Numbers are rounded as they should be. -/
theorem rounds_toDigits (r : Rounding) (hp : 1 ≤ p) (q : ℚ) : r.Rounds p q (r.toDigits p q) := by
  rcases lt_trichotomy q 0 with hq | rfl | hq
  · apply rounds_of_neg
    rw [← toDigits_neg]
    exact rounds_toDigits_of_pos hp (neg_pos.2 hq)
  · rw [toDigits, atScale_zero]
    exact rounds_self (zero_mem_short p)
  · exact rounds_toDigits_of_pos hp hq

/-- A whole number of units of the last place has no more digits. -/
theorem mem_short_of_units {m k : ℤ} (hk : k = lastPlace p q) (h : q = m * 10 ^ k) :
    q ∈ Short p := by
  have hlt : |q| < 10 ^ (Int.log 10 |q| + 1) := by
    exact_mod_cast Int.lt_zpow_succ_log_self (by norm_num) |q|
  have hunits : |(m : ℚ)| * 10 ^ k < 10 ^ p * 10 ^ k := by
    calc |(m : ℚ)| * 10 ^ k
        = |q| := by rw [h, abs_mul, abs_of_pos (Decimal.ten_zpow_pos k)]
      _ < 10 ^ (Int.log 10 |q| + 1) := hlt
      _ = 10 ^ p * 10 ^ k := by
          rw [← zpow_natCast, ← zpow_add₀ (by norm_num), hk, lastPlace]
          congr 1
          omega
  exact ⟨m, k, by exact_mod_cast lt_of_mul_lt_mul_right hunits (Decimal.ten_zpow_pos k).le, h⟩

/-- Of two nearest numbers with one magnitude both are the same. -/
theorem eq_of_isNearest_of_abs (h : IsNearest (Short p) q y) (h' : IsNearest (Short p) q y')
    (habs : |y| = |y'|) : y = y' := by
  rcases h.eq_or_midpoint h' with heq | hmid
  · exact heq
  · rcases abs_eq_abs.1 habs with heq | heq
    · exact heq
    · have hq : q = 0 := by linarith
      subst hq
      rw [h.eq_of_mem (zero_mem_short p), h'.eq_of_mem (zero_mem_short p)]

/-- There is only one number to which a number is rounded. -/
theorem Rounds.unique (h : r.Rounds p q y) (h' : r.Rounds p q y') : y = y' := by
  cases r with
  | up =>
    obtain ⟨m, hm, rfl⟩ := h
    obtain ⟨m', hm', rfl⟩ := h'
    rw [hm.unique hm']
  | down =>
    obtain ⟨m, hm, rfl⟩ := h
    obtain ⟨m', hm', rfl⟩ := h'
    rw [hm.unique hm']
  | ceiling => exact IsLeast.unique h h'
  | floor => exact IsGreatest.unique h h'
  | halfUp => exact eq_of_isNearest_of_abs h.1 h'.1 (le_antisymm (h'.2 y h.1) (h.2 y' h'.1))
  | halfDown => exact eq_of_isNearest_of_abs h.1 h'.1 (le_antisymm (h.2 y' h'.1) (h'.2 y h.1))
  | halfEven =>
    by_contra hne
    -- Between two even numbers of units there is a whole one.
    obtain ⟨m, ⟨i, rfl⟩, hy⟩ := h.2 y' h'.1 (Ne.symm hne)
    obtain ⟨m', ⟨j, rfl⟩, hy'⟩ := h'.2 y h.1 hne
    have hmid := (h.1.eq_or_midpoint h'.1).resolve_left hne
    have hshort : q ∈ Short p := by
      refine mem_short_of_units (m := i + j) rfl ?_
      push_cast at hy hy' ⊢
      linarith
    exact hne ((h.1.eq_of_mem hshort).trans (h'.1.eq_of_mem hshort).symm)

/-- `toDigits` is the number to which a number is rounded. -/
theorem rounds_iff (hp : 1 ≤ p) : r.Rounds p q y ↔ y = r.toDigits p q := by
  constructor
  · intro h
    exact h.unique (r.rounds_toDigits hp q)
  · rintro rfl
    exact r.rounds_toDigits hp q

/-! ## Order -/

theorem sign_mul_nonneg {m : ℚ} (hq : 0 ≤ q) (hm : 0 ≤ m) : 0 ≤ SignType.sign q * m := by
  rcases hq.eq_or_lt with rfl | hpos
  · rw [sign_zero, SignType.coe_zero, zero_mul]
  · rwa [sign_pos hpos, SignType.coe_one, one_mul]

/-- Magnitudes in order give numbers in order, on either side of zero. -/
theorem sign_mul_le_sign_mul {m m' : ℚ} (hm : 0 ≤ m) (hm' : 0 ≤ m') (h : q ≤ q')
    (hle : |q| ≤ |q'| → m ≤ m') (hge : |q'| ≤ |q| → m' ≤ m) :
    SignType.sign q * m ≤ SignType.sign q' * m' := by
  rcases lt_trichotomy q 0 with hq | rfl | hq
  · rw [sign_neg hq, SignType.coe_neg_one, neg_one_mul]
    rcases lt_or_ge q' 0 with hq' | hq'
    · rw [sign_neg hq', SignType.coe_neg_one, neg_one_mul]
      refine neg_le_neg (hge ?_)
      rw [abs_of_neg hq, abs_of_neg hq']
      exact neg_le_neg h
    · exact (neg_nonpos.2 hm).trans (sign_mul_nonneg hq' hm')
  · rw [sign_zero, SignType.coe_zero, zero_mul]
    exact sign_mul_nonneg h hm'
  · have hq' : 0 < q' := hq.trans_le h
    rw [sign_pos hq, sign_pos hq', SignType.coe_one, one_mul, one_mul]
    refine hle ?_
    rwa [abs_of_pos hq, abs_of_pos hq']

/-- Rounding keeps the order of numbers, also where one of them is short already and the other is
not. -/
theorem Rounds.mono (h : r.Rounds p q y) (h' : r.Rounds p q' y') (hle : q ≤ q') : y ≤ y' := by
  -- Two nearest numbers are in order unless they are nearest to one number.
  have hnearest : IsNearest (Short p) q y → IsNearest (Short p) q' y' → y ≤ y' := by
    intro hy hy'
    rcases hy.le_or_eq hy' hle with hlt | rfl
    · exact hlt
    · exact (h.unique h').le
  cases r with
  | up =>
    obtain ⟨m, hm, rfl⟩ := h
    obtain ⟨m', hm', rfl⟩ := h'
    refine sign_mul_le_sign_mul ((abs_nonneg q).trans hm.1.2) ((abs_nonneg q').trans hm'.1.2) hle
      ?_ ?_
    · exact fun habs => hm.2 ⟨hm'.1.1, habs.trans hm'.1.2⟩
    · exact fun habs => hm'.2 ⟨hm.1.1, habs.trans hm.1.2⟩
  | down =>
    obtain ⟨m, hm, rfl⟩ := h
    obtain ⟨m', hm', rfl⟩ := h'
    refine sign_mul_le_sign_mul (hm.2 ⟨zero_mem_short p, abs_nonneg q⟩)
      (hm'.2 ⟨zero_mem_short p, abs_nonneg q'⟩) hle ?_ ?_
    · exact fun habs => hm'.2 ⟨hm.1.1, hm.1.2.trans habs⟩
    · exact fun habs => hm.2 ⟨hm'.1.1, hm'.1.2.trans habs⟩
  | ceiling => exact h.2 ⟨h'.1.1, hle.trans h'.1.2⟩
  | floor => exact h'.2 ⟨h.1.1, h.1.2.trans hle⟩
  | halfUp => exact hnearest h.1 h'.1
  | halfDown => exact hnearest h.1 h'.1
  | halfEven => exact hnearest h.1 h'.1

theorem toDigits_mono (r : Rounding) (hp : 1 ≤ p) (hle : q ≤ q') :
    r.toDigits p q ≤ r.toDigits p q' :=
  (r.rounds_toDigits hp q).mono (r.rounds_toDigits hp q') hle

/-- Only zero is rounded to zero. -/
theorem Rounds.ne_zero (hp : 1 ≤ p) (h : r.Rounds p q y) (hq : q ≠ 0) : y ≠ 0 := by
  have hunit := zpow_mem_short hp (Int.log 10 |q|)
  have hle : (10 : ℚ) ^ Int.log 10 |q| ≤ |q| :=
    Int.zpow_log_le_self (by decide) (abs_pos.2 hq)
  rcases hq.lt_or_gt with hneg | hpos
  · rw [abs_of_neg hneg] at hle hunit
    have hmono := h.mono (rounds_self (neg_mem_short_iff.2 hunit)) (le_neg_of_le_neg hle)
    exact (hmono.trans_lt (neg_lt_zero.2 (Decimal.ten_zpow_pos _))).ne
  · rw [abs_of_pos hpos] at hle hunit
    exact ((Decimal.ten_zpow_pos _).trans_le ((rounds_self hunit).mono h hle)).ne'

end Rounding

end Reckon
