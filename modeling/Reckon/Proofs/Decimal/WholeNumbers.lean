import Reckon.Proofs.Decimal.CorrectRounding

/-!
# Whole numbers with few digits

* `ShortWhole p`: the whole numbers that end in zeros after their first `p` digits.
  `mem_shortWhole_iff`: they are the whole ones among the numbers of `Short p`.
* `Rounding.atScale_floor`: no places toward the floor leave the floor.
* `Rounding.isWhole_of_isGreatest`: the next short number below a whole one is whole again.
* `Rounding.isGreatest_floor`, `Rounding.isLeast_ceiling`: two roundings in one direction, first to
  no places and then to the precision, find the tightest number of `ShortWhole p`.
-/

namespace Reckon

/-- The whole numbers with at most `p` digits in front of their trailing zeros. -/
def ShortWhole (p : ℕ) : Set ℚ := {z | ∃ (m : ℤ) (k : ℕ), |m| < 10 ^ p ∧ z = m * 10 ^ k}

variable {p : ℕ} {q z : ℚ}

theorem mem_shortWhole_iff : z ∈ ShortWhole p ↔ z ∈ Short p ∧ ∃ n : ℤ, z = n := by
  constructor
  · rintro ⟨m, k, hm, rfl⟩
    refine ⟨⟨m, k, hm, by rw [zpow_natCast]⟩, m * 10 ^ k, ?_⟩
    push_cast
    rfl
  · rintro ⟨⟨m, j, hm, hz⟩, n, rfl⟩
    rcases le_or_gt 0 j with hj | hj
    · obtain ⟨k, rfl⟩ := Int.eq_ofNat_of_zero_le hj
      exact ⟨m, k, hm, by rw [hz, zpow_natCast]⟩
    · -- A fraction of `m` that is whole is no larger than `m`.
      have hle : |(n : ℚ)| ≤ |(m : ℚ)| := by
        rw [hz, abs_mul, abs_of_pos (Decimal.ten_zpow_pos j)]
        exact mul_le_of_le_one_right (abs_nonneg _) (zpow_le_one_of_nonpos₀ (by norm_num) hj.le)
      have hle' : |n| ≤ |m| := by exact_mod_cast hle
      exact ⟨n, 0, hle'.trans_lt hm, by rw [pow_zero, mul_one]⟩

theorem neg_mem_shortWhole (h : z ∈ ShortWhole p) : -z ∈ ShortWhole p := by
  obtain ⟨m, k, hm, rfl⟩ := h
  exact ⟨-m, k, by rwa [abs_neg], by push_cast; ring⟩

namespace Rounding

/-! ## No places -/

/-- Without places the floor is the greatest whole number that is not above. -/
theorem atScale_floor (q : ℚ) : floor.atScale 0 q = ⌊q⌋ := by
  have hunit : (10 : ℚ) ^ (0 : ℤ) = 1 := zpow_zero 10
  rcases lt_or_ge q 0 with hq | hq
  · have hnonneg : 0 ≤ -q := (neg_pos.2 hq).le
    simp only [atScale, magnitude, raises, abs_of_neg hq, hq, neg_zero, hunit, mul_one, if_true,
      decide_true]
    split
    · next hexact =>
      have hwhole : q = (-(⌊-q⌋₊ : ℤ) : ℤ) := by
        push_cast
        rw [← hexact, neg_neg]
      rw [← hexact, neg_neg, hwhole, Int.floor_intCast]
    · next hinexact =>
      have hlow := lt_of_le_of_ne (Nat.floor_le hnonneg) (Ne.symm hinexact)
      have hhigh := Nat.lt_floor_add_one (-q)
      have hfloor : ⌊q⌋ = -((⌊-q⌋₊ + 1 : ℕ) : ℤ) := by
        rw [Int.floor_eq_iff]
        push_cast
        constructor <;> linarith
      rw [hfloor]
      push_cast
      rfl
  · have hkeep : floor.magnitude false q = ⌊q⌋₊ := by
      simp only [magnitude, raises, Bool.false_eq_true, if_false, ite_self]
    simp only [atScale, abs_of_nonneg hq, not_lt.2 hq, neg_zero, hunit, mul_one, if_false,
      decide_false, hkeep]
    exact natCast_floor_eq_intCast_floor hq

/-! ## Two roundings -/

/-- The next number with few digits below a whole number is whole. -/
theorem isWhole_of_isGreatest (hp : 1 ≤ p) {n : ℤ}
    (h : IsGreatest {y | y ∈ Short p ∧ y ≤ (n : ℚ)} z) : ∃ m : ℤ, z = m := by
  obtain ⟨⟨hz, hle⟩, hbest⟩ := h
  rcases exists_eq_or_abs_lt hz 0 with ⟨m, hm⟩ | hsmall
  · exact ⟨m, by rw [hm, zpow_zero, mul_one]⟩
  · -- Below `10 ^ (p - 1)` the whole number itself has few digits.
    have hpower : (10 : ℚ) ^ ((p : ℤ) + 0 - 1) = ((10 ^ (p - 1) : ℕ) : ℚ) := by
      rw [Nat.cast_pow, ← zpow_natCast, Nat.cast_ofNat]
      congr 1
      omega
    rw [hpower, abs_lt] at hsmall
    have hmem : ((10 ^ (p - 1) : ℕ) : ℚ) ∈ Short p := by
      have := natCast_mul_mem_short hp (Nat.pow_le_pow_right (by decide) (p.sub_le 1)) 0
      rwa [zpow_zero, mul_one] at this
    have hlow : -((10 ^ (p - 1) : ℕ) : ℚ) < n := hsmall.1.trans_le hle
    have hhigh : (n : ℚ) < (10 ^ (p - 1) : ℕ) := by
      by_contra hge
      exact absurd (hbest ⟨hmem, not_lt.1 hge⟩) (not_le.2 hsmall.2)
    have hfew : |n| < 10 ^ p := by
      have hn : |n| < ((10 ^ (p - 1) : ℕ) : ℤ) :=
        abs_lt.2 ⟨by exact_mod_cast hlow, by exact_mod_cast hhigh⟩
      refine hn.trans_le ?_
      exact_mod_cast Nat.pow_le_pow_right (by decide) (p.sub_le 1)
    have hself : (n : ℚ) ∈ Short p := ⟨n, 0, hfew, by rw [zpow_zero, mul_one]⟩
    exact ⟨n, le_antisymm hle (hbest ⟨hself, le_rfl⟩)⟩

/-- Rounded down to a whole number and then to few digits, a number becomes the greatest whole
number with few digits that is not above it. -/
theorem isGreatest_floor (hp : 1 ≤ p) (q : ℚ) :
    IsGreatest {z | z ∈ ShortWhole p ∧ z ≤ q} (floor.toDigits p (floor.atScale 0 q)) := by
  rw [atScale_floor]
  have hrounds : IsGreatest {z | z ∈ Short p ∧ z ≤ (⌊q⌋ : ℚ)} (floor.toDigits p ⌊q⌋) :=
    floor.rounds_toDigits hp _
  refine ⟨⟨?_, hrounds.1.2.trans (Int.floor_le q)⟩, ?_⟩
  · exact mem_shortWhole_iff.2 ⟨hrounds.1.1, isWhole_of_isGreatest hp hrounds⟩
  · rintro z ⟨hz, hle⟩
    obtain ⟨hshort, n, rfl⟩ := mem_shortWhole_iff.1 hz
    exact hrounds.2 ⟨hshort, Int.cast_le.2 (Int.le_floor.2 hle)⟩

/-- The ceiling is the floor of the mirror image. -/
theorem toDigits_ceiling (p : ℕ) (q : ℚ) :
    ceiling.toDigits p (ceiling.atScale 0 q) = -floor.toDigits p (floor.atScale 0 (-q)) := by
  have hplace : ceiling.atScale 0 (- -q) = -floor.atScale 0 (-q) := floor.atScale_neg 0 (-q)
  rw [neg_neg] at hplace
  rw [hplace]
  exact floor.toDigits_neg p _

theorem isLeast_ceiling (hp : 1 ≤ p) (q : ℚ) :
    IsLeast {z | z ∈ ShortWhole p ∧ q ≤ z} (ceiling.toDigits p (ceiling.atScale 0 q)) := by
  rw [toDigits_ceiling]
  obtain ⟨⟨hmem, hle⟩, hbest⟩ := isGreatest_floor hp (-q)
  refine ⟨⟨neg_mem_shortWhole hmem, le_neg.2 hle⟩, ?_⟩
  rintro z ⟨hz, hqz⟩
  exact neg_le.2 (hbest ⟨neg_mem_shortWhole hz, neg_le_neg hqz⟩)

end Rounding

end Reckon
