import Reckon.Proofs.Decimal.Rounding

/-!
# Neighbours among numbers with few digits

* `Short p`: the numbers with at most `p` significant digits.
* `Neighbours F q low high`: `q` lies between two numbers of `F` with no other one between them.
* `IsNearest F q y`: no number of `F` is nearer to `q`. `IsNearest.eq_or_midpoint`: `q` lies in the
  middle between two nearest numbers. `IsNearest.le_or_eq`: nearest numbers are in order.
* `Neighbours.isNearest_low_iff`, `Neighbours.isNearest_high_iff`: a neighbour is nearest when `q`
  lies on its side of the midpoint. `Neighbours.eq_low_or_eq_high`: nothing else is.
* `neighbours_short`: the neighbours of a positive number count units of its last place.
-/

namespace Reckon

/-- The numbers with at most `p` significant digits. -/
def Short (p : ℕ) : Set ℚ := {z | ∃ m k : ℤ, |m| < 10 ^ p ∧ z = m * 10 ^ k}

/-- `low` and `high` stand next to each other in `F`, and `q` from `low` on before `high`. -/
structure Neighbours (F : Set ℚ) (q low high : ℚ) : Prop where
  low_mem : low ∈ F
  high_mem : high ∈ F
  low_le : low ≤ q
  lt_high : q < high
  apart : ∀ z ∈ F, z ≤ low ∨ high ≤ z

/-- No number of `F` is nearer to `q` than `y`, which is one of them. -/
def IsNearest (F : Set ℚ) (q y : ℚ) : Prop := y ∈ F ∧ ∀ z ∈ F, |q - y| ≤ |q - z|

variable {F : Set ℚ} {q low high y : ℚ} {p : ℕ}

/-! ## Nearest numbers -/

/-- Only a number itself is nearest to it. -/
theorem IsNearest.eq_of_mem (h : IsNearest F q y) (hq : q ∈ F) : y = q := by
  have hle := h.2 q hq
  rw [sub_self, abs_zero] at hle
  exact (sub_eq_zero.1 (abs_nonpos_iff.1 hle)).symm

theorem isNearest_self (hq : q ∈ F) : IsNearest F q q := by
  refine ⟨hq, fun z _ => ?_⟩
  rw [sub_self, abs_zero]
  exact abs_nonneg _

/-- Of two nearest numbers the one is as far below as the other one is above. -/
theorem IsNearest.eq_or_midpoint {y' : ℚ} (h : IsNearest F q y) (h' : IsNearest F q y') :
    y = y' ∨ 2 * q = y + y' := by
  have hdist : |q - y| = |q - y'| := le_antisymm (h.2 y' h'.1) (h'.2 y h.1)
  rcases abs_eq_abs.1 hdist with heq | heq
  · exact .inl (sub_right_inj.1 heq)
  · exact .inr (by linarith)

/-- Nearest numbers are in order, unless both are nearest to one number. -/
theorem IsNearest.le_or_eq {q' y' : ℚ} (h : IsNearest F q y) (h' : IsNearest F q' y')
    (hle : q ≤ q') : y ≤ y' ∨ q = q' := by
  rcases le_or_gt y y' with hy | hy
  · exact .inl hy
  · -- Then both numbers lie at the midpoint.
    have hnear := (le_abs_self _).trans ((abs_sub_comm y q).trans_le (h.2 y' h'.1))
    have hnear' := (le_abs_self _).trans (h'.2 y h.1)
    right
    rcases le_abs'.1 hnear with hside | hside <;> rcases le_abs'.1 hnear' with hside' | hside' <;>
      linarith

namespace Neighbours

theorem isGreatest_low (h : Neighbours F q low high) : IsGreatest {z | z ∈ F ∧ z ≤ q} low := by
  refine ⟨⟨h.low_mem, h.low_le⟩, ?_⟩
  rintro z ⟨hz, hle⟩
  exact (h.apart z hz).resolve_right (not_le.2 (hle.trans_lt h.lt_high))

theorem isLeast_high (h : Neighbours F q low high) (hlow : low < q) :
    IsLeast {z | z ∈ F ∧ q ≤ z} high := by
  refine ⟨⟨h.high_mem, h.lt_high.le⟩, ?_⟩
  rintro z ⟨hz, hle⟩
  exact (h.apart z hz).resolve_left (not_le.2 (hlow.trans_le hle))

theorem abs_sub_low (h : Neighbours F q low high) : |q - low| = q - low :=
  abs_of_nonneg (sub_nonneg.2 h.low_le)

theorem abs_sub_high (h : Neighbours F q low high) : |q - high| = high - q := by
  rw [abs_sub_comm]
  exact abs_of_pos (sub_pos.2 h.lt_high)

/-- The other numbers are farther away on either side. -/
theorem le_abs_sub (h : Neighbours F q low high) {z : ℚ} (hz : z ∈ F) :
    z ≤ low ∧ q - low ≤ |q - z| ∨ high ≤ z ∧ high - q ≤ |q - z| := by
  rcases h.apart z hz with hle | hle
  · exact .inl ⟨hle, (sub_le_sub_left hle q).trans (le_abs_self _)⟩
  · right
    rw [abs_sub_comm]
    exact ⟨hle, (sub_le_sub_right hle q).trans (le_abs_self _)⟩

theorem isNearest_low_iff (h : Neighbours F q low high) :
    IsNearest F q low ↔ 2 * q ≤ low + high := by
  constructor
  · intro hnearest
    have hle := hnearest.2 high h.high_mem
    rw [h.abs_sub_low, h.abs_sub_high] at hle
    linarith
  · intro hle
    refine ⟨h.low_mem, fun z hz => ?_⟩
    rw [h.abs_sub_low]
    rcases h.le_abs_sub hz with ⟨-, hfar⟩ | ⟨-, hfar⟩ <;> linarith

theorem isNearest_high_iff (h : Neighbours F q low high) :
    IsNearest F q high ↔ low + high ≤ 2 * q := by
  constructor
  · intro hnearest
    have hle := hnearest.2 low h.low_mem
    rw [h.abs_sub_low, h.abs_sub_high] at hle
    linarith
  · intro hle
    refine ⟨h.high_mem, fun z hz => ?_⟩
    rw [h.abs_sub_high]
    rcases h.le_abs_sub hz with ⟨-, hfar⟩ | ⟨-, hfar⟩ <;> linarith

/-- Nothing but the neighbours is nearest. -/
theorem eq_low_or_eq_high (h : Neighbours F q low high) (hy : IsNearest F q y) :
    y = low ∨ y = high := by
  rcases h.apart y hy.1 with hle | hle
  · have hnear := hy.2 low h.low_mem
    rw [h.abs_sub_low, abs_of_nonneg (sub_nonneg.2 (hle.trans h.low_le))] at hnear
    exact .inl (le_antisymm hle (by linarith))
  · have hnear := hy.2 high h.high_mem
    rw [h.abs_sub_high, abs_sub_comm, abs_of_nonneg (sub_nonneg.2 (h.lt_high.le.trans hle))]
      at hnear
    exact .inr (le_antisymm (by linarith) hle)

end Neighbours

/-! ## Numbers with few digits -/

theorem zero_mem_short (p : ℕ) : 0 ∈ Short p := ⟨0, 0, by simp, by simp⟩

theorem neg_mem_short_iff : -q ∈ Short p ↔ q ∈ Short p := by
  have hneg : ∀ {z : ℚ}, z ∈ Short p → -z ∈ Short p := by
    rintro z ⟨m, k, hm, rfl⟩
    exact ⟨-m, k, by rwa [abs_neg], by push_cast; ring⟩
  exact ⟨fun h => by simpa using hneg h, hneg⟩

/-- The first number with a digit more is a unit of the next place. -/
theorem natCast_mul_mem_short (hp : 1 ≤ p) {n : ℕ} (hn : n ≤ 10 ^ p) (k : ℤ) :
    (n : ℚ) * 10 ^ k ∈ Short p := by
  rcases hn.lt_or_eq with hlt | rfl
  · refine ⟨n, k, ?_, by push_cast; rfl⟩
    rw [Nat.abs_cast]
    exact_mod_cast hlt
  · refine ⟨1, p + k, ?_, ?_⟩
    · rw [abs_one]
      exact one_lt_pow₀ (by norm_num) (by omega)
    · rw [zpow_add₀ (by norm_num), zpow_natCast]
      push_cast
      ring

theorem zpow_mem_short (hp : 1 ≤ p) (k : ℤ) : (10 : ℚ) ^ k ∈ Short p := by
  have hunit := natCast_mul_mem_short hp (Nat.one_le_pow p 10 (by decide)) k
  rwa [Nat.cast_one, one_mul] at hunit

/-- A number with at most `p` digits and a digit from the place `k + p - 1` on ends there. -/
theorem exists_eq_or_abs_lt (hq : q ∈ Short p) (k : ℤ) :
    (∃ m : ℤ, q = m * 10 ^ k) ∨ |q| < 10 ^ (p + k - 1) := by
  obtain ⟨m, j, hm, rfl⟩ := hq
  rcases lt_or_ge j k with hj | hj
  · right
    have hm' : |(m : ℚ)| < 10 ^ p := by exact_mod_cast hm
    calc |(m : ℚ) * 10 ^ j|
        = |(m : ℚ)| * 10 ^ j := by rw [abs_mul, abs_of_pos (Decimal.ten_zpow_pos j)]
      _ < 10 ^ p * 10 ^ j := mul_lt_mul_of_pos_right hm' (Decimal.ten_zpow_pos j)
      _ = 10 ^ (p + j) := by rw [zpow_add₀ (by norm_num), zpow_natCast]
      _ ≤ 10 ^ (p + k - 1) := zpow_le_zpow_right₀ (by norm_num) (by omega)
  · left
    obtain ⟨i, rfl⟩ : ∃ i : ℕ, j = i + k := ⟨(j - k).toNat, by omega⟩
    refine ⟨m * 10 ^ i, ?_⟩
    rw [zpow_add₀ (by norm_num), zpow_natCast]
    push_cast
    ring

/-- The last of `p` digits of a positive number counts the units between its neighbours. -/
theorem neighbours_short (hp : 1 ≤ p) (hq : 0 < q) {s : ℤ} (hs : s = p - (Int.log 10 q + 1)) :
    Neighbours (Short p) q (⌊q * 10 ^ s⌋₊ * 10 ^ (-s)) ((⌊q * 10 ^ s⌋₊ + 1 : ℕ) * 10 ^ (-s)) := by
  have hlow : (10 : ℚ) ^ Int.log 10 q ≤ q := by
    exact_mod_cast Int.zpow_log_le_self (by norm_num) hq
  have hhigh : q < 10 ^ (Int.log 10 q + 1) := by
    exact_mod_cast Int.lt_zpow_succ_log_self (by norm_num) q
  have hunit := Decimal.ten_zpow_pos (-s)
  have hback : q * 10 ^ s * 10 ^ (-s) = q := by
    rw [mul_assoc, ← zpow_add₀ (by norm_num), add_neg_cancel, zpow_zero, mul_one]
  have hfloor : (⌊q * 10 ^ s⌋₊ : ℚ) ≤ q * 10 ^ s :=
    Nat.floor_le (mul_pos hq (Decimal.ten_zpow_pos s)).le
  have hnext : q * 10 ^ s < (⌊q * 10 ^ s⌋₊ + 1 : ℕ) := by
    push_cast
    exact Nat.lt_floor_add_one _
  have hmany : 10 ^ (p - 1) ≤ ⌊q * 10 ^ s⌋₊ := by
    refine Nat.le_floor ?_
    calc ((10 ^ (p - 1) : ℕ) : ℚ)
        = 10 ^ Int.log 10 q * 10 ^ s := by
          rw [← zpow_add₀ (by norm_num), Nat.cast_pow, ← zpow_natCast]
          congr 1
          omega
      _ ≤ q * 10 ^ s := mul_le_mul_of_nonneg_right hlow (Decimal.ten_zpow_pos s).le
  have hfew : ⌊q * 10 ^ s⌋₊ < 10 ^ p := by
    refine (Nat.floor_lt (mul_pos hq (Decimal.ten_zpow_pos s)).le).2 ?_
    calc q * 10 ^ s
        < 10 ^ (Int.log 10 q + 1) * 10 ^ s :=
          mul_lt_mul_of_pos_right hhigh (Decimal.ten_zpow_pos s)
      _ = ((10 ^ p : ℕ) : ℚ) := by
          rw [← zpow_add₀ (by norm_num), Nat.cast_pow, ← zpow_natCast]
          congr 1
          omega
  generalize ⌊q * 10 ^ s⌋₊ = n at *
  refine ⟨natCast_mul_mem_short hp hfew.le _, natCast_mul_mem_short hp hfew _, ?_, ?_, ?_⟩
  · calc (n : ℚ) * 10 ^ (-s) ≤ q * 10 ^ s * 10 ^ (-s) :=
          mul_le_mul_of_nonneg_right hfloor hunit.le
      _ = q := hback
  · calc q = q * 10 ^ s * 10 ^ (-s) := hback.symm
      _ < (n + 1 : ℕ) * 10 ^ (-s) := mul_lt_mul_of_pos_right hnext hunit
  · intro z hz
    rcases exists_eq_or_abs_lt hz (-s) with ⟨m, rfl⟩ | hsmall
    · rcases lt_or_ge (n : ℤ) m with hm | hm
      · exact .inr (mul_le_mul_of_nonneg_right (by exact_mod_cast hm) hunit.le)
      · exact .inl (mul_le_mul_of_nonneg_right (by exact_mod_cast hm) hunit.le)
    · left
      calc z ≤ |z| := le_abs_self z
        _ ≤ 10 ^ (p + -s - 1) := hsmall.le
        _ = ((10 ^ (p - 1) : ℕ) : ℚ) * 10 ^ (-s) := by
            rw [Nat.cast_pow, ← zpow_natCast, Nat.cast_ofNat, ← zpow_add₀ (by norm_num)]
            congr 1
            omega
        _ ≤ n * 10 ^ (-s) := mul_le_mul_of_nonneg_right (by exact_mod_cast hmany) hunit.le

end Reckon
