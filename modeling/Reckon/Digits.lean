/-!
# Decimal digits of natural numbers

* `digitCount n`: the number of digits of `n`; zero has one.
* `lt_pow_digitCount`, `pow_le_of_digitCount`: `10 ^ (k - 1) ≤ n < 10 ^ k` for `k` the digit
  count of a positive `n`.
* `digits n`: the digits themselves, most significant first. `appendDigits` cuts a long number
  in half, and `appendDigits_eq` says that this gives the same digits as one division for
  each of them.
* `stripZeros limit n`: at most `limit` trailing zeros removed, and how many they were.
-/

namespace Reckon

-- A power means the same thing here whatever other powers are in scope.
attribute [local instance (20000)] instPowNat

/-! ## Counting -/

/-- The least `k' ≥ k` with `n < 10 ^ k'`. -/
def widthFrom (n k : Nat) : Nat :=
  if n < 10 ^ k then k else widthFrom n (k + 1)
termination_by n - k
decreasing_by
  have : k < 10 ^ k := Nat.lt_pow_self (by decide)
  omega

/-- The number of decimal digits of `n`, one for zero. The search starts from the bound that
the binary length gives, `0.30102` digits for a bit. -/
def digitCount (n : Nat) : Nat := widthFrom n (n.log2 * 30102 / 100000 + 1)

theorem le_widthFrom (n k : Nat) : k ≤ widthFrom n k := by
  fun_induction widthFrom n k with
  | case1 => omega
  | case2 k _ ih => omega

theorem lt_pow_widthFrom (n k : Nat) : n < 10 ^ widthFrom n k := by
  fun_induction widthFrom n k with
  | case1 k h => exact h
  | case2 k _ ih => exact ih

theorem pow_le_of_lt_widthFrom {n k j : Nat} (hk : k ≤ j) (hj : j < widthFrom n k) :
    10 ^ j ≤ n := by
  fun_induction widthFrom n k with
  | case1 => omega
  | case2 k h ih =>
    by_cases hkj : k = j
    · subst hkj; omega
    · exact ih (by omega) hj

theorem digitCount_pos (n : Nat) : 1 ≤ digitCount n := by
  have := le_widthFrom n (n.log2 * 30102 / 100000 + 1)
  unfold digitCount
  omega

theorem digitCount_zero : digitCount 0 = 1 := by
  rw [digitCount, widthFrom]
  rfl

theorem lt_pow_digitCount (n : Nat) : n < 10 ^ digitCount n := lt_pow_widthFrom n _

/-- Powers of `a` are below powers of `b` when one such pair is and the exponents have no greater
ratio. -/
theorem pow_le_pow_of_ratio {a b k m : Nat} (ha : 0 < a) (hm : m ≠ 0) (hbase : a ^ k ≤ b ^ m)
    {j l : Nat} (hratio : j * m ≤ k * l) : a ^ j ≤ b ^ l := by
  refine (Nat.pow_le_pow_iff_left hm).1 ?_
  calc (a ^ j) ^ m
      = a ^ (j * m) := (Nat.pow_mul ..).symm
    _ ≤ a ^ (k * l) := Nat.pow_le_pow_right ha hratio
    _ = (a ^ k) ^ l := Nat.pow_mul ..
    _ ≤ (b ^ m) ^ l := Nat.pow_le_pow_left hbase l
    _ = (b ^ l) ^ m := Nat.pow_right_comm ..

/-- A positive number has no more digits than it needs. -/
theorem pow_le_of_digitCount {n : Nat} (hn : 0 < n) : 10 ^ (digitCount n - 1) ≤ n := by
  by_cases hlong : n.log2 * 30102 / 100000 + 1 < digitCount n
  · exact pow_le_of_lt_widthFrom (Nat.le_sub_one_of_lt hlong) (Nat.sub_one_lt_of_lt hlong)
  · have hshort : digitCount n - 1 ≤ n.log2 * 30102 / 100000 := by omega
    have hbase : 10 ^ (30102 : Nat) ≤ 2 ^ (100000 : Nat) := by decide +kernel
    calc 10 ^ (digitCount n - 1)
        ≤ 10 ^ (n.log2 * 30102 / 100000) := Nat.pow_le_pow_right (by decide) hshort
      _ ≤ 2 ^ n.log2 := pow_le_pow_of_ratio (by decide) (by decide) hbase (by omega)
      _ ≤ n := Nat.log2_self_le (by omega)

/-! ## Writing -/

/-- Puts the last `w` digits of `n` in front of `rest`. -/
def putDigits : Nat → Nat → List Char → List Char
  | 0, _, rest => rest
  | w + 1, n, rest => putDigits w (n / 10) (Nat.digitChar (n % 10) :: rest)

/-- Puts the last `w` digits of `n` in front of `rest`, cutting a long number in half. -/
def appendDigits (w n : Nat) (rest : List Char) : List Char :=
  if w ≤ 18 then putDigits w n rest
  else
    let low := 10 ^ (w / 2)
    appendDigits (w - w / 2) (n / low) (appendDigits (w / 2) (n % low) rest)
termination_by w

theorem putDigits_add (v w n : Nat) (rest : List Char) :
    putDigits (v + w) n rest = putDigits v (n / 10 ^ w) (putDigits w n rest) := by
  induction w generalizing n rest with
  | zero => simp [putDigits]
  | succ w ih =>
    rw [← Nat.add_assoc, putDigits, ih, putDigits, Nat.div_div_eq_div_mul, Nat.pow_succ']

theorem putDigits_mod (w k n : Nat) (hk : w ≤ k) (rest : List Char) :
    putDigits w (n % 10 ^ k) rest = putDigits w n rest := by
  induction w generalizing n k rest with
  | zero => rfl
  | succ w ih =>
    obtain ⟨k, rfl⟩ : ∃ j, k = j + 1 := ⟨k - 1, by omega⟩
    have hdiv : n % 10 ^ (k + 1) / 10 = n / 10 % 10 ^ k := by
      rw [Nat.pow_succ', Nat.mod_mul_right_div_self]
    have hmod : n % 10 ^ (k + 1) % 10 = n % 10 := by
      rw [Nat.pow_succ', Nat.mod_mul_right_mod]
    simp only [putDigits, hdiv, hmod]
    exact ih k (n / 10) (by omega) _

theorem appendDigits_eq (w n : Nat) (rest : List Char) :
    appendDigits w n rest = putDigits w n rest := by
  fun_induction appendDigits w n rest with
  | case1 => rfl
  | case2 w n rest _ low ihLow _ ihHigh =>
    have hw : w - w / 2 + w / 2 = w := by omega
    rw [ihHigh, ihLow, putDigits_mod _ _ _ (Nat.le_refl _), ← putDigits_add, hw]

/-- The decimal digits of `n`, most significant first. -/
def digits (n : Nat) : List Char := appendDigits (digitCount n) n []

theorem length_putDigits (w n : Nat) (rest : List Char) :
    (putDigits w n rest).length = w + rest.length := by
  induction w generalizing n rest with
  | zero => simp [putDigits]
  | succ w ih => simp only [putDigits, ih, List.length_cons]; omega

theorem length_digits (n : Nat) : (digits n).length = digitCount n := by
  simp [digits, appendDigits_eq, length_putDigits]

/-! ## Trailing zeros -/

/-- Removes the zeros that make up one binary digit of their number after the other: `2 ^ j`
of them, then half as many, as long as they are there and `limit` allows. -/
def stripFrom : Nat → Nat → Nat → Nat × Nat
  | 0, _, n => (0, n)
  | j + 1, limit, n =>
    if 2 ^ j ≤ limit ∧ n % 10 ^ (2 ^ j : Nat) = 0 then
      let (count, kept) := stripFrom j (limit - 2 ^ j) (n / 10 ^ (2 ^ j : Nat))
      (count + 2 ^ j, kept)
    else stripFrom j limit n

/-- How many trailing zeros, at most `limit`, were removed from `n`, and what is kept. -/
def stripZeros (limit n : Nat) : Nat × Nat := stripFrom (limit.log2 + 1) limit n

theorem stripFrom_mul (j limit n : Nat) :
    (stripFrom j limit n).2 * 10 ^ (stripFrom j limit n).1 = n := by
  induction j generalizing limit n with
  | zero => simp [stripFrom]
  | succ j ih =>
    unfold stripFrom
    split
    · next h =>
      have := ih (limit - 2 ^ j) (n / 10 ^ (2 ^ j : Nat))
      simp only [Nat.pow_add, ← Nat.mul_assoc, this]
      exact Nat.div_mul_cancel (Nat.dvd_of_mod_eq_zero h.2)
    · exact ih limit n

/-- Nothing but zeros is removed. -/
theorem stripZeros_mul (limit n : Nat) :
    (stripZeros limit n).2 * 10 ^ (stripZeros limit n).1 = n := stripFrom_mul _ limit n

end Reckon
