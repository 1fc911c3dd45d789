import Reckon.Digits

/-!
# Limbs of natural numbers

* `limbs count n`: the lowest `count` digits of `n` to the base `2 ^ 32`, lowest first.
  `appendLimbs` cuts a long number in half, and `appendLimbs_eq` says that this gives the same
  limbs as one division for each of them.
* `limbCount n`: the number of limbs of a positive `n`; `lt_pow_limbCount`: they are enough.
-/

namespace Reckon

-- A power means the same thing here whatever other powers are in scope.
attribute [local instance (20000)] instPowNat

/-- Puts the lowest `w` limbs of `n` in front of `rest`. -/
def putLimbs : Nat → Nat → List Nat → List Nat
  | 0, _, rest => rest
  | w + 1, n, rest => n % 2 ^ (32 : Nat) :: putLimbs w (n / 2 ^ (32 : Nat)) rest

/-- Puts the lowest `w` limbs of `n` in front of `rest`, cutting a long number in half. -/
def appendLimbs (w n : Nat) (rest : List Nat) : List Nat :=
  if w ≤ 8 then putLimbs w n rest
  else
    let low := 2 ^ (32 * (w / 2))
    appendLimbs (w / 2) (n % low) (appendLimbs (w - w / 2) (n / low) rest)
termination_by w

theorem pow_limb_succ (k : Nat) : 2 ^ (32 * (k + 1)) = 2 ^ (32 : Nat) * 2 ^ (32 * k) := by
  rw [Nat.mul_succ, Nat.pow_add, Nat.mul_comm]

theorem putLimbs_add (v w n : Nat) (rest : List Nat) :
    putLimbs (v + w) n rest = putLimbs v n (putLimbs w (n / 2 ^ (32 * v)) rest) := by
  induction v generalizing n with
  | zero => simp [putLimbs]
  | succ v ih =>
    rw [Nat.succ_add, putLimbs, putLimbs, ih, pow_limb_succ, Nat.div_div_eq_div_mul]

theorem putLimbs_mod (w k n : Nat) (hk : w ≤ k) (rest : List Nat) :
    putLimbs w (n % 2 ^ (32 * k)) rest = putLimbs w n rest := by
  induction w generalizing n k rest with
  | zero => rfl
  | succ w ih =>
    obtain ⟨k, rfl⟩ : ∃ j, k = j + 1 := ⟨k - 1, by omega⟩
    rw [putLimbs, putLimbs, pow_limb_succ, Nat.mod_mul_right_mod, Nat.mod_mul_right_div_self,
      ih k _ (by omega)]

theorem appendLimbs_eq (w n : Nat) (rest : List Nat) :
    appendLimbs w n rest = putLimbs w n rest := by
  fun_induction appendLimbs w n rest with
  | case1 => rfl
  | case2 w n rest _ low ihHigh _ ihLow =>
    have hw : w / 2 + (w - w / 2) = w := by omega
    rw [ihLow, ihHigh, putLimbs_mod _ _ _ (Nat.le_refl _), ← putLimbs_add, hw]

/-- The lowest `count` limbs of `n`, lowest first. -/
def limbs (count n : Nat) : List Nat := appendLimbs count n []

theorem length_putLimbs (w n : Nat) (rest : List Nat) :
    (putLimbs w n rest).length = w + rest.length := by
  induction w generalizing n with
  | zero => simp [putLimbs]
  | succ w ih => simp only [putLimbs, List.length_cons, ih]; omega

theorem length_limbs (count n : Nat) : (limbs count n).length = count := by
  simp [limbs, appendLimbs_eq, length_putLimbs]

theorem limbs_zero (n : Nat) : limbs 0 n = [] := by simp [limbs, appendLimbs_eq, putLimbs]

theorem limbs_succ (count n : Nat) :
    limbs (count + 1) n = n % 2 ^ (32 : Nat) :: limbs count (n / 2 ^ (32 : Nat)) := by
  simp [limbs, appendLimbs_eq, putLimbs]

/-- The number of limbs of a positive number. -/
def limbCount (n : Nat) : Nat := n.log2 / 32 + 1

theorem lt_pow_limbCount (n : Nat) : n < 2 ^ (32 * limbCount n) :=
  Nat.lt_of_lt_of_le Nat.lt_log2_self
    (Nat.pow_le_pow_right (by decide) (by unfold limbCount; omega))

end Reckon
