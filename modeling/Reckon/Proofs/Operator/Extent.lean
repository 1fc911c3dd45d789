import Reckon.Proofs.Context.Extent

/-!
# How far operators carry scales

* `Operator.Fits`: no scale leaves its 64 bits when an operator is applied.
* `Operator.extent`: a bound on the extent of the result, given the extents of the operands and the
  largest exponent.
* `Operator.within_result`: where this bound is at most `2 ^ 61`, all scales fit, and the result is
  within it.
-/

namespace Reckon.Operator

/-- No scale leaves its 64 bits: neither the distance of two scales that are aligned, nor a scale on
the way to a product, a quotient or a power. -/
def Fits (c : Context) : Operator → Decimal → Decimal → Prop
  | arithmetic .mul, x, y => x.MulFits y
  | arithmetic .div, x, y => c.DivideScalesFit x y
  | arithmetic .pow, x, y => if y.isInteger then c.PowerScalesFit x y else c.RealPowerFits x y
  | logic _, _, _ => True
  | _, x, y => FitsScale (x.scale - y.scale)

/-- How far a result reaches, for operands that reach as far as `a` and `b`; that of a power, for
exponents up to `n`. It is never less than `a` and `b`. -/
def extent (n a b : ℕ) : Operator → ℕ
  | arithmetic .mul => a + b
  | arithmetic .div => a + b + maxPrecision + 2
  | arithmetic .pow => a * max n 1 + b + maxPrecision + 4
  | _ => max a b + 1

variable {op : Operator} {c : Context} {x y v : Decimal} {n a b : ℕ}

theorem le_extent (op : Operator) (n a b : ℕ) : a ≤ op.extent n a b ∧ b ≤ op.extent n a b := by
  have hpow : a ≤ a * max n 1 := Nat.le_mul_of_pos_right a (by omega)
  unfold extent
  split <;> omega

theorem within_decided? (h : op.decided? x = some v) : v.Within (op.extent n a b) := by
  have hle : 1 ≤ max a b + 1 := Nat.le_add_left 1 _
  rcases op with op | op | op
  · cases h
  · cases h
  · cases op <;> simp only [decided?] at h <;> split at h <;> cases h
    · exact Decimal.within_zero.mono (Nat.zero_le _)
    · exact Decimal.within_one.mono hle

theorem fits_difference (hx : x.Within a) (hy : y.Within b) (h : max a b + 1 ≤ 2 ^ 61) :
    FitsScale (x.scale - y.scale) := by
  obtain ⟨hxlow, hxhigh, -⟩ := hx
  obtain ⟨hylow, hyhigh, -⟩ := hy
  exact fitsScale_of_le (w := a + b) (by omega) (by omega) (by omega)

/-- An operator keeps all scales within the extent that it has for the extents of its operands. -/
theorem within_result (hx : x.Within a) (hy : y.Within b)
    (hn : op = .pow → y.whole ≤ maxExponent → y.whole ≤ n) (h : op.extent n a b ≤ 2 ^ 61) :
    op.Fits c x y ∧ ∀ v, op.result c x y = .ok v → v.Within (op.extent n a b) := by
  rcases op with op | op | op
  · cases op with
    | add =>
      refine ⟨fits_difference hx hy h, ?_⟩
      rintro v ⟨⟩
      exact hx.add hy
    | sub =>
      refine ⟨fits_difference hx hy h, ?_⟩
      rintro v ⟨⟩
      exact hx.sub hy
    | rem =>
      refine ⟨fits_difference hx hy h, ?_⟩
      intro v hv
      simp only [result, ArithmeticOp.apply] at hv
      split at hv <;> cases hv
      exact hx.rem hy
    | mul =>
      obtain ⟨hfits, hwithin⟩ := hx.mul hy (lt_of_le_of_lt h (by decide))
      refine ⟨hfits, ?_⟩
      rintro v ⟨⟩
      exact hwithin
    | div =>
      have hprecision := c.precision_le
      simp only [extent] at h
      obtain ⟨hfits, hwithin⟩ := Context.within_divide (c := c) hx hy (by omega)
      exact ⟨hfits, fun v hv => (hwithin v hv).mono (by simp only [extent]; omega)⟩
    | pow =>
      simp only [extent] at h
      obtain ⟨hfits, hwithin⟩ := Context.within_power (c := c) (n := max n 1) hx
        (fun hwhole => (hn rfl hwhole).trans (le_max_left n 1)) (by omega)
      refine ⟨?_, fun v hv => (hwithin v hv).mono (by simp only [extent]; omega)⟩
      show if y.isInteger then c.PowerScalesFit x y else c.RealPowerFits x y
      split
      · exact hfits
      · exact c.realPowerFits x y
  · refine ⟨fits_difference hx hy h, ?_⟩
    rintro v ⟨⟩
    exact (Decimal.within_ofBool _).mono (Nat.le_add_left 1 _)
  · refine ⟨trivial, ?_⟩
    rintro v ⟨⟩
    exact (Decimal.within_ofBool _).mono (Nat.le_add_left 1 _)

end Reckon.Operator
