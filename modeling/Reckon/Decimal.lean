import Reckon.Digits

/-!
# Decimal numbers

* `Decimal`: a coefficient and a scale, for the number `coeff * 10 ^ (-scale)`. One number has
  many forms (`1`, `1.0`, `10e-1`), and the form is kept.
* `wrapScale`: scales live in 64 bits. `wrapScale_of_fits`: a scale that fits is unchanged.
* `Decimal.digits`: the digits of the coefficient; `Decimal.lead`: the position of the first
  of them, counted from the point.
* `Decimal.coeffAt`: the coefficient that the number has at a larger scale.
* `Decimal.isInteger`, `Decimal.whole`: integers, and the integer part of a magnitude.
-/

namespace Reckon

-- A power means the same thing here whatever other powers are in scope.
attribute [local instance (20000)] instPowNat

/-! ## Scales -/

/-- The scales that fit a signed 64-bit word. -/
def FitsScale (n : Int) : Prop := -2 ^ (63 : Nat) ≤ n ∧ n < 2 ^ (63 : Nat)

/-- The 64-bit word that a sum or difference of scales leaves behind. -/
def wrapScale (n : Int) : Int := n.bmod (2 ^ (64 : Nat))

theorem wrapScale_of_fits {n : Int} (h : FitsScale n) : wrapScale n = n := by
  obtain ⟨hlow, hhigh⟩ := h
  exact Int.bmod_eq_of_le (by simpa using hlow) (by simpa using hhigh)

theorem fits_wrapScale (n : Int) : FitsScale (wrapScale n) := by
  have hlow := Int.le_bmod (x := n) (m := 2 ^ (64 : Nat)) (by decide)
  have hhigh := Int.bmod_lt (x := n) (m := 2 ^ (64 : Nat)) (by decide)
  constructor
  · simpa [wrapScale] using hlow
  · simpa [wrapScale] using hhigh

/-! ## Numbers -/

/-- The number `coeff * 10 ^ (-scale)`, together with the form in which it is written. -/
structure Decimal where
  coeff : Int
  scale : Int
deriving DecidableEq, Inhabited

namespace Decimal

def ofInt (n : Int) : Decimal := ⟨n, 0⟩

def zero : Decimal := ofInt 0

def one : Decimal := ofInt 1

/-- The truth values of comparisons and of logic. -/
def ofBool (b : Bool) : Decimal := if b then one else zero

def isZero (x : Decimal) : Bool := x.coeff == 0

def isNegative (x : Decimal) : Bool := decide (x.coeff < 0)

def isPositive (x : Decimal) : Bool := decide (0 < x.coeff)

def neg (x : Decimal) : Decimal := ⟨-x.coeff, x.scale⟩

def abs (x : Decimal) : Decimal := ⟨x.coeff.natAbs, x.scale⟩

/-- The number of digits of the coefficient. -/
def digits (x : Decimal) : Nat := digitCount x.coeff.natAbs

/-- The number of digits before the point; negative when zeros follow the point. -/
def lead (x : Decimal) : Int := x.digits - x.scale

/-- The coefficient of `x` at the scale `s`, which is no smaller than its own. -/
def coeffAt (x : Decimal) (s : Int) : Int :=
  if x.coeff = 0 then 0 else x.coeff * 10 ^ (s - x.scale).toNat

/-- Whether `x` is a whole number, in whatever form. -/
def isInteger (x : Decimal) : Bool :=
  decide (x.scale ≤ 0) || x.coeff.natAbs % 10 ^ x.scale.toNat == 0

/-- The integer part of the magnitude. -/
def whole (x : Decimal) : Nat :=
  x.coeff.natAbs * 10 ^ (-x.scale).toNat / 10 ^ x.scale.toNat

end Decimal

end Reckon
