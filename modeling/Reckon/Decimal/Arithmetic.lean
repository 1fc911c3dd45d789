import Reckon.Decimal

/-!
# Exact arithmetic

* `Decimal.add`, `Decimal.sub`, `Decimal.rem`: at the larger of the two scales; a zero taken away
  leaves the other operand as it is.
* `Decimal.mul`: scales add up. A factor that is written as a one (`1`, `1.0`, …, with at most
  38 zeros) leaves the other factor as it is.
* `Decimal.normalized`: without trailing zeros in the coefficient.
* `Decimal.powMul`, `Decimal.pow`: powers by repeated squaring, with a product that normalises
  what it multiplies by one.
-/

namespace Reckon.Decimal

-- A power means the same thing here whatever other powers are in scope.
attribute [local instance (20000)] instPowNat

def add (x y : Decimal) : Decimal :=
  let s := max x.scale y.scale
  ⟨x.coeffAt s + y.coeffAt s, s⟩

def sub (x y : Decimal) : Decimal :=
  if y.isZero then x
  else if x.isZero then y.neg
  else
    let s := max x.scale y.scale
    ⟨x.coeffAt s - y.coeffAt s, s⟩

/-- The remainder of truncating division, with the sign of the dividend. -/
def rem (x y : Decimal) : Decimal :=
  let s := max x.scale y.scale
  ⟨(x.coeffAt s).tmod (y.coeffAt s), s⟩

/-! ## Products -/

/-- Whether `x` is a one with at most 38 fraction digits. -/
def isOne (x : Decimal) : Bool :=
  decide (0 ≤ x.scale) && decide (x.scale ≤ 38) && x.coeff == 10 ^ x.scale.toNat

/-- The product of the coefficients at the sum of the scales. -/
def scaledMul (x y : Decimal) : Decimal := ⟨x.coeff * y.coeff, wrapScale (x.scale + y.scale)⟩

def mul (x y : Decimal) : Decimal :=
  if x.isOne then y
  else if y.isOne then x
  else x.scaledMul y

/-- The form of `x` whose coefficient does not end in a zero; zero itself has scale zero. -/
def normalized (x : Decimal) : Decimal :=
  if x.coeff = 0 then zero
  else
    let (count, kept) := stripZeros x.digits x.coeff.natAbs
    ⟨x.coeff.sign * kept, wrapScale (x.scale - count)⟩

/-! ## Powers -/

/-- The product that powers are made of. -/
def powMul (x y : Decimal) : Decimal :=
  if x.isOne then y.normalized
  else if y.isOne then x.normalized
  else x.scaledMul y

/-- `acc` times `square ^ n`, by the binary digits of `n`. -/
def powFrom (acc square : Decimal) (n : Nat) : Decimal :=
  if n = 0 then acc
  else
    let acc := if n % 2 = 1 then acc.powMul square else acc
    if n / 2 = 0 then acc else powFrom acc (square.powMul square) (n / 2)
termination_by n

/-- The exact `n`-th power. -/
def pow (x : Decimal) (n : Nat) : Decimal := powFrom one x n

end Reckon.Decimal
