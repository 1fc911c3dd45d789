import Reckon.Decimal.Rounded

/-!
# Precision contexts

* `Context`: how many significant digits a rounded result keeps, from 1 to `maxPrecision`, and
  the direction in which it is rounded.
* `Context.round`: a number with at most that many digits is kept as it is, a longer one is
  rounded.
* `Context.divide?`: the quotient rounded once. An exact quotient has the difference of the
  scales as its own when that is enough.
* `Context.widening`: how many zeros the dividend should be given. `Context.wrapShift`: how many it
  is given, because their number is taken as a 32-bit word.
-/

namespace Reckon

-- A power means the same thing here whatever other powers are in scope.
attribute [local instance (20000)] instPowNat

/-- The most significant digits that a context keeps, and the largest scale of a numeral. -/
def maxPrecision : Nat := 100000

/-- Significant digits and a rounding direction. -/
structure Context where
  precision : Nat
  rounding : Rounding
  precision_pos : 1 ≤ precision := by decide
  precision_le : precision ≤ maxPrecision := by decide

namespace Context

/-- Sixteen digits, ties to even. -/
def default : Context where
  precision := 16
  rounding := .halfEven

instance : Inhabited Context := ⟨default⟩

/-- The context with the given precision, if that is in range. -/
def ofPrecision? (precision : Nat) (rounding : Rounding) : Option Context :=
  if h : 1 ≤ precision ∧ precision ≤ maxPrecision then
    some ⟨precision, rounding, h.1, h.2⟩
  else none

def withPrecision? (c : Context) (precision : Nat) : Option Context :=
  ofPrecision? precision c.rounding

def withRounding (c : Context) (rounding : Rounding) : Context :=
  { c with rounding := rounding }

/-! ## Rounding -/

/-- Rounds to the precision. When a carry brings a digit too many, it is a zero and is dropped. -/
def round (c : Context) (x : Decimal) : Decimal :=
  if x.digits ≤ c.precision then x
  else
    let target := wrapScale (x.scale - (x.digits - c.precision : Nat))
    let rounded := x.roundAt c.rounding target
    if c.precision < rounded.digits then rounded.roundAt c.rounding (wrapScale (target - 1))
    else rounded

/-! ## Division -/

/-- How many zeros the dividend is given, so that the quotient has two digits more than the
precision. -/
def widening (c : Context) (x y : Decimal) : Nat := c.precision + 2 + y.digits - x.digits

/-- The 32-bit word that a number of zeros is taken as. -/
def wrapShift (shift : Nat) : Nat := shift % 2 ^ (32 : Nat)

theorem wrapShift_of_lt {shift : Nat} (h : shift < 2 ^ (32 : Nat)) : wrapShift shift = shift :=
  Nat.mod_eq_of_lt h

theorem wrapShift_le (shift : Nat) : wrapShift shift ≤ shift := Nat.mod_le shift _

/-- One more digit, which says that something was cut off. It goes away from zero, and up where
nothing else is left. -/
def withSticky (quotient : Int) : Int := quotient * 10 + if quotient < 0 then -1 else 1

theorem withSticky_zero : withSticky 0 = 1 := rfl

theorem natAbs_withSticky (quotient : Int) :
    (withSticky quotient).natAbs = quotient.natAbs * 10 + 1 := by
  unfold withSticky
  split <;> omega

theorem withSticky_neg_iff {quotient : Int} : withSticky quotient < 0 ↔ quotient < 0 := by
  unfold withSticky
  split <;> omega

/-- The quotient before it is rounded: exact, with zeros stripped down to the scale `natural`,
or cut off and given one more digit. The scale counts all zeros that the dividend should be
given. -/
def unroundedQuotient (natural : Int) (shift : Nat) (x y : Decimal) : Decimal :=
  let widened := x.coeff.natAbs * 10 ^ wrapShift shift
  let divisor := y.coeff.natAbs
  let sign := x.coeff.sign * y.coeff.sign
  let scale := wrapScale (natural + shift)
  if widened % divisor = 0 then
    let (count, kept) := stripZeros (scale - natural).toNat (widened / divisor)
    ⟨sign * kept, scale - count⟩
  else
    ⟨withSticky (sign * (widened / divisor : Nat)), wrapScale (scale + 1)⟩

/-- The quotient `x / y`, rounded; `none` for a zero divisor. -/
def divide? (c : Context) (x y : Decimal) : Option Decimal :=
  if y.isZero then none
  else if x.isZero then some .zero
  else
    let natural := wrapScale (x.scale - y.scale)
    some (c.round (unroundedQuotient natural (c.widening x y) x y))

end Context

end Reckon
