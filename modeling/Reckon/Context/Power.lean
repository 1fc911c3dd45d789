import Reckon.Context
import Reckon.EvalError
import Reckon.Decimal.Arithmetic
import Reckon.Decimal.Binary64
import Reckon.Decimal.Order
import Reckon.Decimal.Plain

/-!
# Powers in a context

* `Context.divide`: the rounded quotient, or an error for a zero divisor.
* `Context.power`: integer exponents up to `maxExponent` give exact powers, negative ones the
  rounded reciprocal, other exponents go through doubles.
-/

namespace Reckon

namespace Context

/-- The quotient, or an error for a zero divisor. -/
def divide (c : Context) (x y : Decimal) : Except EvalError Decimal :=
  match c.divide? x y with
  | some q => .ok q
  | none => .error .divisionByZero

/-- A power with a whole exponent. -/
def integerPower (c : Context) (base exponent : Decimal) : Except EvalError Decimal :=
  if maxExponent < exponent.whole then
    .error (.overflow s!"exponent {exponent.plain} is larger than {maxExponent}")
  else
    let raised := base.pow exponent.whole
    if exponent.isNegative then c.divide .one raised else .ok raised

/-- A power of a positive base with a fractional exponent, through doubles. -/
def realPower (c : Context) (base exponent : Decimal) : Except EvalError Decimal :=
  let raised := do
    let b ← base.toFiniteFloat?
    let e ← exponent.toFiniteFloat?
    Decimal.ofFloat? (b.pow e)
  match raised with
  | some x => .ok (c.round x)
  | none => .error (.overflow s!"{base.plain} ^ {exponent.plain} is out of range")

def power (c : Context) (base exponent : Decimal) : Except EvalError Decimal :=
  if base.isZero && exponent.isNegative then .error .divisionByZero
  else if exponent.isInteger then c.integerPower base exponent
  else if base.isNegative then
    .error (.invalidArgument s!"{base.plain} ^ {exponent.plain} has no real result")
  else if base.isZero then .ok .zero
  else c.realPower base exponent

end Context

end Reckon
