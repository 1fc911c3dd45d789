import Reckon.Decimal

/-!
# Order of decimal numbers

* `Decimal.cmp`: comparison of the numbers, whatever their forms. Signs decide first, then the
  positions of the first digits; only numbers of one sign and position are brought to a common
  scale, so far apart scales cost nothing.
* `Decimal.less`: strict order of the numbers.
-/

namespace Reckon.Decimal

/-- Compares two non-zero magnitudes. -/
def cmpMagnitude (x y : Decimal) : Ordering :=
  if x.lead = y.lead then
    let s := max x.scale y.scale
    compare (x.coeffAt s).natAbs (y.coeffAt s).natAbs
  else compare x.lead y.lead

/-- Compares two numbers. -/
def cmp (x y : Decimal) : Ordering :=
  if x.coeff.sign ≠ y.coeff.sign then compare x.coeff.sign y.coeff.sign
  else if x.coeff = 0 then .eq
  else if x.coeff < 0 then cmpMagnitude y x
  else cmpMagnitude x y

/-- Whether `x` is below `y` as a number. -/
def less (x y : Decimal) : Bool := x.cmp y == .lt

end Reckon.Decimal
