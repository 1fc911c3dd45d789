import Reckon.Decimal
import Reckon.Binary64.Shortest

/-!
# Decimal numbers and doubles

* `Decimal.toFloat`: the double of a decimal. A decimal with scale zero or a positive scale goes
  to the nearest double, once a long coefficient has been cut; with a negative scale the double of
  the coefficient is multiplied by a power of ten in doubles.
* `Decimal.ofFloat?`: the shortest decimal that is read as a finite double, in plain form.
-/

namespace Reckon.Decimal

-- A power means the same thing here whatever other powers are in scope.
attribute [local instance (20000)] instPowNat

/-- How many blocks of nineteen digits a coefficient of `bits` binary digits can lose and keep
more than twenty-five digits. -/
def surplusBlocks (bits : Nat) : Nat := (digitCount (2 ^ (bits + 1)) - 1 - 25) / 19

/-- The double nearest to `n * 10 ^ (-scale)`, zero or infinite when that is far out of range. -/
def nearestFloat (negative : Bool) (n : Nat) (scale : Int) : Float :=
  let lead := (digitCount n : Int) - scale
  if lead < -400 then Binary64.nearest negative 0 1
  else Binary64.nearest negative (n * 10 ^ (-scale).toNat) (10 ^ scale.toNat)

/-- The double of a decimal number. -/
def toFloat (x : Decimal) : Float :=
  let n := x.coeff.natAbs
  if n = 0 then 0
  else if x.scale = 0 then Binary64.ofWhole x.isNegative n
  else
    let blocks := surplusBlocks (n.log2 + 1)
    let kept := n / 10 ^ (19 * blocks)
    let scale := x.scale - 19 * blocks
    if scale ≤ 0 then Binary64.ofWhole x.isNegative kept * Binary64.powTen (-scale).toNat
    else nearestFloat x.isNegative kept scale

/-- The double of a decimal number, if it is finite. -/
def toFiniteFloat? (x : Decimal) : Option Float :=
  let v := x.toFloat
  if v.isFinite then some v else none

/-- The decimal with the shortest digits of the double with the given bits. A whole number has
scale zero. -/
def ofBits? (bits : Nat) : Option Decimal :=
  if Binary64.isFiniteBits bits then
    let (m, e) := Binary64.parts bits
    if m = 0 then some zero
    else
      let (a, k) := Binary64.shortest m e
      let sign : Int := if bits / 2 ^ (63 : Nat) % 2 = 1 then -1 else 1
      some ⟨sign * (a * 10 ^ k.toNat : Nat), (-k).toNat⟩
  else none

def ofFloat? (v : Float) : Option Decimal := ofBits? v.toBits.toNat

end Reckon.Decimal
