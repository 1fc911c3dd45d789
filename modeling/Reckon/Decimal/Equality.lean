import Reckon.Decimal.Order
import Reckon.Limbs

/-!
# Equality of decimal numbers

* `Decimal.same`: whether two forms are taken for one number. Scales that differ by less than
  twenty are bridged by a long multiplication in words; all other forms are compared by `cmp`.
* `Decimal.wordsAgree?`: the long multiplication, compared with a number on the way, from the
  lowest limb on. It is exact as long as each sum of a product and a carry fits 64 bits. A product
  that does not fit leaves the question open; a product that fits, with a carry that makes it too
  long, loses its highest bit, and the answer may then be wrong either way.
-/

namespace Reckon.Decimal

-- A power means the same thing here whatever other powers are in scope.
attribute [local instance (20000)] instPowNat

/-- Whether the left limbs are those of `power` times the number with the right limbs, plus
`carry`, which is less than `2 ^ 32`. -/
def wordsAgree? (power : Nat) : Nat → List (Nat × Nat) → Option Bool
  | carry, [] => some (carry == 0)
  | carry, (n, m) :: rest =>
    if 2 ^ (64 : Nat) ≤ m * power then none
    else
      let word := (m * power + carry) % 2 ^ (64 : Nat)
      if n = word % 2 ^ (32 : Nat) then
        wordsAgree? power (word / 2 ^ (32 : Nat)) rest
      else
        some false

/-- Whether `n` is `m * 10 ^ k`, for positive numbers. A number with too few bits is not, and no
other number has fewer limbs than `m`. -/
def scaledAgree? (k n m : Nat) : Option Bool :=
  if n.log2 < m.log2 + (10 ^ k).log2 then some false
  else wordsAgree? (10 ^ k) 0 ((limbs (limbCount n) n).zip (limbs (limbCount n) m))

/-- The answer of the long multiplication for forms with different scales, if there is one. -/
def sameInWords? (x y : Decimal) : Option Bool :=
  let k := (x.scale - y.scale).natAbs
  if x.coeff.sign ≠ y.coeff.sign ∨ x.coeff = 0 ∨ k = 0 ∨ 20 ≤ k then none
  else if y.scale < x.scale then scaledAgree? k x.coeff.natAbs y.coeff.natAbs
  else scaledAgree? k y.coeff.natAbs x.coeff.natAbs

/-- Whether `x` and `y` are taken for forms of one number. -/
def same (x y : Decimal) : Bool := (x.sameInWords? y).getD (x.cmp y == .eq)

end Reckon.Decimal
