import Reckon.Decimal
import Reckon.Rounding

/-!
# Rounding at a place

* `Decimal.roundAt r s x`: the number `x` written with scale `s`. A larger scale appends zeros; a
  smaller one drops digits in the direction `r`. Dropping more digits than there are leaves zero
  or a single unit.
* `Decimal.droppedAt s x`: how many digits that are. The places of the first digit and of the last
  one kept are compared as 64-bit words.
-/

namespace Reckon.Decimal

-- A power means the same thing here whatever other powers are in scope.
attribute [local instance (20000)] instPowNat

/-- The coefficient of `x` without its last `count` digits, rounded in the direction `r`. One
digit more than there are decides as any larger number would. -/
def dropDigits (r : Rounding) (count : Nat) (x : Decimal) : Int :=
  let dropped := min count (x.digits + 1)
  x.coeff.sign * r.quotient x.isNegative x.coeff.natAbs (10 ^ dropped)

/-- The number of digits that are dropped to bring `x` to the smaller scale `s`; more than there
are when its first digit stands after the last place kept. The place of the first digit of a very
large number does not fit a word, and then none of its digits is kept. -/
def droppedAt (s : Int) (x : Decimal) : Nat :=
  if wrapScale x.lead < wrapScale (-s) then x.digits + 1 else (x.scale - s).toNat

def roundAt (r : Rounding) (s : Int) (x : Decimal) : Decimal :=
  if x.scale ≤ s then ⟨x.coeffAt s, s⟩ else ⟨x.dropDigits r (x.droppedAt s), s⟩

end Reckon.Decimal
