import Reckon.Digits
import Reckon.Rounding

/-!
# Binary floating-point numbers of 64 bits

* `Binary64.nearestBits num den`: the bit pattern of the positive double nearest to `num / den`,
  ties to even; the pattern of infinity when the ratio is too large.
* `Binary64.nearest`: that double.
* `Binary64.ofWhole`: the double of a whole number, which is cut to its leading 64 bits before it is
  rounded. A tie among these bits is told from a larger number by the bits that are cut off, but
  some of those are not looked at: `Binary64.leading`.
* `Binary64.parts`: significand and binary exponent of a finite magnitude.
* `Binary64.powTen`: a power of ten by repeated squaring in doubles, each product rounded.
-/

namespace Reckon.Binary64

-- A power means the same thing here whatever other powers are in scope.
attribute [local instance (20000)] instPowNat

/-- The bit pattern of positive infinity. -/
def infinityBits : Nat := 0x7FF0000000000000

/-- `num / den` in units of `2 ^ e`, rounded to the nearest whole number. -/
def inUnits (num den : Nat) (e : Int) : Nat :=
  Rounding.halfEven.quotient false (num * 2 ^ (-e).toNat) (den * 2 ^ e.toNat)

/-- The exponent `e` with `2 ^ e ≤ num / den < 2 ^ (e + 1)`, for positive numbers. -/
def binaryExponent (num den : Nat) : Int :=
  let e : Int := (num.log2 : Int) - den.log2
  if den * 2 ^ e.toNat ≤ num * 2 ^ (-e).toNat then e else e - 1

/-- The bits of the double nearest to `num / den`. Its last place is `2 ^ e` with `e` at least
`-1074`; a significand that is carried into its next bit raises the exponent field by one, as
the layout of the bits has it. -/
def nearestBits (num den : Nat) : Nat :=
  if num = 0 then 0
  else
    let e := max (binaryExponent num den - 52) (-1074)
    min infinityBits ((e + 1074).toNat * 2 ^ (52 : Nat) + inUnits num den e)

/-- The double nearest to `num / den`, with the given sign. -/
def nearest (negative : Bool) (num den : Nat) : Float :=
  let bits := nearestBits num den
  Float.ofBits (UInt64.ofNat (if negative then bits + 2 ^ (63 : Nat) else bits))

/-! ## Whole numbers -/

/-- Whether one of the lowest `count` words of 64 bits has a bit set among its lowest `width`. -/
def hasLowBits (width : Nat) : Nat → Nat → Bool
  | 0, _ => false
  | count + 1, n => n % 2 ^ width != 0 || hasLowBits width count (n / 2 ^ (64 : Nat))

/-- The leading 64 bits of `n` in their place, the last of them set when a bit is found among those
that are cut off. Of each word below the leading one only the lowest bits are searched, as many as
the leading word has; in the second word these are all that are cut off. -/
def leading (n : Nat) : Nat :=
  let words := n.log2 / 64
  if words = 0 then n
  else
    let unit := 2 ^ (n.log2 - 63)
    let high := n / unit
    (if hasLowBits (n.log2 % 64 + 1) words n then high ||| 1 else high) * unit

/-- The double of a whole number, infinite from `2 ^ 1024` on. -/
def ofWhole (negative : Bool) (n : Nat) : Float :=
  nearest negative (if n.log2 < 1024 then leading n else n) 1

/-! ## Patterns -/

/-- Significand `m` and exponent `e` of the magnitude `m * 2 ^ e` that a finite pattern stands
for. -/
def parts (bits : Nat) : Nat × Int :=
  let field : Nat := bits / 2 ^ (52 : Nat) % 2 ^ (11 : Nat)
  let low : Nat := bits % 2 ^ (52 : Nat)
  if field = 0 then (low, -1074) else (low + 2 ^ (52 : Nat), (field : Int) - 1075)

def isFiniteBits (bits : Nat) : Bool := bits / 2 ^ (52 : Nat) % 2 ^ (11 : Nat) != 2047

/-! ## Powers of ten -/

/-- `acc * base ^ n` by the binary digits of `n`. -/
def powFrom (acc base : Float) (n : Nat) : Float :=
  let acc := if n % 2 = 1 then acc * base else acc
  if n / 2 = 0 then acc else powFrom acc (base * base) (n / 2)
termination_by n

def powTen (n : Nat) : Float := powFrom 1 10 n

end Reckon.Binary64
