import Reckon.Binary64

/-!
# Shortest decimal digits of a double

* `Binary64.Interval`: a value in quarter units of its last place, with the bounds of the numbers
  that are read as this double; the bounds belong to it when the significand is even.
* `Binary64.shortest`: of the decimals with the fewest digits that are read as the double, the
  one nearest to it, the upper one of a tie.
-/

namespace Reckon.Binary64

-- A power means the same thing here whatever other powers are in scope.
attribute [local instance (20000)] instPowNat

/-- The value `value * 2 ^ exponent` between the bounds `low` and `high` in the same unit. -/
structure Interval where
  low : Nat
  value : Nat
  high : Nat
  exponent : Int
  closed : Bool

/-- The interval of the magnitude `m * 2 ^ e`. Below a power of two the doubles lie twice as
close. -/
def interval (m : Nat) (e : Int) : Interval where
  low := if m = 2 ^ (52 : Nat) then 4 * m - 1 else 4 * m - 2
  value := 4 * m
  high := 4 * m + 2
  exponent := e - 2
  closed := m % 2 == 0

namespace Interval

/-- One step of the grid of multiples of `10 ^ k` is `gridStep / unit` units of the interval. -/
def gridStep (i : Interval) (k : Int) : Nat := 10 ^ k.toNat * 2 ^ (-i.exponent).toNat

def unit (i : Interval) (k : Int) : Nat := 10 ^ (-k).toNat * 2 ^ i.exponent.toNat

/-- Whether `a * 10 ^ k` is read as the double. -/
def holds (i : Interval) (k : Int) (a : Nat) : Bool :=
  let point := a * i.gridStep k
  let low := i.low * i.unit k
  let high := i.high * i.unit k
  if i.closed then decide (low ≤ point) && decide (point ≤ high)
  else decide (low < point) && decide (point < high)

/-- The multiple of `10 ^ k` in the interval that is nearest to the value, if there is one. -/
def onGrid? (i : Interval) (k : Int) : Option Nat :=
  let below := i.value * i.unit k / i.gridStep k
  let fits := (i.holds k below, i.holds k (below + 1))
  if fits = (true, true) then
    let past := i.value * i.unit k % i.gridStep k
    some (if 2 * past < i.gridStep k then below else below + 1)
  else if fits.1 then some below
  else if fits.2 then some (below + 1)
  else none

/-- The exponent `e` with `10 ^ e ≤ value < 10 ^ (e + 1)`. -/
def decimalExponent (i : Interval) : Int :=
  let num := i.value * 2 ^ i.exponent.toNat
  let den := 2 ^ (-i.exponent).toNat
  let e : Int := (digitCount num : Int) - digitCount den
  if den * 10 ^ e.toNat ≤ num * 10 ^ (-e).toNat then e else e - 1

/-- Tries ever finer grids, from the multiples of `10 ^ k` on. -/
def search (i : Interval) : Nat → Int → Nat × Int
  | 0, k => (i.value * i.unit k / i.gridStep k, k)
  | tries + 1, k =>
    match i.onGrid? k with
    | some a => (a, k)
    | none => i.search tries (k - 1)

end Interval

/-- Digits `a` and exponent `k` of the shortest decimal `a * 10 ^ k` that is read as the positive
double `m * 2 ^ e`. The first grid holds the power of ten above the value; seventeen digits are
always enough. -/
def shortest (m : Nat) (e : Int) : Nat × Int :=
  let i := interval m e
  i.search 18 (i.decimalExponent + 1)

end Reckon.Binary64
