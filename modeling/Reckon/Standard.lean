import Reckon.Context.Power
import Reckon.Function

/-!
# Standard constants and functions

* `Standard.constants`: `π`, its spelling `pi`, and `e`, to a hundred places.
* `Standard.functions`: absolute value, sums and averages, rounding, extremes, choice, logarithms
  and the square root. The last three go through doubles; all others are exact or rounded once.
-/

namespace Reckon.Standard

/-! ## Constants -/

def pi : Decimal :=
  ⟨31415926535897932384626433832795028841971693993751058209749445923078164062862089986280348253421170679,
    100⟩

def e : Decimal :=
  ⟨27182818284590452353602874713526624977572470936999595749669676277240766303535475945713821785251664274,
    100⟩

def constants : List (String × Decimal) := [("π", pi), ("pi", pi), ("e", e)]

/-! ## Exact functions -/

/-- The sum, beginning with zero and adding in order. -/
def sum (xs : List Decimal) : Decimal := xs.foldl Decimal.add .zero

/-- The sum divided by the number of arguments. -/
def avg (c : Context) (xs : List Decimal) : Except EvalError Decimal :=
  c.divide (sum xs) (.ofInt xs.length)

/-- The first of the least numbers. -/
def least (x : Decimal) (xs : List Decimal) : Decimal :=
  xs.foldl (fun best x => if x.less best then x else best) x

/-- The first of the greatest numbers. -/
def greatest (x : Decimal) (xs : List Decimal) : Decimal :=
  xs.foldl (fun best x => if best.less x then x else best) x

/-- The whole number next to `x` in the direction `r`, rounded in that direction to the
precision. -/
def integral (r : Rounding) (c : Context) (x : Decimal) : Decimal :=
  (c.withRounding r).round (x.roundAt r 0)

/-- The number of places that the second argument of `round` asks for. -/
def roundPlaces (places : Decimal) : Except EvalError Nat :=
  if !places.isInteger || places.isNegative then
    .error (.invalidArgument
      s!"round scale must be a non-negative integer, got {places.plain}")
  else if maxPrecision < places.whole then
    .error (.invalidArgument
      s!"round scale must be at most {maxPrecision}, got {places.plain}")
  else .ok places.whole

def round (c : Context) (x : Decimal) (places : Option Decimal) : Except EvalError Decimal := do
  let n ← places.elim (.ok 0) roundPlaces
  return x.roundAt c.rounding n

/-! ## Functions of doubles -/

/-- Applies a function of doubles and rounds its result. -/
def throughFloat (name : String) (f : Float → Float) (c : Context) (x : Decimal) :
    Except EvalError Decimal :=
  match x.toFiniteFloat? with
  | none => .error (.invalidArgument s!"{name} cannot convert {x.plain} to a float")
  | some v =>
    match Decimal.ofFloat? (f v) with
    | none => .error (.invalidArgument s!"{name}({x.plain}) is not representable")
    | some y => .ok (c.round y)

def ln (c : Context) (x : Decimal) : Except EvalError Decimal :=
  if x.isPositive then throughFloat "ln" Float.log c x
  else .error (.invalidArgument s!"ln is undefined for {x.plain}")

def log (c : Context) (x : Decimal) : Except EvalError Decimal :=
  if x.isPositive then throughFloat "log" Float.log10 c x
  else .error (.invalidArgument s!"log is undefined for {x.plain}")

def sqrt (c : Context) (x : Decimal) : Except EvalError Decimal :=
  if x.isNegative then .error (.invalidArgument s!"square root is undefined for {x.plain}")
  else throughFloat "√" Float.sqrt c x

/-! ## The functions by name -/

def functions : List Primitive := [
  ⟨"abs", .one fun _ x => .ok x.abs⟩,
  ⟨"sum", .many fun _ x xs => .ok (sum (x :: xs))⟩,
  ⟨"avg", .many fun c x xs => avg c (x :: xs)⟩,
  ⟨"floor", .one fun c x => .ok (integral .floor c x)⟩,
  ⟨"ceil", .one fun c x => .ok (integral .ceiling c x)⟩,
  ⟨"round", .oneOrTwo round⟩,
  ⟨"min", .many fun _ x xs => .ok (least x xs)⟩,
  ⟨"max", .many fun _ x xs => .ok (greatest x xs)⟩,
  ⟨"if", .three fun _ condition yes no => .ok (if condition.isZero then no else yes)⟩,
  ⟨"ln", .one ln⟩,
  ⟨"log", .one log⟩,
  ⟨"√", .one sqrt⟩,
  ⟨"sqrt", .one sqrt⟩]

end Reckon.Standard
