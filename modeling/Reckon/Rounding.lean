import Reckon.Text.Blank
import Reckon.Text.Lowercase

/-!
# Rounding directions

* `Rounding`: the seven ways to give up digits.
* `Rounding.raises`: whether the kept digits go up by one, decided by the sign, the parity of
  the kept digits and how the dropped part compares with a half.
* `Rounding.quotient`: a ratio of natural numbers rounded to one of its two neighbours.
* `Rounding.ofText?`: reading a direction's name, in any case, with `_` for `-`.
-/

namespace Reckon

/-- How a number is rounded when digits have to be dropped. -/
inductive Rounding where
  /-- Away from zero. -/
  | up
  /-- Toward zero. -/
  | down
  /-- Toward positive infinity. -/
  | ceiling
  /-- Toward negative infinity. -/
  | floor
  /-- To the nearest neighbour, a tie away from zero. -/
  | halfUp
  /-- To the nearest neighbour, a tie toward zero. -/
  | halfDown
  /-- To the nearest neighbour, a tie to the even one. -/
  | halfEven
deriving DecidableEq, Inhabited

namespace Rounding

def all : List Rounding := [up, down, ceiling, floor, halfUp, halfDown, halfEven]

def name : Rounding → String
  | up => "up"
  | down => "down"
  | ceiling => "ceiling"
  | floor => "floor"
  | halfUp => "half-up"
  | halfDown => "half-down"
  | halfEven => "half-even"

/-- The name as one capitalised word, for listings. -/
def label : Rounding → String
  | up => "Up"
  | down => "Down"
  | ceiling => "Ceiling"
  | floor => "Floor"
  | halfUp => "HalfUp"
  | halfDown => "HalfDown"
  | halfEven => "HalfEven"

/-- Whether a magnitude of which a non-zero part is dropped is raised to its upper neighbour.
`toHalf` compares the dropped part with half a unit of the last kept digit. -/
def raises (r : Rounding) (negative odd : Bool) (toHalf : Ordering) : Bool :=
  match r with
  | up => true
  | down => false
  | ceiling => !negative
  | floor => negative
  | halfUp => toHalf != .lt
  | halfDown => toHalf == .gt
  | halfEven => toHalf == .gt || (toHalf == .eq && odd)

/-- The magnitude `n / m` rounded to a whole number. An exact quotient stays as it is. -/
def quotient (r : Rounding) (negative : Bool) (n m : Nat) : Nat :=
  if n % m = 0 then n / m
  else if r.raises negative (n / m % 2 == 1) (compare (2 * (n % m)) m) then n / m + 1
  else n / m

theorem quotient_of_dvd {r : Rounding} {negative : Bool} {n m : Nat} (h : n % m = 0) :
    r.quotient negative n m = n / m := by
  simp [quotient, h]

theorem quotient_eq_or (r : Rounding) (negative : Bool) (n m : Nat) :
    r.quotient negative n m = n / m ∨ r.quotient negative n m = n / m + 1 := by
  unfold quotient
  split
  · exact .inl rfl
  · split
    · exact .inr rfl
    · exact .inl rfl

/-- The direction that `text` names. -/
def ofText? (text : String) : Option Rounding :=
  let wanted := (Text.lowercase (Text.trim text)).map fun c => if c = '_' then '-' else c
  all.find? fun r => r.name == wanted

/-- What is said of a text that names no direction. -/
def unknownMessage (text : String) : String :=
  let names := String.intercalate ", " (all.map name)
  s!"unknown rounding mode '{text}' (expected one of: {names})"

end Rounding

end Reckon
