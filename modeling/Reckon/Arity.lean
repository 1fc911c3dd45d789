/-!
# Arities

* `Arity`: how many arguments a function takes; `Arity.accepts`: whether a number is right.
* `Arity.text`, `Arity.label`: an arity in words, and as a constructor for listings.
-/

namespace Reckon

/-- The number of arguments that a function takes. -/
inductive Arity where
  | exactly (count : Nat)
  | atLeast (count : Nat)
  | between (least most : Nat)
deriving DecidableEq

namespace Arity

def accepts : Arity → Nat → Bool
  | exactly n, count => count == n
  | atLeast n, count => decide (n ≤ count)
  | between least most, count => decide (least ≤ count) && decide (count ≤ most)

def argumentWord (n : Nat) : String := if n = 1 then "argument" else "arguments"

def text : Arity → String
  | exactly n => s!"{n} {argumentWord n}"
  | atLeast n => s!"at least {n} {argumentWord n}"
  | between least most => s!"{least} to {most} arguments"

/-- The arity in the form of a constructor and its arguments, for listings. -/
def label : Arity → String
  | exactly n => s!"Exact({n})"
  | atLeast n => s!"AtLeast({n})"
  | between least most => s!"Between({least}, {most})"

end Arity

end Reckon
