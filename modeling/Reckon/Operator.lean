import Reckon.Token

/-!
# Operators

* `Operator`: the operators between two operands: arithmetic, comparison and logic.
* `Operator.level`: how tightly one binds, from `||` to `^`.
* `Operator.symbol`: how one is written; `Symbol.chained?` is the converse for the operators that
  associate to the left.
-/

namespace Reckon

/-- Operators between numbers with a number as their result. -/
inductive ArithmeticOp where
  | add
  | sub
  | mul
  | div
  | rem
  | pow
deriving DecidableEq

/-- Comparisons. -/
inductive ComparisonOp where
  | equal
  | notEqual
  | less
  | greater
  | lessEqual
  | greaterEqual
deriving DecidableEq

/-- Operators that may leave their right operand unevaluated. -/
inductive LogicOp where
  | and
  | or
deriving DecidableEq

/-- The operators between two operands. -/
inductive Operator where
  | arithmetic (op : ArithmeticOp)
  | comparison (op : ComparisonOp)
  | logic (op : LogicOp)
deriving DecidableEq

namespace Operator

/-- How tightly an operator binds its operands. -/
def level : Operator → Nat
  | logic .or => 0
  | logic .and => 1
  | comparison .equal | comparison .notEqual => 2
  | comparison _ => 3
  | arithmetic .add | arithmetic .sub => 4
  | arithmetic .mul | arithmetic .div | arithmetic .rem => 5
  | arithmetic .pow => 6

def symbol : Operator → Symbol
  | arithmetic .add => .plus
  | arithmetic .sub => .minus
  | arithmetic .mul => .star
  | arithmetic .div => .slash
  | arithmetic .rem => .percent
  | arithmetic .pow => .caret
  | comparison .equal => .equal
  | comparison .notEqual => .notEqual
  | comparison .less => .less
  | comparison .greater => .greater
  | comparison .lessEqual => .lessEqual
  | comparison .greaterEqual => .greaterEqual
  | logic .and => .and
  | logic .or => .or

def pow : Operator := arithmetic .pow

end Operator

/-- The operator that associates to the left and is written as this symbol. -/
def Symbol.chained? : Symbol → Option Operator
  | .plus => some (.arithmetic .add)
  | .minus => some (.arithmetic .sub)
  | .star => some (.arithmetic .mul)
  | .slash => some (.arithmetic .div)
  | .percent => some (.arithmetic .rem)
  | .equal => some (.comparison .equal)
  | .notEqual => some (.comparison .notEqual)
  | .less => some (.comparison .less)
  | .greater => some (.comparison .greater)
  | .lessEqual => some (.comparison .lessEqual)
  | .greaterEqual => some (.comparison .greaterEqual)
  | .and => some (.logic .and)
  | .or => some (.logic .or)
  | _ => none

theorem Symbol.chained?_symbol {op : Operator} (h : op ≠ .pow) :
    op.symbol.chained? = some op := by
  rcases op with op | op | op <;> cases op <;> simp_all [Operator.symbol, Operator.pow, chained?]

theorem Symbol.symbol_of_chained? {s : Symbol} {op : Operator} (h : s.chained? = some op) :
    op.symbol = s ∧ op ≠ .pow := by
  cases s <;> simp [chained?] at h <;> subst h <;> simp [Operator.symbol, Operator.pow]

end Reckon
