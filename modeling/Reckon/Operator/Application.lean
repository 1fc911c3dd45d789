import Reckon.Context.Power
import Reckon.Decimal.Equality
import Reckon.Operator

/-!
# Operators applied to values

* `ArithmeticOp.apply`: the value of an arithmetic operation, or its error.
* `ComparisonOp.holds`: whether a comparison is true of two numbers. Equality is that of
  `Decimal.same`, order that of `Decimal.cmp`.
-/

namespace Reckon

/-- The result of an arithmetic operator. -/
def ArithmeticOp.apply (op : ArithmeticOp) (c : Context) (x y : Decimal) :
    Except EvalError Decimal :=
  match op with
  | .add => .ok (x.add y)
  | .sub => .ok (x.sub y)
  | .mul => .ok (x.mul y)
  | .div => c.divide x y
  | .rem => if y.isZero then .error .divisionByZero else .ok (x.rem y)
  | .pow => c.power x y

/-- Whether two numbers compare as the operator says. -/
def ComparisonOp.holds (op : ComparisonOp) (x y : Decimal) : Bool :=
  match op with
  | .equal => x.same y
  | .notEqual => !x.same y
  | .less => x.cmp y == .lt
  | .greater => x.cmp y == .gt
  | .lessEqual => x.cmp y != .gt
  | .greaterEqual => x.cmp y != .lt

end Reckon
