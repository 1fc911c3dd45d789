import Reckon.Proofs.Evaluation.Budget

/-!
# What an evaluation does

An evaluation applies operators to values and calls functions, and only where it comes to that:
not behind an error, and not where a left operand decides.

* `Action`: an operator applied to two values, or a function called with some.
* `Environment.Performs`: the evaluation of a tree comes to an action.
-/

namespace Reckon

/-- An operator applied to two values, or a function called with some. -/
inductive Action (σ : Type) where
  | operation (op : Operator) (x y : Decimal)
  | call (f : Function σ) (xs : List Decimal)

namespace Environment

variable {σ : Type}

mutual

/-- The evaluation of a tree, within a budget and with some names being evaluated, comes to the
action when it begins in the given state. -/
inductive Performs (env : Environment σ) (a : Action σ) : Nat → List String → Expr → σ → Prop where
  | operation {budget resolving op left right s t u x y}
      (first : (env.evalWithin (leftBudget budget left) resolving left).run s = (.ok x, t))
      (undecided : op.decided? x = none)
      (second : (env.evalWithin budget resolving right).run t = (.ok y, u))
      (applied : a = .operation op x y) :
      Performs env a (budget + 1) resolving (.binary op left right) s
  | call {budget resolving name f args s t xs} (known : env.function? name = some f)
      (values : (args.mapM (env.evalWithin budget resolving)).run s = (.ok xs, t))
      (applied : a = .call f xs) : Performs env a (budget + 1) resolving (.call name args) s
  | definition {budget resolving name definition s} (fresh : nameKey name ∉ resolving)
      (bound : env.definition? name = some definition)
      (inner : Performs env a budget (resolving ++ [nameKey name]) definition s) :
      Performs env a (budget + 1) resolving (.reference name) s
  | grouping {budget resolving inner s} (inside : Performs env a budget resolving inner s) :
      Performs env a (budget + 1) resolving (.grouping inner) s
  | negation {budget resolving operand s} (inside : Performs env a budget resolving operand s) :
      Performs env a (budget + 1) resolving (.negation operand) s
  | argument {budget resolving name f args s} (known : env.function? name = some f)
      (inside : PerformsAmong env a budget resolving args s) :
      Performs env a (budget + 1) resolving (.call name args) s
  | left {budget resolving op left right s}
      (inside : Performs env a (leftBudget budget left) resolving left s) :
      Performs env a (budget + 1) resolving (.binary op left right) s
  | right {budget resolving op left right s t x}
      (first : (env.evalWithin (leftBudget budget left) resolving left).run s = (.ok x, t))
      (undecided : op.decided? x = none) (inside : Performs env a budget resolving right t) :
      Performs env a (budget + 1) resolving (.binary op left right) s

/-- The evaluation of some trees, one after the other, comes to the action. -/
inductive PerformsAmong (env : Environment σ) (a : Action σ) :
    Nat → List String → List Expr → σ → Prop where
  | head {budget resolving arg args s} (inside : Performs env a budget resolving arg s) :
      PerformsAmong env a budget resolving (arg :: args) s
  | tail {budget resolving arg args s t x}
      (first : (env.evalWithin budget resolving arg).run s = (.ok x, t))
      (inside : PerformsAmong env a budget resolving args t) :
      PerformsAmong env a budget resolving (arg :: args) s

end

end Environment

end Reckon
