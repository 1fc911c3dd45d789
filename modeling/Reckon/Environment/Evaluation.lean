import Reckon.Environment
import Reckon.Operator.Application

/-!
# Evaluation

* `Environment.evalWithin`: the value of an expression within a budget of nested evaluations. The
  operators along a left spine are applied in turn and cost one evaluation together, so chains
  may have any length. A variable stands for its definition, which is evaluated each time;
  `resolving` are the names whose definitions are being evaluated.
* `Environment.applyStep`: one operator of a spine. `&&` and `||` evaluate their right operand
  only if the left one does not decide, and give `1` or `0`.
* `Environment.eval`: the value within `evalBudget` evaluations.
-/

namespace Reckon.Environment

variable {σ : Type}

/-- Applies the operator `op` to `left` and the value of `right`. -/
def applyStep (c : Context) (op : Operator) (left : Decimal) (right : Run σ Decimal) :
    Run σ Decimal :=
  match op with
  | .arithmetic op => do Run.ofExcept (op.apply c left (← right))
  | .comparison op => do return .ofBool (op.holds left (← right))
  | .logic .and => if left.isZero then pure .zero else do return .ofBool !(← right).isZero
  | .logic .or => if left.isZero then do return .ofBool !(← right).isZero else pure .one

/-- The value of `e`, with `resolving` being evaluated and at most the given number of nested
evaluations. -/
def evalWithin (env : Environment σ) : Nat → List String → Expr → Run σ Decimal
  | 0, _, _ => throw .nestingTooDeep
  | budget + 1, resolving, e =>
    match e with
    | .literal x => pure x
    | .reference name =>
      let key := nameKey name
      if key ∈ resolving then throw (.circularDefinition (resolving ++ [key]))
      else
        match env.definitions.find? key with
        | none => throw (.undefinedVariable name)
        | some definition => env.evalWithin budget (resolving ++ [key]) definition
    | .grouping inner => env.evalWithin budget resolving inner
    | .negation operand => do return (← env.evalWithin budget resolving operand).neg
    | .call name args =>
      match env.function? name with
      | none => throw (.undefinedFunction name)
      | some f => do
        f env.context (← args.mapM fun arg => env.evalWithin budget resolving arg)
    | .binary op left right => do
      let (first, steps) := (Expr.binary op left right).spine
      steps.foldlM (fun value step =>
        applyStep env.context step.1 value (env.evalWithin budget resolving step.2))
        (← env.evalWithin budget resolving first)

/-- The value of `e`. -/
def eval (env : Environment σ) (e : Expr) : Run σ Decimal := env.evalWithin evalBudget [] e

end Reckon.Environment
