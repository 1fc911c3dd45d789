import Reckon.Proofs.Evaluation.Budget

/-!
# Evaluation as plain recursion

The evaluator walks down the left operands of an operation and applies the operators on the way
back. Here is the recursion that it stands for, without a spine:

* `Environment.recursiveNode`: the value of a node by the values of its parts, in the order in
  which they are evaluated. A left operand that is an operation itself is a node with no charge
  of its own.
* `Environment.recursiveWithin`, `Environment.recursiveEval`: each other node is charged once.
* `eval_eq_recursiveEval`: both evaluators give the same value or error and leave the same state.
-/

namespace Reckon.Environment

variable {σ : Type}

/-! ## The recursive evaluator -/

/-- The values of some arguments, from the first one on, up to the first error. -/
def recursiveArgs (part : Expr → Run σ Decimal) : List Expr → Run σ (List Decimal)
  | [] => return []
  | arg :: args => do
    let value ← part arg
    let values ← recursiveArgs part args
    return value :: values

/-- The value of an operation whose left operand has the value `x`. A right operand is evaluated
once, or not at all where `x` decides. -/
def recursiveOperation (c : Context) (op : Operator) (x : Decimal) (right : Run σ Decimal) :
    Run σ Decimal :=
  match op with
  | .arithmetic op => do
    let y ← right
    Run.ofExcept (op.apply c x y)
  | .comparison op => do
    let y ← right
    return if op.holds x y then .one else .zero
  | .logic .and =>
    if x.isZero then return .zero
    else do
      let y ← right
      return if y.isZero then .zero else .one
  | .logic .or =>
    if x.isZero then do
      let y ← right
      return if y.isZero then .zero else .one
    else return .one

/-- The value of a node whose parts have the values `part`. -/
def recursiveNode (env : Environment σ) (part : List String → Expr → Run σ Decimal)
    (resolving : List String) : Expr → Run σ Decimal
  | .literal x => return x
  | .reference name =>
    if nameKey name ∈ resolving then throw (.circularDefinition (resolving ++ [nameKey name]))
    else
      match env.definition? name with
      | none => throw (.undefinedVariable name)
      | some definition => part (resolving ++ [nameKey name]) definition
  | .grouping inner => part resolving inner
  | .negation operand => do
    let value ← part resolving operand
    return value.neg
  | .call name args =>
    match env.function? name with
    | none => throw (.undefinedFunction name)
    | some f => do
      let values ← recursiveArgs (part resolving) args
      f env.context values
  | .binary op left right => do
    let x ← if left.isOperation then recursiveNode env part resolving left else part resolving left
    recursiveOperation env.context op x (part resolving right)

/-- The value of a tree with at most the given number of nested charges. -/
def recursiveWithin (env : Environment σ) : Nat → List String → Expr → Run σ Decimal
  | 0, _, _ => throw .nestingTooDeep
  | budget + 1, resolving, e => env.recursiveNode (env.recursiveWithin budget) resolving e

def recursiveEval (env : Environment σ) (e : Expr) : Run σ Decimal :=
  env.recursiveWithin evalBudget [] e

/-! ## Agreement -/

theorem mapM_eq_recursiveArgs {f g : Expr → Run σ Decimal} {args : List Expr}
    (h : ∀ arg ∈ args, f arg = g arg) : args.mapM f = recursiveArgs g args := by
  induction args with
  | nil => rfl
  | cons arg args ih =>
    have hargs := ih fun arg' harg' => h arg' (List.mem_cons_of_mem _ harg')
    rw [List.mapM_cons, h arg List.mem_cons_self, hargs]
    rfl

/-- An uncharged node has the value of a charged one with a greater budget. -/
theorem recursiveWithin_leftBudget (env : Environment σ) (budget : Nat) (resolving : List String)
    (left : Expr) :
    env.recursiveWithin (leftBudget budget left) resolving left =
      if left.isOperation then env.recursiveNode (env.recursiveWithin budget) resolving left
      else env.recursiveWithin budget resolving left := by
  cases hleft : left.isOperation with
  | true => simp only [leftBudget, hleft, if_true, recursiveWithin]
  | false => simp only [leftBudget_of_not hleft, Bool.false_eq_true, if_false]

theorem applyStep_eq (c : Context) (op : Operator) (x : Decimal) (right : Run σ Decimal) :
    applyStep c op x right = recursiveOperation c op x right := by
  have htruth : ∀ y : Decimal,
      Decimal.ofBool (!y.isZero) = if y.isZero then Decimal.zero else Decimal.one := by
    intro y
    cases hy : y.isZero <;> simp [Decimal.ofBool]
  cases op with
  | arithmetic op => rfl
  | comparison op => rfl
  | logic op => cases op <;> simp only [applyStep, recursiveOperation, htruth]

theorem evalWithin_eq_recursiveWithin (env : Environment σ) (budget : Nat) (e : Expr) :
    ∀ resolving, env.evalWithin budget resolving e = env.recursiveWithin budget resolving e := by
  induction budget, e using budget_induction with
  | exhausted e => exact fun _ => rfl
  | literal budget value => exact fun _ => rfl
  | reference budget name ih =>
    intro resolving
    simp only [recursiveWithin, recursiveNode]
    split
    · next hmem => exact evalWithin_reference_of_mem env budget hmem
    · next hmem =>
      split
      · next hnone => exact evalWithin_reference_of_none env budget hmem hnone
      · next definition hsome =>
        rw [evalWithin_reference_of_some env budget hmem hsome, ih definition]
  | grouping budget inner ih => exact ih
  | negation budget operand ih =>
    intro resolving
    rw [evalWithin_negation, ih resolving]
    rfl
  | call budget name args ih =>
    intro resolving
    simp only [recursiveWithin, recursiveNode]
    split
    · next hnone => exact evalWithin_call_of_none env budget resolving hnone args
    · next f hsome =>
      rw [evalWithin_call_of_some env budget resolving hsome,
        mapM_eq_recursiveArgs fun arg harg => ih arg harg resolving]
  | binary budget op left right ihLeft ihRight =>
    intro resolving
    rw [evalWithin_binary, ihLeft resolving, ihRight resolving, recursiveWithin_leftBudget,
      recursiveWithin, recursiveNode]
    split
    · exact bind_congr fun x => applyStep_eq env.context op x _
    · exact bind_congr fun x => applyStep_eq env.context op x _

/-- Both evaluators give the same value or error and leave the same state. -/
theorem eval_eq_recursiveEval (env : Environment σ) (e : Expr) :
    env.eval e = env.recursiveEval e :=
  evalWithin_eq_recursiveWithin env evalBudget e []

end Reckon.Environment
