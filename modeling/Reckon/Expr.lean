import Reckon.Operator
import Reckon.Decimal.Equality

/-!
# Expressions

* `Expr`: the tree of an expression. Names keep their case, numbers their form.
  `Expr.induction`: what holds of a call whenever it holds of the arguments, and so on, holds of
  every tree.
* `Expr.spine`: the operators of a tree along its left operands, innermost first, and the operand
  that they begin from. `Expr.ofSpine_spine`: together they are the tree.
* `Expr.same`: equality of trees, with numbers compared as numbers.
-/

namespace Reckon

/-- The tree of an expression. -/
inductive Expr where
  | literal (value : Decimal)
  | reference (name : String)
  | negation (operand : Expr)
  | binary (op : Operator) (left right : Expr)
  | grouping (inner : Expr)
  | call (name : String) (args : List Expr)
deriving Inhabited

namespace Expr

/-- Structural induction. The arguments of a call are trees in a list, and the property may be
assumed of each of them. -/
@[elab_as_elim, induction_eliminator]
theorem induction {motive : Expr → Prop} (literal : ∀ value, motive (literal value))
    (reference : ∀ name, motive (reference name))
    (negation : ∀ operand, motive operand → motive (negation operand))
    (binary : ∀ op left right, motive left → motive right → motive (binary op left right))
    (grouping : ∀ inner, motive inner → motive (grouping inner))
    (call : ∀ name args, (∀ arg ∈ args, motive arg) → motive (call name args)) :
    ∀ e, motive e
  | .literal value => literal value
  | .reference name => reference name
  | .negation operand =>
    negation operand (induction literal reference negation binary grouping call operand)
  | .binary op left right =>
    binary op left right (induction literal reference negation binary grouping call left)
      (induction literal reference negation binary grouping call right)
  | .grouping inner =>
    grouping inner (induction literal reference negation binary grouping call inner)
  | .call name args => call name args fun arg _ =>
    induction literal reference negation binary grouping call arg

/-! ## Left spines -/

/-- Descends the left operands and puts each operator with its right operand before `steps`. -/
def spineFrom (steps : List (Operator × Expr)) : Expr → Expr × List (Operator × Expr)
  | binary op left right => spineFrom ((op, right) :: steps) left
  | e => (e, steps)

/-- The leftmost operand that is no operation, and the operators applied to it in turn. -/
def spine (e : Expr) : Expr × List (Operator × Expr) := spineFrom [] e

/-- The tree of operators applied in turn, beginning from `first`. -/
def ofSpine (first : Expr) (steps : List (Operator × Expr)) : Expr :=
  steps.foldl (fun left step => binary step.1 left step.2) first

theorem ofSpine_spineFrom (steps : List (Operator × Expr)) (e : Expr) :
    ofSpine (spineFrom steps e).1 (spineFrom steps e).2 = ofSpine e steps := by
  fun_induction spineFrom steps e with
  | case1 steps op left right ih => rw [ih]; rfl
  | case2 => rfl

theorem ofSpine_spine (e : Expr) : ofSpine e.spine.1 e.spine.2 = e :=
  ofSpine_spineFrom [] e

theorem spineFrom_eq (steps : List (Operator × Expr)) (e : Expr) :
    spineFrom steps e = (e.spine.1, e.spine.2 ++ steps) := by
  induction e generalizing steps with
  | binary op left right ihLeft =>
    rw [spine, spineFrom, spineFrom, ihLeft, ihLeft [(op, right)]]
    simp
  | _ => rfl

/-- The root of an operation is the last operator of its spine. -/
theorem spine_binary (op : Operator) (left right : Expr) :
    (binary op left right).spine = (left.spine.1, left.spine.2 ++ [(op, right)]) :=
  spineFrom_eq [(op, right)] left

/-! ## Equality -/

mutual

/-- Whether two trees differ at most in the forms of their numbers. -/
def same : Expr → Expr → Bool
  | literal x, literal y => x.same y
  | reference m, reference n => m == n
  | negation d, negation e => same d e
  | binary op l r, binary op' l' r' => op == op' && same l l' && same r r'
  | grouping d, grouping e => same d e
  | call m ds, call n es => m == n && sameAll ds es
  | _, _ => false

def sameAll : List Expr → List Expr → Bool
  | [], [] => true
  | d :: ds, e :: es => same d e && sameAll ds es
  | _, _ => false

end

end Expr

end Reckon
