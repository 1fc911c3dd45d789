import Reckon.Proofs.Evaluation.Budget
import Reckon.Proofs.Evaluation.References

/-!
# Environments that agree about a tree

* `Environment.AgreeAt`: two environments do the same at a node: with the definition of a variable,
  with the arguments of a call, with the operands of an operation.
* `eval_eq_of_agree`: when they agree at every node that is reached from a tree, they evaluate it
  alike: value or error, and the state that is left.
-/

namespace Reckon

theorem mapM_congr {σ : Type} {f g : Expr → Run σ Decimal} {args : List Expr}
    (h : ∀ arg ∈ args, f arg = g arg) : args.mapM f = args.mapM g := by
  induction args with
  | nil => rfl
  | cons arg args ih =>
    have hargs := ih fun arg harg => h arg (List.mem_cons_of_mem _ harg)
    rw [List.mapM_cons, List.mapM_cons, h arg List.mem_cons_self, hargs]

namespace Environment

variable {σ : Type} {env env' : Environment σ}

/-- The environments do the same at this node, given the outcomes of its parts in the first one. -/
def AgreeAt (env env' : Environment σ) : Expr → Prop
  | .reference name => env.definition? name = env'.definition? name
  | .call name _ => Option.Rel (fun f f' => ∀ xs, f env.context xs = f' env'.context xs)
      (env.function? name) (env'.function? name)
  | .binary op _ right => ∀ budget resolving x,
      applyStep env.context op x (env.evalWithin budget resolving right) =
        applyStep env'.context op x (env.evalWithin budget resolving right)
  | _ => True

theorem evalWithin_eq_of_agree (budget : Nat) (e : Expr) :
    ∀ resolving, env.Throughout (env.AgreeAt env') e →
      env.evalWithin budget resolving e = env'.evalWithin budget resolving e := by
  induction budget, e using budget_induction with
  | exhausted e =>
    intro resolving _
    rfl
  | literal budget x =>
    intro resolving _
    rfl
  | reference budget name ih =>
    intro resolving hagree
    by_cases hmem : nameKey name ∈ resolving
    · rw [evalWithin_reference_of_mem _ budget hmem, evalWithin_reference_of_mem _ budget hmem]
    · have hsame : env.definition? name = env'.definition? name := hagree.here
      cases hname : env.definition? name with
      | none =>
        rw [evalWithin_reference_of_none _ budget hmem hname,
          evalWithin_reference_of_none _ budget hmem (hsame ▸ hname)]
      | some definition =>
        rw [evalWithin_reference_of_some _ budget hmem hname,
          evalWithin_reference_of_some _ budget hmem (hsame ▸ hname)]
        exact ih definition _ (hagree.under (.definition hname))
  | grouping budget inner ih =>
    intro resolving hagree
    exact ih resolving (hagree.under .grouping)
  | negation budget operand ih =>
    intro resolving hagree
    rw [evalWithin_negation, evalWithin_negation, ih resolving (hagree.under .negation)]
  | call budget name args ih =>
    intro resolving hagree
    have hargs := mapM_congr fun arg harg => ih arg harg resolving (hagree.under (.argument harg))
    have hsame : Option.Rel _ (env.function? name) (env'.function? name) := hagree.here
    cases hname : env.function? name with
    | none =>
      cases hname' : env'.function? name with
      | none =>
        rw [evalWithin_call_of_none _ budget resolving hname,
          evalWithin_call_of_none _ budget resolving hname']
      | some f' =>
        rw [hname, hname'] at hsame
        cases hsame
    | some f =>
      cases hname' : env'.function? name with
      | none =>
        rw [hname, hname'] at hsame
        cases hsame
      | some f' =>
        rw [hname, hname'] at hsame
        cases hsame with
        | some hf =>
          rw [evalWithin_call_of_some _ budget resolving hname,
            evalWithin_call_of_some _ budget resolving hname', hargs]
          exact congrArg (_ >>= ·) (funext hf)
  | binary budget op left right ihLeft ihRight =>
    intro resolving hagree
    have hstep := hagree.here budget resolving
    rw [evalWithin_binary, evalWithin_binary, ← ihLeft resolving (hagree.under .left),
      ← ihRight resolving (hagree.under .right)]
    exact congrArg (_ >>= ·) (funext hstep)

/-- Environments that agree at every node that is reached evaluate a tree alike. -/
theorem eval_eq_of_agree {e : Expr} (h : env.Throughout (env.AgreeAt env') e) :
    env.eval e = env'.eval e := evalWithin_eq_of_agree evalBudget e [] h

end Environment

end Reckon
