import Reckon.Proofs.Evaluation.Genuine

/-!
# Evaluation with functions that keep nothing

* `Run.Stateless`: a run whose outcome does not depend on the state in which it begins.
* `evalWithin_stateless`, `run_eval_eq_of_pure`: where all functions are pure, evaluation is such a
  run. One case for each kind of tree.
-/

namespace Reckon

namespace Run

variable {σ α β : Type}

/-- The outcome does not depend on the state. -/
def Stateless (x : Run σ α) : Prop := ∀ s t, (x.run s).1 = (x.run t).1

theorem stateless_ofExcept (r : Except EvalError α) : (ofExcept r : Run σ α).Stateless := by
  intro s t
  rw [run_ofExcept, run_ofExcept]

theorem stateless_pure (a : α) : (pure a : Run σ α).Stateless := stateless_ofExcept (.ok a)

theorem stateless_throw (err : EvalError) : (throw err : Run σ α).Stateless :=
  stateless_ofExcept (.error err)

theorem Stateless.bind {x : Run σ α} {f : α → Run σ β} (hx : x.Stateless)
    (hf : ∀ a, (f a).Stateless) : (x >>= f).Stateless := by
  intro s t
  have hfirst := hx s t
  rcases hs : x.run s with ⟨r, s'⟩
  rcases ht : x.run t with ⟨r', t'⟩
  rw [hs, ht] at hfirst
  obtain rfl : r = r' := hfirst
  cases r with
  | error err => rw [run_bind_of_error hs, run_bind_of_error ht]
  | ok a =>
    rw [run_bind_of_ok hs, run_bind_of_ok ht]
    exact hf a s' t'

theorem Stateless.mapM {f : α → Run σ β} {as : List α} (h : ∀ a ∈ as, (f a).Stateless) :
    (as.mapM f).Stateless := by
  induction as with
  | nil => exact stateless_pure []
  | cons a as ih =>
    obtain ⟨ha, has⟩ := List.forall_mem_cons.1 h
    rw [List.mapM_cons]
    exact ha.bind fun b => (ih has).bind fun bs => stateless_pure (b :: bs)

end Run

namespace Environment

variable {σ : Type} {env : Environment σ}

theorem applyStep_stateless (c : Context) (op : Operator) (x : Decimal) {right : Run σ Decimal}
    (h : right.Stateless) : (applyStep c op x right).Stateless := by
  cases hop : op.decided? x with
  | some v =>
    rw [applyStep_of_some hop]
    exact Run.stateless_pure v
  | none =>
    rw [applyStep_of_none hop]
    exact h.bind fun y => Run.stateless_ofExcept (op.result c x y)

theorem evalWithin_stateless (hpure : ∀ name f, env.function? name = some f → f.Pure)
    (budget : Nat) (e : Expr) : ∀ resolving, (env.evalWithin budget resolving e).Stateless := by
  induction budget, e using budget_induction with
  | exhausted e =>
    intro resolving
    exact Run.stateless_throw _
  | literal budget x =>
    intro resolving
    exact Run.stateless_pure x
  | reference budget name ih =>
    intro resolving
    by_cases hmem : nameKey name ∈ resolving
    · rw [evalWithin_reference_of_mem env budget hmem]
      exact Run.stateless_throw _
    · cases hname : env.definition? name with
      | none =>
        rw [evalWithin_reference_of_none env budget hmem hname]
        exact Run.stateless_throw _
      | some definition =>
        rw [evalWithin_reference_of_some env budget hmem hname]
        exact ih definition _
  | grouping budget inner ih => exact ih
  | negation budget operand ih =>
    intro resolving
    rw [evalWithin_negation]
    exact (ih resolving).bind fun x => Run.stateless_pure x.neg
  | call budget name args ih =>
    intro resolving
    cases hname : env.function? name with
    | none =>
      rw [evalWithin_call_of_none env budget resolving hname]
      exact Run.stateless_throw _
    | some f =>
      rw [evalWithin_call_of_some env budget resolving hname]
      have hargs := Run.Stateless.mapM fun arg harg => ih arg harg resolving
      exact hargs.bind fun xs => hpure name f hname env.context xs
  | binary budget op left right ihLeft ihRight =>
    intro resolving
    rw [evalWithin_binary]
    exact (ihLeft resolving).bind fun x => applyStep_stateless env.context op x (ihRight resolving)

/-- Where all functions are pure, the outcome of a tree does not depend on the state. -/
theorem run_eval_eq_of_pure (hpure : ∀ name f, env.function? name = some f → f.Pure) (e : Expr)
    (s t : σ) : ((env.eval e).run s).1 = ((env.eval e).run t).1 :=
  evalWithin_stateless hpure evalBudget e [] s t

end Environment

end Reckon
