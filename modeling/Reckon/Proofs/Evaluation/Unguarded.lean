import Reckon.Proofs.Evaluation.Genuine

/-!
# Evaluation without guards

The meaning of a tree with no limit to the nesting and no watch for circular definitions: a
variable means its definition, and a tree whose evaluation would not end has no outcome.

* `Environment.Evaluates`, `Environment.EvaluatesAll`: the outcome of a tree, and of the arguments
  of a call.
* `Evaluates.deterministic`: a tree has one outcome at most.
* `evaluates_of_run`: an outcome of the evaluator that no guard made is the outcome of the tree.
-/

namespace Reckon

namespace Environment

variable {σ : Type} {env : Environment σ}

/-! ## Outcomes -/

mutual

/-- The outcome of a tree. A call may begin in any state. -/
inductive Evaluates (env : Environment σ) : Expr → Except EvalError Decimal → Prop where
  | literal x : Evaluates env (.literal x) (.ok x)
  | unbound {name} (unbound : env.definition? name = none) :
      Evaluates env (.reference name) (.error (.undefinedVariable name))
  | bound {name definition r} (bound : env.definition? name = some definition)
      (value : Evaluates env definition r) : Evaluates env (.reference name) r
  | grouping {inner r} (value : Evaluates env inner r) : Evaluates env (.grouping inner) r
  | negation {operand r} (value : Evaluates env operand r) :
      Evaluates env (.negation operand) (r.map Decimal.neg)
  | unknown {name args} (unknown : env.function? name = none) :
      Evaluates env (.call name args) (.error (.undefinedFunction name))
  | argumentError {name args f err} (known : env.function? name = some f)
      (values : EvaluatesAll env args (.error err)) : Evaluates env (.call name args) (.error err)
  | call {name args f xs} (known : env.function? name = some f)
      (values : EvaluatesAll env args (.ok xs)) (state : σ) :
      Evaluates env (.call name args) ((f env.context xs).run state).1
  | leftError {op left right err} (value : Evaluates env left (.error err)) :
      Evaluates env (.binary op left right) (.error err)
  | decided {op left right x v} (value : Evaluates env left (.ok x))
      (decided : Operator.decided? op x = some v) : Evaluates env (.binary op left right) (.ok v)
  | rightError {op left right x err} (value : Evaluates env left (.ok x))
      (undecided : Operator.decided? op x = none) (second : Evaluates env right (.error err)) :
      Evaluates env (.binary op left right) (.error err)
  | operation {op left right x y} (value : Evaluates env left (.ok x))
      (undecided : Operator.decided? op x = none) (second : Evaluates env right (.ok y)) :
      Evaluates env (.binary op left right) (op.result env.context x y)

/-- The values of some arguments, or the first error among them. -/
inductive EvaluatesAll (env : Environment σ) :
    List Expr → Except EvalError (List Decimal) → Prop where
  | nil : EvaluatesAll env [] (.ok [])
  | headError {arg args err} (value : Evaluates env arg (.error err)) :
      EvaluatesAll env (arg :: args) (.error err)
  | tailError {arg args x err} (value : Evaluates env arg (.ok x))
      (values : EvaluatesAll env args (.error err)) : EvaluatesAll env (arg :: args) (.error err)
  | cons {arg args x xs} (value : Evaluates env arg (.ok x))
      (values : EvaluatesAll env args (.ok xs)) : EvaluatesAll env (arg :: args) (.ok (x :: xs))

end

mutual

/-- A tree has one outcome at most. -/
theorem Evaluates.deterministic (hpure : ∀ name f, env.function? name = some f → f.Pure)
    {e : Expr} {r r' : Except EvalError Decimal} : env.Evaluates e r → env.Evaluates e r' → r = r'
  | .literal x, h' => by
    cases h'
    rfl
  | .unbound hnone, h' => by
    cases h' with
    | unbound => rfl
    | bound hsome => cases hnone.symm.trans hsome
  | .bound hsome value, h' => by
    cases h' with
    | unbound hnone => cases hnone.symm.trans hsome
    | bound hsome' value' =>
      obtain rfl := Option.some.inj (hsome.symm.trans hsome')
      exact value.deterministic hpure value'
  | .grouping value, h' => by
    cases h' with
    | grouping value' => exact value.deterministic hpure value'
  | .negation value, h' => by
    cases h' with
    | negation value' => rw [value.deterministic hpure value']
  | .unknown hnone, h' => by
    cases h' with
    | unknown => rfl
    | argumentError hsome => cases hnone.symm.trans hsome
    | call hsome => cases hnone.symm.trans hsome
  | .argumentError hsome values, h' => by
    cases h' with
    | unknown hnone => cases hnone.symm.trans hsome
    | argumentError _ values' =>
      cases values.deterministic hpure values'
      rfl
    | call _ values' => cases values.deterministic hpure values'
  | .call hsome values state, h' => by
    cases h' with
    | unknown hnone => cases hnone.symm.trans hsome
    | argumentError _ values' => cases values.deterministic hpure values'
    | call hsome' values' state' =>
      obtain rfl := Option.some.inj (hsome.symm.trans hsome')
      cases values.deterministic hpure values'
      exact hpure _ _ hsome _ _ _ _
  | .leftError value, h' => by
    cases h' with
    | leftError value' =>
      cases value.deterministic hpure value'
      rfl
    | decided value' => cases value.deterministic hpure value'
    | rightError value' => cases value.deterministic hpure value'
    | operation value' => cases value.deterministic hpure value'
  | .decided value hdecided, h' => by
    cases h' with
    | leftError value' => cases value.deterministic hpure value'
    | decided value' hdecided' =>
      cases value.deterministic hpure value'
      cases hdecided.symm.trans hdecided'
      rfl
    | rightError value' hundecided =>
      cases value.deterministic hpure value'
      cases hdecided.symm.trans hundecided
    | operation value' hundecided =>
      cases value.deterministic hpure value'
      cases hdecided.symm.trans hundecided
  | .rightError value hundecided second, h' => by
    cases h' with
    | leftError value' => cases value.deterministic hpure value'
    | decided value' hdecided =>
      cases value.deterministic hpure value'
      cases hdecided.symm.trans hundecided
    | rightError _ _ second' =>
      cases second.deterministic hpure second'
      rfl
    | operation _ _ second' => cases second.deterministic hpure second'
  | .operation value hundecided second, h' => by
    cases h' with
    | leftError value' => cases value.deterministic hpure value'
    | decided value' hdecided =>
      cases value.deterministic hpure value'
      cases hdecided.symm.trans hundecided
    | rightError _ _ second' => cases second.deterministic hpure second'
    | operation value' _ second' =>
      cases value.deterministic hpure value'
      cases second.deterministic hpure second'
      rfl

theorem EvaluatesAll.deterministic (hpure : ∀ name f, env.function? name = some f → f.Pure)
    {args : List Expr} {r r' : Except EvalError (List Decimal)} :
    env.EvaluatesAll args r → env.EvaluatesAll args r' → r = r'
  | .nil, h' => by
    cases h'
    rfl
  | .headError value, h' => by
    cases h' with
    | headError value' =>
      cases value.deterministic hpure value'
      rfl
    | tailError value' => cases value.deterministic hpure value'
    | cons value' => cases value.deterministic hpure value'
  | .tailError value values, h' => by
    cases h' with
    | headError value' => cases value.deterministic hpure value'
    | tailError _ values' =>
      cases values.deterministic hpure values'
      rfl
    | cons _ values' => cases values.deterministic hpure values'
  | .cons value values, h' => by
    cases h' with
    | headError value' => cases value.deterministic hpure value'
    | tailError _ values' => cases values.deterministic hpure values'
    | cons value' values' =>
      cases value.deterministic hpure value'
      cases values.deterministic hpure values'
      rfl

end

/-! ## Outcomes of the evaluator -/

theorem evaluatesAll_of_run {f : Expr → Run σ Decimal} {args : List Expr}
    (hf : ∀ arg ∈ args, ∀ s r t, (f arg).run s = (r, t) → Genuine r → env.Evaluates arg r)
    {s t : σ} {r : Except EvalError (List Decimal)} (h : (args.mapM f).run s = (r, t))
    (hr : Genuine r) : env.EvaluatesAll args r := by
  induction args generalizing s t r with
  | nil =>
    cases h
    exact .nil
  | cons arg args ih =>
    have hhead := hf arg List.mem_cons_self
    have hrest := fun arg' harg' => hf arg' (List.mem_cons_of_mem _ harg')
    rcases Run.mapM_cons_inv h with ⟨err, hrun, rfl⟩ | ⟨x, u, hrun, h⟩
    · exact .headError (hhead _ _ _ hrun hr.error)
    · have hx := hhead _ _ _ hrun (genuine_ok x)
      rcases h with ⟨err, hruns, rfl⟩ | ⟨xs, hruns, rfl⟩
      · exact .tailError hx (ih hrest hruns hr.error)
      · exact .cons hx (ih hrest hruns (genuine_ok xs))

/-- An outcome that no guard made is the outcome of the tree. -/
theorem evaluates_of_run (budget : Nat) (e : Expr) :
    ∀ resolving s r t, (env.evalWithin budget resolving e).run s = (r, t) → Genuine r →
      env.Evaluates e r := by
  induction budget, e using budget_induction with
  | exhausted e =>
    intro resolving s r t h hr
    cases h
    cases hr _ rfl
  | literal budget value =>
    intro resolving s r t h hr
    cases h
    exact .literal value
  | reference budget name ih =>
    intro resolving s r t h hr
    rcases evalWithin_reference_inv h with
      ⟨-, rfl⟩ | ⟨-, ⟨hnone, rfl⟩ | ⟨definition, hsome, hrun⟩⟩
    · cases hr _ rfl
    · exact .unbound hnone
    · exact .bound hsome (ih definition _ _ _ _ hrun hr)
  | grouping budget inner ih =>
    intro resolving s r t h hr
    exact .grouping (ih _ _ _ _ h hr)
  | negation budget operand ih =>
    intro resolving s r t h hr
    obtain ⟨r', hrun, rfl⟩ := evalWithin_negation_inv h
    refine .negation (ih _ _ _ _ hrun ?_)
    cases r' with
    | error err => exact hr
    | ok x => exact genuine_ok x
  | call budget name args ih =>
    intro resolving s r t h hr
    have hargs := fun arg harg => ih arg harg resolving
    rcases evalWithin_call_inv h with
      ⟨hnone, rfl⟩ | ⟨f, hsome, ⟨err, hruns, rfl⟩ | ⟨xs, u, hruns, h⟩⟩
    · exact .unknown hnone
    · exact .argumentError hsome (evaluatesAll_of_run hargs hruns hr.error)
    · have hcall := Evaluates.call hsome (evaluatesAll_of_run hargs hruns (genuine_ok xs)) u
      rwa [h] at hcall
  | binary budget op left right ihLeft ihRight =>
    intro resolving s r t h hr
    rcases evalWithin_binary_inv h with ⟨err, hrun, rfl⟩ | ⟨x, u, hrun, h⟩
    · exact .leftError (ihLeft _ _ _ _ hrun hr)
    · have hx := ihLeft _ _ _ _ hrun (genuine_ok x)
      rcases h with ⟨v, hop, rfl⟩ | ⟨hop, ⟨err, hrun, rfl⟩ | ⟨y, hrun, rfl⟩⟩
      · exact .decided hx hop
      · exact .rightError hx hop (ihRight _ _ _ _ hrun hr)
      · exact .operation hx hop (ihRight _ _ _ _ hrun (genuine_ok y))

end Environment

end Reckon
