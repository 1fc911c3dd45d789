import Reckon.Proofs.Evaluation.Unguarded

/-!
# Where a circular definition is found

The evaluator stops at a variable whose definition is being evaluated already. Between the tree
that it began with and that variable there are definitions, each mentioning the next one, and
nothing on the way decided that the next one is not needed.

* `Environment.Circular`: the way to the variable, or to a function that fails like this itself.
* `circular_of_run`: where the evaluator reports a circular definition, there is such a way.
* `Unfinished`: definitions whose evaluations all lead there.
* `Evaluates.not_circular`: within those, a tree that leads there has no outcome.
* `eval_guards_sound`: the guards of the evaluator report nothing wrong.
-/

namespace Reckon.Environment

variable {σ : Type} {env : Environment σ}

/-! ## The way to a circular definition -/

/-- The evaluation of the tree, with `resolving` being evaluated, leads to a circular definition. -/
inductive Circular (env : Environment σ) (path : List String) : List String → Expr → Prop where
  | repeated {resolving name} (mem : nameKey name ∈ resolving)
      (path_eq : path = resolving ++ [nameKey name]) : Circular env path resolving (.reference name)
  | definition {resolving name definition} (fresh : nameKey name ∉ resolving)
      (bound : env.definition? name = some definition)
      (inner : Circular env path (resolving ++ [nameKey name]) definition) :
      Circular env path resolving (.reference name)
  | grouping {resolving inner} (inside : Circular env path resolving inner) :
      Circular env path resolving (.grouping inner)
  | negation {resolving operand} (inside : Circular env path resolving operand) :
      Circular env path resolving (.negation operand)
  | argument {resolving name f before arg after xs} (known : env.function? name = some f)
      (values : env.EvaluatesAll before (.ok xs)) (inside : Circular env path resolving arg) :
      Circular env path resolving (.call name (before ++ arg :: after))
  | function {resolving name args f xs s} (known : env.function? name = some f)
      (values : env.EvaluatesAll args (.ok xs))
      (own : ((f env.context xs).run s).1 = .error (.circularDefinition path)) :
      Circular env path resolving (.call name args)
  | left {resolving op left right} (inside : Circular env path resolving left) :
      Circular env path resolving (.binary op left right)
  | right {resolving op left right x} (value : env.Evaluates left (.ok x))
      (undecided : Operator.decided? op x = none) (inside : Circular env path resolving right) :
      Circular env path resolving (.binary op left right)

theorem exists_argument_of_run {f : Expr → Run σ Decimal} {args : List Expr}
    (hf : ∀ arg ∈ args, ∀ s x t, (f arg).run s = (.ok x, t) → env.Evaluates arg (.ok x))
    {s t : σ} {err : EvalError} (h : (args.mapM f).run s = (.error err, t)) :
    ∃ before arg after xs u, args = before ++ arg :: after ∧
      env.EvaluatesAll before (.ok xs) ∧ (f arg).run u = (.error err, t) := by
  induction args generalizing s with
  | nil => cases h
  | cons arg args ih =>
    rcases Run.mapM_cons_inv h with ⟨err, hrun, herr⟩ | ⟨x, u, hrun, h⟩
    · cases herr
      exact ⟨[], arg, args, [], s, rfl, .nil, hrun⟩
    · have hx := hf arg List.mem_cons_self _ _ _ hrun
      rcases h with ⟨err, hruns, herr⟩ | ⟨xs, -, hok⟩
      · cases herr
        obtain ⟨before, arg', after, xs, u', rfl, hxs, hrun'⟩ :=
          ih (fun arg' harg' => hf arg' (List.mem_cons_of_mem _ harg')) hruns
        exact ⟨arg :: before, arg', after, x :: xs, u', rfl, .cons hx hxs, hrun'⟩
      · cases hok

/-- Where the evaluator reports a circular definition, its evaluation leads there. -/
theorem circular_of_run (budget : Nat) (e : Expr) :
    ∀ resolving s t path,
      (env.evalWithin budget resolving e).run s = (.error (.circularDefinition path), t) →
      env.Circular path resolving e := by
  induction budget, e using budget_induction with
  | exhausted e =>
    intro resolving s t path h
    cases h
  | literal budget value =>
    intro resolving s t path h
    cases h
  | reference budget name ih =>
    intro resolving s t path h
    rcases evalWithin_reference_inv h with
      ⟨hmem, herr⟩ | ⟨hfresh, ⟨-, herr⟩ | ⟨definition, hsome, hrun⟩⟩
    · cases herr
      exact .repeated hmem rfl
    · cases herr
    · exact .definition hfresh hsome (ih definition _ _ _ _ hrun)
  | grouping budget inner ih =>
    intro resolving s t path h
    exact .grouping (ih _ _ _ _ h)
  | negation budget operand ih =>
    intro resolving s t path h
    obtain ⟨r, hrun, hr⟩ := evalWithin_negation_inv h
    cases r with
    | error err =>
      cases hr
      exact .negation (ih _ _ _ _ hrun)
    | ok x => cases hr
  | call budget name args ih =>
    intro resolving s t path h
    have hargs : ∀ arg ∈ args, ∀ s x t, (env.evalWithin budget resolving arg).run s = (.ok x, t) →
        env.Evaluates arg (.ok x) :=
      fun arg _ s x t hrun => evaluates_of_run budget arg resolving s _ t hrun (genuine_ok x)
    rcases evalWithin_call_inv h with
      ⟨-, herr⟩ | ⟨f, hsome, ⟨err, hruns, herr⟩ | ⟨xs, u, hruns, h⟩⟩
    · cases herr
    · cases herr
      obtain ⟨before, arg, after, xs, u, rfl, hxs, hrun⟩ := exists_argument_of_run hargs hruns
      exact .argument hsome hxs (ih arg (by simp) _ _ _ _ hrun)
    · have hxs := evaluatesAll_of_run (fun arg _ => evaluates_of_run budget arg resolving) hruns
        (genuine_ok xs)
      exact .function hsome hxs (congrArg Prod.fst h)
  | binary budget op left right ihLeft ihRight =>
    intro resolving s t path h
    rcases evalWithin_binary_inv h with ⟨err, hrun, herr⟩ | ⟨x, u, hrun, h⟩
    · cases herr
      exact .left (ihLeft _ _ _ _ hrun)
    · have hx := evaluates_of_run _ _ _ _ _ _ hrun (genuine_ok x)
      rcases h with ⟨v, -, hr⟩ | ⟨hop, ⟨err, hrun, herr⟩ | ⟨y, -, hr⟩⟩
      · cases hr
      · cases herr
        exact .right hx hop (ihRight _ _ _ _ hrun)
      · cases op.genuine_result env.context x y _ hr.symm

/-! ## Definitions that lead there -/

/-- Variables whose definitions are being evaluated, each within the one before it, where all of
these evaluations lead to a circular definition. -/
inductive Unfinished (env : Environment σ) (path : List String) : List String → Prop where
  | nil : Unfinished env path []
  | concat {resolving name definition} (outer : Unfinished env path resolving)
      (bound : env.definition? name = some definition)
      (circular : env.Circular path (resolving ++ [nameKey name]) definition) :
      Unfinished env path (resolving ++ [nameKey name])

theorem Unfinished.of_mem {path resolving : List String} (h : Unfinished env path resolving)
    {name : String} (hname : nameKey name ∈ resolving) :
    ∃ definition outer, env.definition? name = some definition ∧
      Unfinished env path outer ∧ env.Circular path outer definition := by
  induction h with
  | nil => cases hname
  | @concat resolving name' definition outer bound circular ih =>
    rcases List.mem_append.1 hname with hname | hname
    · exact ih hname
    · have hkey : nameKey name = nameKey name' := List.mem_singleton.1 hname
      have hbound : env.definition? name = some definition := by
        rw [definition?, hkey]
        exact bound
      exact ⟨definition, _, hbound, .concat outer bound circular, circular⟩

/-- Where a variable leads to a circular definition, so does its definition: within the evaluation
that begins now, or within the one that it is in the middle of. -/
theorem Unfinished.definition {path resolving : List String} {name : String}
    (h : Unfinished env path resolving)
    (hcircular : env.Circular path resolving (.reference name)) :
    ∃ definition outer, env.definition? name = some definition ∧
      Unfinished env path outer ∧ env.Circular path outer definition := by
  cases hcircular with
  | repeated hmem => exact h.of_mem hmem
  | @definition _ _ definition _ hbound hinner =>
    exact ⟨definition, _, hbound, .concat h hbound hinner, hinner⟩

/-- A call leads there through an argument, unless the function fails like this itself. -/
theorem Circular.argument_of_call
    (hunguarded : ∀ name f, env.function? name = some f → f.Unguarded)
    {path resolving : List String} {name : String} {args : List Expr}
    (h : env.Circular path resolving (.call name args)) :
    ∃ f before arg after xs, env.function? name = some f ∧ args = before ++ arg :: after ∧
      env.EvaluatesAll before (.ok xs) ∧ env.Circular path resolving arg := by
  cases h with
  | argument hsome hxs hinside => exact ⟨_, _, _, _, _, hsome, rfl, hxs, hinside⟩
  | function hsome _ hown => cases hunguarded _ _ hsome _ _ _ _ hown

mutual

/-- A tree with an outcome does not lead to a circular definition. The induction is on the
derivation of the outcome: that of a variable contains the one of its definition, which cannot
need the variable in turn. -/
theorem Evaluates.not_circular
    (hpure : ∀ name f, env.function? name = some f → f.Pure)
    (hunguarded : ∀ name f, env.function? name = some f → f.Unguarded) {e : Expr}
    {r : Except EvalError Decimal} : env.Evaluates e r → ∀ {path resolving},
      Unfinished env path resolving → ¬ env.Circular path resolving e
  | .literal x, _, _, _, h => by cases h
  | .unbound hnone, _, _, hunfinished, h => by
    obtain ⟨_, _, hsome, -⟩ := hunfinished.definition h
    cases hnone.symm.trans hsome
  | .bound hsome value, _, _, hunfinished, h => by
    obtain ⟨_, _, hsome', houter, hinner⟩ := hunfinished.definition h
    obtain rfl := Option.some.inj (hsome.symm.trans hsome')
    exact value.not_circular hpure hunguarded houter hinner
  | .grouping value, _, _, hunfinished, h => by
    cases h with
    | grouping hinside => exact value.not_circular hpure hunguarded hunfinished hinside
  | .negation value, _, _, hunfinished, h => by
    cases h with
    | negation hinside => exact value.not_circular hpure hunguarded hunfinished hinside
  | .unknown hnone, _, _, _, h => by
    obtain ⟨f, _, _, _, _, hsome, -⟩ := h.argument_of_call hunguarded
    cases hnone.symm.trans hsome
  | .argumentError _ values, _, _, hunfinished, h => by
    obtain ⟨_, _, _, _, _, -, hargs, hxs, hinside⟩ := h.argument_of_call hunguarded
    exact values.not_circular hpure hunguarded hargs hxs hunfinished hinside
  | .call _ values _, _, _, hunfinished, h => by
    obtain ⟨_, _, _, _, _, -, hargs, hxs, hinside⟩ := h.argument_of_call hunguarded
    exact values.not_circular hpure hunguarded hargs hxs hunfinished hinside
  | .leftError value, _, _, hunfinished, h => by
    cases h with
    | left hinside => exact value.not_circular hpure hunguarded hunfinished hinside
    | right hx => cases value.deterministic hpure hx
  | .decided value hdecided, _, _, hunfinished, h => by
    cases h with
    | left hinside => exact value.not_circular hpure hunguarded hunfinished hinside
    | right hx hundecided =>
      cases value.deterministic hpure hx
      cases hdecided.symm.trans hundecided
  | .rightError value _ second, _, _, hunfinished, h => by
    cases h with
    | left hinside => exact value.not_circular hpure hunguarded hunfinished hinside
    | right _ _ hinside => exact second.not_circular hpure hunguarded hunfinished hinside
  | .operation value _ second, _, _, hunfinished, h => by
    cases h with
    | left hinside => exact value.not_circular hpure hunguarded hunfinished hinside
    | right _ _ hinside => exact second.not_circular hpure hunguarded hunfinished hinside

theorem EvaluatesAll.not_circular
    (hpure : ∀ name f, env.function? name = some f → f.Pure)
    (hunguarded : ∀ name f, env.function? name = some f → f.Unguarded) {args : List Expr}
    {r : Except EvalError (List Decimal)} : env.EvaluatesAll args r →
      ∀ {path resolving before arg after xs}, args = before ++ arg :: after →
      env.EvaluatesAll before (.ok xs) → Unfinished env path resolving →
      ¬ env.Circular path resolving arg
  | .nil, _, _, before, _, _, _, hargs, _, _, _ => by
    cases before <;> cases hargs
  | .headError value, _, _, before, _, _, _, hargs, hxs, hunfinished, h => by
    cases before with
    | nil =>
      rw [← (List.cons.inj hargs).1] at h
      exact value.not_circular hpure hunguarded hunfinished h
    | cons arg before =>
      obtain ⟨harg, hargs⟩ := List.cons.inj hargs
      cases hxs with
      | cons hx =>
        rw [← harg] at hx
        cases value.deterministic hpure hx
  | .tailError value values, _, _, before, _, _, _, hargs, hxs, hunfinished, h => by
    cases before with
    | nil =>
      rw [← (List.cons.inj hargs).1] at h
      exact value.not_circular hpure hunguarded hunfinished h
    | cons arg before =>
      obtain ⟨harg, hargs⟩ := List.cons.inj hargs
      cases hxs with
      | cons _ hxs => exact values.not_circular hpure hunguarded hargs hxs hunfinished h
  | .cons value values, _, _, before, _, _, _, hargs, hxs, hunfinished, h => by
    cases before with
    | nil =>
      rw [← (List.cons.inj hargs).1] at h
      exact value.not_circular hpure hunguarded hunfinished h
    | cons arg before =>
      obtain ⟨harg, hargs⟩ := List.cons.inj hargs
      cases hxs with
      | cons _ hxs => exact values.not_circular hpure hunguarded hargs hxs hunfinished h

end

/-! ## Soundness of the guards -/

/-- An outcome that no guard makes is the outcome of the tree, a tree that is said to be circular
has none, and one that has an outcome gets it unless the nesting is too deep. -/
theorem eval_guards_sound (env : Environment σ)
    (hpure : ∀ name f, env.function? name = some f → f.Pure)
    (hunguarded : ∀ name f, env.function? name = some f → f.Unguarded) (e : Expr) (s : σ) :
    (Genuine ((env.eval e).run s).1 → ∀ r, env.Evaluates e r ↔ r = ((env.eval e).run s).1) ∧
      (∀ path, ((env.eval e).run s).1 = .error (.circularDefinition path) →
        ∀ r, ¬ env.Evaluates e r) ∧
      ∀ r, env.Evaluates e r →
        ((env.eval e).run s).1 = r ∨ ((env.eval e).run s).1 = .error .nestingTooDeep := by
  have hgenuine : Genuine ((env.eval e).run s).1 →
      ∀ r, env.Evaluates e r ↔ r = ((env.eval e).run s).1 := by
    intro hgenuine r
    have houtcome := evaluates_of_run evalBudget e [] s _ _ rfl hgenuine
    constructor
    · intro h
      exact h.deterministic hpure houtcome
    · rintro rfl
      exact houtcome
  have hcircular : ∀ path, ((env.eval e).run s).1 = .error (.circularDefinition path) →
      ∀ r, ¬ env.Evaluates e r := by
    intro path hpath r h
    have hway := circular_of_run evalBudget e [] s _ path (Prod.ext hpath rfl)
    exact h.not_circular hpure hunguarded .nil hway
  refine ⟨hgenuine, hcircular, ?_⟩
  intro r h
  by_cases hdeep : ((env.eval e).run s).1 = .error .nestingTooDeep
  · exact .inr hdeep
  · have hr : Genuine ((env.eval e).run s).1 := by
      intro err herr
      cases err with
      | circularDefinition path => exact absurd h (hcircular path herr r)
      | nestingTooDeep => exact absurd herr hdeep
      | _ => rfl
    exact .inl ((hgenuine hr r).1 h).symm

/-- Two variables that mention themselves, the first where it is not needed. -/
def selfReferences : Environment Unit :=
  (Session.new.env.define "x" (.binary (.logic .or) (.literal .one) (.reference "X"))).define "y"
    (.negation (.reference "y"))

theorem selfReferences_outcomes :
    (∀ r, selfReferences.Evaluates (.reference "x") r ↔ r = .ok .one) ∧
      ∀ r, ¬ selfReferences.Evaluates (.reference "y") r := by
  have hfunction : ∀ name f, selfReferences.function? name = some f →
      (Session.new : Session Unit).env.function? name = some f := by
    intro name f h
    rwa [selfReferences, function?_define, function?_define] at h
  have hpure : ∀ name f, selfReferences.function? name = some f → f.Pure :=
    fun name f h => Session.pure_function (hfunction name f h)
  have hunguarded : ∀ name f, selfReferences.function? name = some f → f.Unguarded :=
    fun name f h => Session.unguarded_function (hfunction name f h)
  have hx : ((selfReferences.eval (.reference "x")).run ()).1 = .ok .one := rfl
  have hy : ((selfReferences.eval (.reference "y")).run ()).1 =
      .error (.circularDefinition ["y", "y"]) := rfl
  constructor
  · have h := (eval_guards_sound selfReferences hpure hunguarded (.reference "x") ()).1
    rw [hx] at h
    exact h (genuine_ok _)
  · exact (eval_guards_sound selfReferences hpure hunguarded (.reference "y") ()).2.1 ["y", "y"] hy

end Reckon.Environment
