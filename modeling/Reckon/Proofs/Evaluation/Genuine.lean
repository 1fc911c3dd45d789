import Mathlib.Data.List.Nodup
import Reckon.Proofs.Evaluation.Reported
import Reckon.Proofs.Session.Slots

/-!
# Errors that are not of the guards

The evaluator watches the nesting and the definitions that are being evaluated. All other errors
come from names, operators and functions.

* `Genuine`: an outcome that no guard makes. What is reported of values is such,
  `Reports.genuine`.
* `Operator.genuine_result`: an operator has no other outcomes.
* `Function.Pure`, `Function.Unguarded`: functions whose outcome is that of their arguments, and
  that leave the errors of the guards to them. `Function.Avoids`: functions that leave out one
  error.
* `Session.pure_function`, `Session.unguarded_function`: the standard functions are such.
-/

namespace Reckon

/-- Whether a guard of the evaluator makes the error. -/
def EvalError.ofGuard : EvalError → Bool
  | circularDefinition _ => true
  | nestingTooDeep => true
  | _ => false

/-- A value, or an error that no guard makes. -/
def Genuine {α : Type} (r : Except EvalError α) : Prop :=
  ∀ err, r = .error err → err.ofGuard = false

theorem genuine_ok {α : Type} (x : α) : Genuine (.ok x) := by
  rintro err ⟨⟩

theorem genuine_error {α : Type} {err : EvalError} (h : err.ofGuard = false) :
    Genuine (.error err : Except _ α) := by
  rintro _ ⟨⟩
  exact h

theorem Genuine.error {α β : Type} {err : EvalError} (h : Genuine (.error err : Except _ α)) :
    Genuine (.error err : Except _ β) :=
  genuine_error (h err rfl)

theorem Reports.genuine {α : Type} {r : Except EvalError α} (h : Reports r) : Genuine r := by
  intro err herr
  cases h err herr <;> rfl

/-- No operator fails the way a guard does. -/
theorem Operator.genuine_result (op : Operator) (c : Context) (x y : Decimal) :
    Genuine (op.result c x y) :=
  (op.reports_result c x y).genuine

/-! ## Functions -/

namespace Function

variable {σ : Type}

/-- The outcome depends on the context and the arguments alone. -/
def Pure (f : Function σ) : Prop :=
  ∀ c args s t, ((f c args).run s).1 = ((f c args).run t).1

/-- The function never fails the way the guards of the evaluator do. -/
def Unguarded (f : Function σ) : Prop := ∀ c args s, Genuine ((f c args).run s).1

/-- The function never fails with the given error. -/
def Avoids (f : Function σ) (err : EvalError) : Prop :=
  ∀ c args s, ((f c args).run s).1 ≠ .error err

theorem Unguarded.avoids {f : Function σ} (h : f.Unguarded) {err : EvalError}
    (herr : err.ofGuard = true) : f.Avoids err := by
  intro c args s hrun
  exact Bool.false_ne_true ((h c args s err hrun).symm.trans herr)

end Function

theorem Primitive.pure_function {σ : Type} (b : Primitive) : (b.function : Function σ).Pure := by
  intro c args s t
  rw [function, Run.run_ofExcept, Run.run_ofExcept]

/-! ## Standard functions -/

namespace Session

variable {σ : Type} {name : String} {f : Function σ}

theorem function?_new (h : (new : Session σ).env.function? name = some f) :
    ∃ b ∈ Standard.functions, f = b.function := by
  obtain ⟨b, hb, rfl⟩ := Option.map_eq_some_iff.1 ((find?_functions_new _).symm.trans h)
  exact ⟨b, List.mem_of_find?_eq_some hb, rfl⟩

/-- Each standard function is bound to its own name. -/
theorem function?_of_mem {b : Primitive} (hb : b ∈ Standard.functions) :
    (new : Session σ).env.function? b.name = some b.function := by
  have hnames : (Standard.functions.map fun b => nameKey b.name).Nodup := by decide +kernel
  have hfirst : (Standard.functions.find? fun b' => nameKey b'.name = nameKey b.name) = some b := by
    cases hfound : Standard.functions.find? fun b' => nameKey b'.name = nameKey b.name with
    | none => exact absurd (decide_eq_true rfl) (List.find?_eq_none.1 hfound b hb)
    | some b' =>
      have hkey : nameKey b'.name = nameKey b.name := by simpa using List.find?_some hfound
      have hmem := List.mem_of_find?_eq_some hfound
      exact congrArg some (List.inj_on_of_nodup_map hnames hmem hb hkey)
  rw [Environment.function?, find?_functions_new, hfirst]
  rfl

/-- The standard functions share no state. -/
theorem pure_function (h : (new : Session σ).env.function? name = some f) : f.Pure := by
  obtain ⟨b, -, rfl⟩ := function?_new h
  exact b.pure_function

theorem unguarded_function (h : (new : Session σ).env.function? name = some f) : f.Unguarded := by
  obtain ⟨b, hb, rfl⟩ := function?_new h
  intro c args s
  rw [Primitive.function, Run.run_ofExcept]
  exact (Standard.reports_call hb c args).genuine

end Session

end Reckon
