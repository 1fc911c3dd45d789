import Reckon.Proofs.Evaluation.Budget
import Reckon.Proofs.Text.CaseVariants

/-!
# Names that differ in case

* `eval_reference_congr`, `eval_call_congr`: names with the same key are the same variable and the
  same function.
* `resolve_caseVariant`: names whose characters have the same lower cases one by one are the same
  name exactly when they have the capital sigmas that end a word at the same places.
-/

namespace Reckon.Environment

variable {σ : Type}

theorem eval_reference_congr {env : Environment σ} {a b : String} (h : nameKey a = nameKey b)
    {e : Expr} (he : env.definition? a = some e) :
    env.eval (.reference b) = env.eval (.reference a) := by
  have he' : env.definition? b = some e := by rwa [definition?, ← h]
  have hnew (name : String) : nameKey name ∉ [] := List.not_mem_nil
  rw [eval, eval, evalBudget, evalWithin_reference_of_some env 255 (hnew b) he',
    evalWithin_reference_of_some env 255 (hnew a) he, h]

theorem eval_call_congr {env : Environment σ} {a b : String} (h : nameKey a = nameKey b)
    {f : Function σ} (hf : env.function? a = some f) (args : List Expr) :
    env.eval (.call b args) = env.eval (.call a args) := by
  have hf' : env.function? b = some f := by rwa [function?, ← h]
  rw [eval, eval, evalBudget, evalWithin_call_of_some env 255 [] hf',
    evalWithin_call_of_some env 255 [] hf]

/-- What is defined under a name is found under each of its case variants, as a variable and as a
function, if the two have the same capital sigmas at the ends of words. Otherwise the definition
does not touch the variant. -/
theorem resolve_caseVariant {a b : String} (h : Text.CaseVariants a b) (env : Environment σ)
    (e : Expr) (f : Function σ) :
    (Text.finalSigmas a = Text.finalSigmas b →
      (env.define a e).definition? b = some e ∧
      (env.define a e).eval (.reference b) = (env.define a e).eval (.reference a) ∧
      (env.addFunction a f).function? b = some f ∧
      ∀ args, (env.addFunction a f).eval (.call b args) =
        (env.addFunction a f).eval (.call a args)) ∧
    (Text.finalSigmas a ≠ Text.finalSigmas b →
      (env.define a e).definition? b = env.definition? b ∧
      (env.addFunction a f).function? b = env.function? b) := by
  have hkey : nameKey a = nameKey b ↔ Text.finalSigmas a = Text.finalSigmas b :=
    Text.lowercase_eq_iff h
  constructor
  · intro hsigmas
    have hsame := hkey.2 hsigmas
    have hvariable : (env.define a e).definition? a = some e := by
      rw [definition?_define, if_pos rfl]
    have hfunction : (env.addFunction a f).function? a = some f := by
      rw [function?_addFunction, if_pos rfl]
    refine ⟨?_, eval_reference_congr hsame hvariable, ?_, eval_call_congr hsame hfunction⟩
    · rw [definition?_define, if_pos hsame.symm]
    · rw [function?_addFunction, if_pos hsame.symm]
  · intro hsigmas
    have hother : nameKey b ≠ nameKey a := fun hsame => hsigmas (hkey.1 hsame.symm)
    rw [definition?_define, function?_addFunction, if_neg hother, if_neg hother]
    exact ⟨rfl, rfl⟩

/-- Two capital words, in which the last sigma ends the word and the first does not. -/
theorem resolve_caseVariant_capitals :
    let env : Environment Unit := empty
    let e : Expr := .literal .one
    let f : Function Unit := fun _ _ => pure .one
    Text.CaseVariants "ΣΤΑΣ" "σταΣ" ∧ Text.finalSigmas "ΣΤΑΣ" = [false, false, false, true] ∧
      (env.define "ΣΤΑΣ" e).definition? "σταΣ" = some e ∧
      (env.define "ΣΤΑΣ" e).eval (.reference "σταΣ") =
        (env.define "ΣΤΑΣ" e).eval (.reference "ΣΤΑΣ") ∧
      (env.addFunction "ΣΤΑΣ" f).function? "σταΣ" = some f ∧
      ∀ args, (env.addFunction "ΣΤΑΣ" f).eval (.call "σταΣ" args) =
        (env.addFunction "ΣΤΑΣ" f).eval (.call "ΣΤΑΣ" args) := by
  intro env e f
  have hvariants : Text.CaseVariants "ΣΤΑΣ" "σταΣ" := by
    unfold Text.CaseVariants
    decide
  exact ⟨hvariants, by decide, (resolve_caseVariant hvariants env e f).1 (by decide)⟩

/-- A capital sigma at the end of a name: its own lower case alone is another name. -/
theorem eval_lost_sigma :
    let env : Environment Unit := empty.define "xΣ" (.literal .one)
    let f : Function Unit := fun _ _ => pure .one
    Text.CaseVariants "xΣ" "xσ" ∧
      (env.eval (.reference "xΣ")).run () = (.ok .one, ()) ∧
      (env.eval (.reference "xσ")).run () = (.error (.undefinedVariable "xσ"), ()) ∧
      env.definition? "xσ" = none ∧ (env.addFunction "xΣ" f).function? "xσ" = none := by
  intro env f
  have hvariants : Text.CaseVariants "xΣ" "xσ" := by
    unfold Text.CaseVariants
    decide
  exact ⟨hvariants, rfl, rfl, rfl, rfl⟩

end Reckon.Environment
