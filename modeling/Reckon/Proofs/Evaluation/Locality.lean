import Reckon.Proofs.Evaluation.Agreement

/-!
# What an evaluation can see of its environment

* `Environment.ReachesVariable`, `Environment.ReachesCall`: a variable or a call occurs in a tree,
  or in the definition of a variable that is reached from it.
* `agreeAt_define`, `agreeAt_addFunction`: environments that differ in one name agree at all nodes
  but those of the name.
* `eval_eq_of_unreached`: so a name that is not reached may be defined in any way, also where the
  definitions go round in a circle. Variables and functions do not get into each other's way.
-/

namespace Reckon.Environment

variable {σ : Type} {env : Environment σ} {e : Expr}

/-! ## Names that are reached -/

/-- A variable with the key occurs in the tree, or in the definition of a variable that does so. -/
def ReachesVariable (env : Environment σ) (e : Expr) (key : String) : Prop :=
  ∃ name, nameKey name = key ∧ Relation.ReflTransGen env.Under (.reference name) e

/-- A call of the key occurs in the tree, or in the definition of a variable that is reached. -/
def ReachesCall (env : Environment σ) (e : Expr) (key : String) : Prop :=
  ∃ name args, nameKey name = key ∧ Relation.ReflTransGen env.Under (.call name args) e

/-! ## One name apart -/

theorem agreeAt_of_same {env' : Environment σ} (hcontext : env'.context = env.context)
    {part : Expr}
    (hdefinition : ∀ name, part = .reference name → env'.definition? name = env.definition? name)
    (hfunction : ∀ name args, part = .call name args →
      env'.function? name = env.function? name) : env.AgreeAt env' part := by
  cases part with
  | reference name => exact (hdefinition name rfl).symm
  | call name args =>
    show Option.Rel _ (env.function? name) (env'.function? name)
    rw [hfunction name args rfl, hcontext]
    cases env.function? name with
    | none => exact .none
    | some f => exact .some fun xs => rfl
  | binary op left right =>
    intro budget resolving x
    rw [hcontext]
  | _ => trivial

theorem agreeAt_define {part : Expr} {name : String}
    (h : ∀ other, part = .reference other → nameKey other ≠ nameKey name) (definition : Expr) :
    env.AgreeAt (env.define name definition) part := by
  have hcontext : (env.define name definition).context = env.context := rfl
  apply agreeAt_of_same hcontext
  · intro other hother
    rw [definition?_define, if_neg (h other hother)]
  · intro other args _
    exact function?_define env name other definition

theorem agreeAt_addFunction {part : Expr} {name : String}
    (h : ∀ other args, part = .call other args → nameKey other ≠ nameKey name)
    (f : Function σ) : env.AgreeAt (env.addFunction name f) part := by
  have hcontext : (env.addFunction name f).context = env.context := rfl
  apply agreeAt_of_same hcontext
  · intro other _
    rfl
  · intro other args hother
    rw [function?_addFunction, if_neg (h other args hother)]

/-- The definition of a variable that is not reached makes no difference to an evaluation, and
neither does a function that is not called there: value or error, and the state that is left. -/
theorem eval_eq_of_unreached (env : Environment σ) (e : Expr) (name : String) :
    (¬ env.ReachesVariable e (nameKey name) →
      ∀ definition, (env.define name definition).eval e = env.eval e) ∧
    (¬ env.ReachesCall e (nameKey name) →
      ∀ f, (env.addFunction name f).eval e = env.eval e) := by
  constructor
  · intro hunreached definition
    apply (eval_eq_of_agree _).symm
    intro part hreached
    apply agreeAt_define
    rintro other rfl hkey
    exact hunreached ⟨other, hkey, hreached⟩
  · intro hunreached f
    apply (eval_eq_of_agree _).symm
    intro part hreached
    apply agreeAt_addFunction
    rintro other args rfl hkey
    exact hunreached ⟨other, args, hkey, hreached⟩

/-- Two variables that are defined as each other. -/
def roundabout : Environment Unit :=
  (empty.define "a" (.reference "B")).define "b" (.reference "a")

theorem throughout_roundabout : roundabout.Throughout
    (fun part => part = .reference "a" ∨ part = .reference "B") (.reference "a") := by
  refine throughout_of_closed (.inl rfl) ?_
  rintro part whole hunder (rfl | rfl)
  · cases hunder with
    | definition hbound => exact .inr (Option.some.inj hbound).symm
  · cases hunder with
    | definition hbound => exact .inl (Option.some.inj hbound).symm

/-- The function has the name of a variable that is reached. -/
theorem eval_roundabout :
    let e : Expr := .reference "a"
    let f : Function Unit := fun _ _ => pure .zero
    ¬ roundabout.ReachesVariable e (nameKey "c") ∧ ¬ roundabout.ReachesCall e (nameKey "A") ∧
      (roundabout.define "c" (.reference "a")).eval e = roundabout.eval e ∧
      (roundabout.addFunction "A" f).eval e = roundabout.eval e ∧
      (roundabout.eval e).run () = (.error (.circularDefinition ["a", "b", "a"]), ()) := by
  intro e f
  have hvariable : ¬ roundabout.ReachesVariable e (nameKey "c") := by
    rintro ⟨name, hkey, hreached⟩
    rcases throughout_roundabout _ hreached with heq | heq <;> cases heq <;>
      exact absurd hkey (by decide)
  have hcall : ¬ roundabout.ReachesCall e (nameKey "A") := by
    rintro ⟨name, args, -, hreached⟩
    rcases throughout_roundabout _ hreached with heq | heq <;> cases heq
  have hunreached := eval_eq_of_unreached roundabout e
  exact ⟨hvariable, hcall, (hunreached "c").1 hvariable _, (hunreached "A").2 hcall f, rfl⟩

end Reckon.Environment
