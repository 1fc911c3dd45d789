import Reckon.Environment
import Mathlib.Data.Set.Finite.Basic
import Mathlib.Logic.Relation

/-!
# References between definitions

* `Expr.Mentions`: a tree contains a variable.
* `Environment.Refers`: the definition of one name mentions another one. Names are in the form
  under which they are looked up.
* `Environment.Acyclic`: no name refers to itself, through any number of definitions.
* `acyclic_of_rank`: so it is when names refer to names of a smaller rank.
* `wellFounded_under`: then descending into a tree and into the definitions of its variables
  comes to an end.
* `Environment.Throughout`: what holds of a tree and of all that is reached by such a descent.
-/

namespace Reckon

/-- The tree contains a variable with the given key. -/
inductive Expr.Mentions (key : String) : Expr → Prop where
  | reference {name} (same : nameKey name = key) : Mentions key (.reference name)
  | grouping {inner} (inside : Mentions key inner) : Mentions key (.grouping inner)
  | negation {operand} (inside : Mentions key operand) : Mentions key (.negation operand)
  | left {op left right} (inside : Mentions key left) : Mentions key (.binary op left right)
  | right {op left right} (inside : Mentions key right) : Mentions key (.binary op left right)
  | argument {name args arg} (mem : arg ∈ args) (inside : Mentions key arg) :
      Mentions key (.call name args)

namespace Environment

variable {σ : Type} {env : Environment σ}

/-- The definition of `key` mentions `other`. -/
def Refers (env : Environment σ) (key other : String) : Prop :=
  ∃ definition, env.definitions.find? key = some definition ∧ definition.Mentions other

def Acyclic (env : Environment σ) : Prop := ∀ key, ¬ Relation.TransGen env.Refers key key

theorem acyclic_of_rank (rank : String → Nat)
    (h : ∀ key other, env.Refers key other → rank other < rank key) : env.Acyclic := by
  have hlt : ∀ key other, Relation.TransGen env.Refers key other → rank other < rank key := by
    intro key other hpath
    induction hpath with
    | single hrefers => exact h _ _ hrefers
    | tail _ hrefers ih => exact Nat.lt_trans (h _ _ hrefers) ih
  intro key hpath
  exact Nat.lt_irrefl _ (hlt key key hpath)

/-! ## Descent -/

theorem mem_names_of_refers {key other : String} (h : env.Refers key other) :
    key ∈ env.definitions.names := by
  obtain ⟨definition, hfind, -⟩ := h
  have hsome : (env.definitions.entries.lookup key).isSome := Option.isSome_of_eq_some hfind
  obtain ⟨entry, hentry, hkey⟩ := List.lookup_isSome_iff.1 hsome
  rw [beq_iff_eq] at hkey
  rw [hkey]
  exact List.mem_map_of_mem hentry

/-- Only finitely many names have definitions, so no path of references goes on forever. -/
theorem Acyclic.wellFounded_refers (h : env.Acyclic) :
    WellFounded fun other key => env.Refers key other := by
  let Bound := {key // key ∈ env.definitions.names}
  let Below : Bound → Bound → Prop := fun other key => Relation.TransGen env.Refers key other
  have htrans : IsTrans Bound Below := ⟨fun _ _ _ hab hbc => hbc.trans hab⟩
  have hirrefl : Std.Irrefl Below := ⟨fun key => h key⟩
  have hfinite : Finite Bound := (List.finite_toSet env.definitions.names).to_subtype
  have hbelow : WellFounded Below := Finite.wellFounded_of_trans_of_irrefl Below
  have hbound : ∀ key : Bound, Acc (fun other key => env.Refers key other) key.1 := by
    intro key
    induction key using hbelow.induction with
    | _ key ih =>
      refine Acc.intro _ fun other hrefers => ?_
      by_cases hother : other ∈ env.definitions.names
      · exact ih ⟨other, hother⟩ (.single hrefers)
      · exact Acc.intro _ fun _ hrefers' => absurd (mem_names_of_refers hrefers') hother
  refine ⟨fun key => ?_⟩
  by_cases hkey : key ∈ env.definitions.names
  · exact hbound ⟨key, hkey⟩
  · exact Acc.intro _ fun _ hrefers => absurd (mem_names_of_refers hrefers) hkey

/-- A tree that is part of another one, or the definition of a variable. -/
inductive Under (env : Environment σ) : Expr → Expr → Prop where
  | definition {name definition} (bound : env.definition? name = some definition) :
      Under env definition (.reference name)
  | grouping {inner} : Under env inner (.grouping inner)
  | negation {operand} : Under env operand (.negation operand)
  | left {op left right} : Under env left (.binary op left right)
  | right {op left right} : Under env right (.binary op left right)
  | argument {name args arg} (mem : arg ∈ args) : Under env arg (.call name args)

theorem acc_under {e : Expr} (h : ∀ key definition, e.Mentions key →
    env.definitions.find? key = some definition → Acc env.Under definition) :
    Acc env.Under e := by
  induction e with
  | literal x => exact Acc.intro _ nofun
  | reference name =>
    refine Acc.intro _ fun part hpart => ?_
    cases hpart with
    | definition hbound => exact h _ _ (.reference rfl) hbound
  | negation operand ih =>
    refine Acc.intro _ fun part hpart => ?_
    cases hpart with
    | negation => exact ih fun key definition hin => h key definition (.negation hin)
  | binary op left right ihLeft ihRight =>
    refine Acc.intro _ fun part hpart => ?_
    cases hpart with
    | left => exact ihLeft fun key definition hin => h key definition (.left hin)
    | right => exact ihRight fun key definition hin => h key definition (.right hin)
  | grouping inner ih =>
    refine Acc.intro _ fun part hpart => ?_
    cases hpart with
    | grouping => exact ih fun key definition hin => h key definition (.grouping hin)
  | call name args ih =>
    refine Acc.intro _ fun part hpart => ?_
    cases hpart with
    | argument hmem =>
      exact ih _ hmem fun key definition hin => h key definition (.argument hmem hin)

theorem Acyclic.wellFounded_under (h : env.Acyclic) : WellFounded env.Under := by
  have hdefinition : ∀ key definition, env.definitions.find? key = some definition →
      Acc env.Under definition := by
    intro key
    induction key using h.wellFounded_refers.induction with
    | _ key ih =>
      intro definition hfind
      exact acc_under fun other _ hin => ih other ⟨definition, hfind, hin⟩ _
  exact ⟨fun e => acc_under fun key definition _ => hdefinition key definition⟩

/-- Every node of the tree, and of the definitions that are reached from it, has the property. -/
def Throughout (env : Environment σ) (P : Expr → Prop) (e : Expr) : Prop :=
  ∀ part, Relation.ReflTransGen env.Under part e → P part

theorem Throughout.here {P : Expr → Prop} {e : Expr} (h : env.Throughout P e) : P e := h e .refl

theorem Throughout.under {P : Expr → Prop} {part e : Expr} (h : env.Throughout P e)
    (hpart : env.Under part e) : env.Throughout P part :=
  fun _ hreached => h _ (hreached.tail hpart)

theorem Throughout.of_parts {P : Expr → Prop} {e : Expr} (h : P e)
    (hparts : ∀ part, env.Under part e → env.Throughout P part) : env.Throughout P e := by
  intro part hreached
  rcases hreached.cases_tail with rfl | ⟨below, hpart, hunder⟩
  · exact h
  · exact hparts below hunder part hpart

/-- What the parts of a node have in common with it holds throughout, also where definitions go
round in a circle. -/
theorem throughout_of_closed {P : Expr → Prop} {e : Expr} (h : P e)
    (hclosed : ∀ part whole, env.Under part whole → P whole → P part) : env.Throughout P e := by
  intro part hreached
  induction hreached using Relation.ReflTransGen.head_induction_on with
  | refl => exact h
  | head hunder _ ih => exact hclosed _ _ hunder ih

theorem throughout_literal {P : Expr → Prop} {x : Decimal} (h : P (.literal x)) :
    env.Throughout P (.literal x) := by
  refine Throughout.of_parts h ?_
  intro part hpart
  cases hpart

end Environment

end Reckon
