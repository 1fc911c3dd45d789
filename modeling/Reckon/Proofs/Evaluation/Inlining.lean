import Reckon.Proofs.Evaluation.Circular
import Reckon.Proofs.Evaluation.References

/-!
# Variables in place of their definitions

Where no name refers to itself, a variable is another way to write its definition in parentheses.

* `Acyclic.inline`: a tree with the definitions written out.
* `Ahead`: the variables of a tree come after the names that are being resolved, in the order of
  references. None of them is among those names then.
* `evalWithin_inline`: both trees are evaluated alike, within every budget.
* `Circular.own_of_acyclic`: a circular definition can only come from a function.
* `eval_inline`: the evaluator does not tell the two trees apart.
-/

namespace Reckon.Environment

variable {σ : Type} {env : Environment σ}

/-- The same functions and context, and no variables. -/
def withoutDefinitions (env : Environment σ) : Environment σ := { env with definitions := .empty }

/-! ## Inlining -/

/-- Writes the definition of each variable in its place, in parentheses. A variable without a
definition stays. -/
def Acyclic.inline (h : env.Acyclic) : Expr → Expr
  | .literal x => .literal x
  | .reference name =>
    match _hname : env.definition? name with
    | none => .reference name
    | some definition => .grouping (h.inline definition)
  | .negation operand => .negation (h.inline operand)
  | .binary op left right => .binary op (h.inline left) (h.inline right)
  | .grouping inner => .grouping (h.inline inner)
  | .call name args => .call name (args.attach.map fun arg => h.inline arg.1)
termination_by e => h.wellFounded_under.wrap e
decreasing_by
  · exact .definition _hname
  · exact .negation
  · exact .left
  · exact .right
  · exact .grouping
  · exact .argument arg.2

namespace Acyclic

variable (h : env.Acyclic)

theorem inline_literal (x : Decimal) : h.inline (.literal x) = .literal x := by rw [inline]

theorem inline_reference_of_none {name : String} (hnone : env.definition? name = none) :
    h.inline (.reference name) = .reference name := by
  rw [inline]
  split
  · rfl
  · next hsome => cases hnone.symm.trans hsome

theorem inline_reference_of_some {name : String} {definition : Expr}
    (hsome : env.definition? name = some definition) :
    h.inline (.reference name) = .grouping (h.inline definition) := by
  rw [inline]
  split
  · next hnone => cases hnone.symm.trans hsome
  · next definition' hsome' => rw [Option.some.inj (hsome.symm.trans hsome')]

theorem inline_negation (operand : Expr) :
    h.inline (.negation operand) = .negation (h.inline operand) := by rw [inline]

theorem inline_binary (op : Operator) (left right : Expr) :
    h.inline (.binary op left right) = .binary op (h.inline left) (h.inline right) := by rw [inline]

theorem inline_grouping (inner : Expr) :
    h.inline (.grouping inner) = .grouping (h.inline inner) := by rw [inline]

theorem inline_call (name : String) (args : List Expr) :
    h.inline (.call name args) = .call name (args.map h.inline) := by
  rw [inline, List.attach_map_val]

/-- An operation stays one, and what stands for a variable is none. -/
theorem isOperation_inline (e : Expr) : (h.inline e).isOperation = e.isOperation := by
  cases e with
  | literal x => rw [inline_literal]
  | reference name =>
    cases hname : env.definition? name with
    | none => rw [inline_reference_of_none h hname]
    | some definition => rw [inline_reference_of_some h hname]; rfl
  | negation operand => rw [inline_negation]; rfl
  | binary op left right => rw [inline_binary]; rfl
  | grouping inner => rw [inline_grouping]; rfl
  | call name args => rw [inline_call]; rfl

end Acyclic

/-! ## The names being resolved -/

/-- Every variable of the tree comes after every name of `resolving`. -/
def Ahead (env : Environment σ) (resolving : List String) (e : Expr) : Prop :=
  ∀ key ∈ resolving, ∀ other, e.Mentions other → Relation.TransGen env.Refers key other

namespace Ahead

variable {resolving : List String}

theorem nil (e : Expr) : env.Ahead [] e := nofun

/-- What holds of a tree holds of a tree that mentions no more. -/
theorem mono {part e : Expr} (h : env.Ahead resolving e)
    (hpart : ∀ {key}, part.Mentions key → e.Mentions key) : env.Ahead resolving part :=
  fun key hkey other hother => h key hkey other (hpart hother)

theorem fresh {name : String} (hacyclic : env.Acyclic)
    (h : env.Ahead resolving (.reference name)) : nameKey name ∉ resolving :=
  fun hmem => hacyclic _ (h _ hmem _ (.reference rfl))

theorem definition {name : String} {definition : Expr}
    (h : env.Ahead resolving (.reference name))
    (hsome : env.definition? name = some definition) :
    env.Ahead (resolving ++ [nameKey name]) definition := by
  intro key hkey other hother
  have hrefers : env.Refers (nameKey name) other := ⟨definition, hsome, hother⟩
  rcases List.mem_append.1 hkey with hkey | hkey
  · exact (h key hkey _ (.reference rfl)).tail hrefers
  · rw [List.mem_singleton.1 hkey]
    exact .single hrefers

end Ahead

/-! ## Agreement -/

theorem mapM_map_of_eq {f g : Expr → Run σ Decimal} {inline : Expr → Expr} {args : List Expr}
    (h : ∀ arg ∈ args, f arg = g (inline arg)) : args.mapM f = (args.map inline).mapM g := by
  induction args with
  | nil => rfl
  | cons arg args ih =>
    have hargs := ih fun arg' harg' => h arg' (List.mem_cons_of_mem _ harg')
    rw [List.mapM_cons, List.map_cons, List.mapM_cons, h arg List.mem_cons_self, hargs]

theorem evalWithin_inline (h : env.Acyclic) (budget : Nat) (e : Expr) :
    ∀ resolving, env.Ahead resolving e →
      env.evalWithin budget resolving e =
        env.withoutDefinitions.evalWithin budget [] (h.inline e) := by
  induction budget, e using budget_induction with
  | exhausted e => exact fun _ _ => rfl
  | literal budget value =>
    intro resolving _
    rw [h.inline_literal]
    rfl
  | reference budget name ih =>
    intro resolving hahead
    have hfresh := hahead.fresh h
    cases hname : env.definition? name with
    | none =>
      rw [h.inline_reference_of_none hname, evalWithin_reference_of_none env budget hfresh hname,
        evalWithin_reference_of_none _ budget List.not_mem_nil rfl]
    | some definition =>
      -- The parentheses cost what the variable costs.
      rw [h.inline_reference_of_some hname, evalWithin_reference_of_some env budget hfresh hname,
        evalWithin_grouping]
      exact ih definition _ (hahead.definition hname)
  | grouping budget inner ih =>
    intro resolving hahead
    rw [h.inline_grouping, evalWithin_grouping, evalWithin_grouping]
    exact ih resolving (hahead.mono .grouping)
  | negation budget operand ih =>
    intro resolving hahead
    rw [h.inline_negation, evalWithin_negation, evalWithin_negation,
      ih resolving (hahead.mono .negation)]
  | call budget name args ih =>
    intro resolving hahead
    have hargs := mapM_map_of_eq fun arg harg =>
      ih arg harg resolving (hahead.mono (.argument harg))
    rw [h.inline_call]
    cases hname : env.function? name with
    | none =>
      rw [evalWithin_call_of_none env budget resolving hname,
        evalWithin_call_of_none env.withoutDefinitions budget [] hname]
    | some f =>
      rw [evalWithin_call_of_some env budget resolving hname,
        evalWithin_call_of_some env.withoutDefinitions budget [] hname, hargs]
      rfl
  | binary budget op left right ihLeft ihRight =>
    intro resolving hahead
    -- A variable on the left is charged, and so is the grouping in its place.
    have hbudget : leftBudget budget (h.inline left) = leftBudget budget left := by
      rw [leftBudget, leftBudget, h.isOperation_inline]
    rw [h.inline_binary, evalWithin_binary, evalWithin_binary, hbudget,
      ihLeft resolving (hahead.mono .left), ihRight resolving (hahead.mono .right)]
    rfl

/-- Where no name refers to itself, only a function can fail with a circular definition. -/
theorem Circular.own_of_acyclic (h : env.Acyclic) {path resolving : List String} {e : Expr}
    (hcircular : env.Circular path resolving e) (hahead : env.Ahead resolving e) :
    ∃ name f args s, env.function? name = some f ∧
      ((f env.context args).run s).1 = .error (.circularDefinition path) := by
  induction hcircular with
  | repeated hmem => exact absurd hmem (hahead.fresh h)
  | definition _ hbound _ ih => exact ih (hahead.definition hbound)
  | grouping _ ih => exact ih (hahead.mono .grouping)
  | negation _ ih => exact ih (hahead.mono .negation)
  | argument _ _ _ ih => exact ih (hahead.mono (.argument (by simp)))
  | function hsome _ hown => exact ⟨_, _, _, _, hsome, hown⟩
  | left _ ih => exact ih (hahead.mono .left)
  | right _ _ _ ih => exact ih (hahead.mono .right)

/-- A variable is another way to write its definition: value or error and the state that is left
are the same, and so is the nesting that is too deep. -/
theorem eval_inline (env : Environment σ) (h : env.Acyclic) (e : Expr) :
    env.eval e = env.withoutDefinitions.eval (h.inline e) ∧
      (∀ s, ((env.eval e).run s).1 = .error .nestingTooDeep ↔
        ((env.withoutDefinitions.eval (h.inline e)).run s).1 = .error .nestingTooDeep) ∧
      ∀ s path, ((env.eval e).run s).1 = .error (.circularDefinition path) →
        ∃ name f args s', env.function? name = some f ∧
          ((f env.context args).run s').1 = .error (.circularDefinition path) := by
  have heval : env.eval e = env.withoutDefinitions.eval (h.inline e) :=
    evalWithin_inline h evalBudget e [] (Ahead.nil e)
  refine ⟨heval, fun s => by rw [heval], ?_⟩
  intro s path hpath
  have hcircular := circular_of_run evalBudget e [] s _ path (Prod.ext hpath rfl)
  exact hcircular.own_of_acyclic h (Ahead.nil e)

/-- A variable whose definition calls a counter, and one that uses it twice. -/
def counting : Environment Nat :=
  ((empty.addFunction "next" fun _ _ => do
    let count : Nat ← get
    set (count + 1)
    return .ofInt count).define "x" (.binary (.arithmetic .sub) (.reference "Y")
      (.reference "y"))).define "y" (.call "next" [])

theorem acyclic_counting : counting.Acyclic := by
  refine acyclic_of_rank (fun key => if key = "x" then 1 else 0) ?_
  rintro key other ⟨definition, hfind, hin⟩
  have hentries : counting.definitions.entries = [("x", .binary (.arithmetic .sub)
    (.reference "Y") (.reference "y")), ("y", .call "next" [])] := rfl
  rw [NameTable.find?, hentries, NameTable.lookup_entry, NameTable.lookup_entry] at hfind
  split at hfind
  · next hkey =>
    have hother : other = "y" := by
      cases hfind
      cases hin with
      | left hin =>
        cases hin with
        | reference hsame => exact hsame.symm
      | right hin =>
        cases hin with
        | reference hsame => exact hsame.symm
    rw [hkey, hother]
    decide
  · split at hfind
    · cases hfind
      cases hin with
      | argument hmem => cases hmem
    · cases hfind

theorem eval_counting :
    counting.Acyclic ∧ counting.eval (.reference "x") =
        counting.withoutDefinitions.eval (.grouping (.binary (.arithmetic .sub)
          (.grouping (.call "next" [])) (.grouping (.call "next" [])))) ∧
      (counting.eval (.reference "x")).run 0 = (.ok (.ofInt (-1)), 2) := by
  have h := acyclic_counting
  have hx : counting.definition? "x" = some (.binary (.arithmetic .sub) (.reference "Y")
    (.reference "y")) := rfl
  have hy : counting.definition? "y" = some (.call "next" []) := rfl
  have hY : counting.definition? "Y" = some (.call "next" []) := rfl
  have hinline := (eval_inline counting h (.reference "x")).1
  rw [h.inline_reference_of_some hx, h.inline_binary, h.inline_reference_of_some hY,
    h.inline_reference_of_some hy, h.inline_call] at hinline
  exact ⟨h, hinline, rfl⟩

end Reckon.Environment
