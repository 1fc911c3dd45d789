import Reckon.Environment.Evaluation

/-!
# Evaluation one node at a time

* `Environment.leftBudget`: the budget of a left operand. An operation there is not charged.
* `Environment.evalWithin_binary` and the other equations: the value of a node by the values of
  its parts.
* `Operator.decided?`, `Operator.result`: an operator applied to the value of its left operand
  alone, where that decides, and to both values.
* `Run.bind_inv`, `Environment.evalWithin_binary_inv` and the others: what the parts of a run do.
* `Environment.budget_induction`: what holds of a node whenever it holds of its parts, within
  their budgets, holds of every tree within every budget.
-/

namespace Reckon

def Expr.isOperation : Expr → Bool
  | binary .. => true
  | _ => false

/-! ## Operators -/

namespace Operator

/-- The value that a left operand decides alone. -/
def decided? : Operator → Decimal → Option Decimal
  | logic .and, x => if x.isZero then some .zero else none
  | logic .or, x => if x.isZero then none else some .one
  | _, _ => none

/-- The outcome for the values of both operands. -/
def result (c : Context) : Operator → Decimal → Decimal → Except EvalError Decimal
  | arithmetic op, x, y => op.apply c x y
  | comparison op, x, y => .ok (.ofBool (op.holds x y))
  | logic _, _, y => .ok (.ofBool !y.isZero)

end Operator

/-! ## Runs -/

namespace Run

variable {σ α β : Type}

theorem run_ofExcept (r : Except EvalError α) (s : σ) : (ofExcept r).run s = (r, s) := by
  cases r <;> rfl

section Bind

variable {x : Run σ α} {f : α → Run σ β} {s t : σ}

theorem run_bind_of_ok {a : α} (h : x.run s = (.ok a, t)) : (x >>= f).run s = (f a).run t := by
  rw [ExceptT.run_bind]
  simp [bind, StateT.bind, h]

theorem run_bind_of_error {err : EvalError} (h : x.run s = (.error err, t)) :
    (x >>= f).run s = (.error err, t) := by
  rw [ExceptT.run_bind]
  simp [bind, StateT.bind, h]
  rfl

/-- A run of two parts ends with the first one or goes on from where that ends. -/
theorem bind_inv {r : Except EvalError β} (h : (x >>= f).run s = (r, t)) :
    (∃ err, x.run s = (.error err, t) ∧ r = .error err) ∨
      ∃ v u, x.run s = (.ok v, u) ∧ (f v).run u = (r, t) := by
  rcases hx : x.run s with ⟨err | v, u⟩
  · rw [run_bind_of_error hx] at h
    obtain ⟨rfl, rfl⟩ := Prod.mk.inj h
    exact .inl ⟨err, rfl, rfl⟩
  · rw [run_bind_of_ok hx] at h
    exact .inr ⟨v, u, rfl, h⟩

end Bind

theorem mapM_cons_inv {f : α → Run σ β} {a : α} {as : List α} {s t : σ}
    {r : Except EvalError (List β)} (h : ((a :: as).mapM f).run s = (r, t)) :
    (∃ err, (f a).run s = (.error err, t) ∧ r = .error err) ∨
      ∃ b u, (f a).run s = (.ok b, u) ∧
        ((∃ err, (as.mapM f).run u = (.error err, t) ∧ r = .error err) ∨
          ∃ bs, (as.mapM f).run u = (.ok bs, t) ∧ r = .ok (b :: bs)) := by
  rw [List.mapM_cons] at h
  refine (bind_inv h).imp_right ?_
  rintro ⟨b, u, hrun, h⟩
  refine ⟨b, u, hrun, (bind_inv h).imp_right ?_⟩
  rintro ⟨bs, u', hrun', h⟩
  cases h
  exact ⟨bs, hrun', rfl⟩

/-- A run of arguments that fails ends with one of them. -/
theorem exists_of_mapM_error {f : α → Run σ β} {as : List α} {s t : σ} {err : EvalError}
    (h : (as.mapM f).run s = (.error err, t)) :
    ∃ a ∈ as, ∃ u, (f a).run u = (.error err, t) := by
  induction as generalizing s with
  | nil => cases h
  | cons a as ih =>
    rcases mapM_cons_inv h with ⟨_, hrun, herr⟩ | ⟨b, u, -, ⟨_, hruns, herr⟩ | ⟨bs, -, hok⟩⟩
    · cases herr
      exact ⟨a, List.mem_cons_self, s, hrun⟩
    · cases herr
      obtain ⟨a', ha', hrun⟩ := ih hruns
      exact ⟨a', List.mem_cons_of_mem _ ha', hrun⟩
    · cases hok

end Run

namespace Environment

/-- The budget of the left operand of an operation whose operands have the given budget. -/
def leftBudget (budget : Nat) (left : Expr) : Nat :=
  if left.isOperation then budget + 1 else budget

theorem leftBudget_binary (budget : Nat) (op : Operator) (left right : Expr) :
    leftBudget budget (.binary op left right) = budget + 1 := rfl

theorem leftBudget_of_not {left : Expr} (h : left.isOperation = false) (budget : Nat) :
    leftBudget budget left = budget := by
  rw [leftBudget, h]
  rfl

theorem leftBudget_le (budget : Nat) (left : Expr) : leftBudget budget left ≤ budget + 1 := by
  unfold leftBudget
  split <;> omega

/-- Induction on the budget, and along left operands with the budget unchanged. -/
theorem budget_induction {motive : Nat → Expr → Prop} (exhausted : ∀ e, motive 0 e)
    (literal : ∀ budget value, motive (budget + 1) (.literal value))
    (reference : ∀ budget name, (∀ definition, motive budget definition) →
      motive (budget + 1) (.reference name))
    (grouping : ∀ budget inner, motive budget inner → motive (budget + 1) (.grouping inner))
    (negation : ∀ budget operand, motive budget operand →
      motive (budget + 1) (.negation operand))
    (call : ∀ budget name args, (∀ arg ∈ args, motive budget arg) →
      motive (budget + 1) (.call name args))
    (binary : ∀ budget op left right, motive (leftBudget budget left) left →
      motive budget right → motive (budget + 1) (.binary op left right)) :
    ∀ budget e, motive budget e := by
  intro budget
  induction budget with
  | zero => exact exhausted
  | succ budget ih =>
    intro e
    induction e with
    | literal value => exact literal budget value
    | reference name => exact reference budget name ih
    | negation operand => exact negation budget operand (ih operand)
    | grouping inner => exact grouping budget inner (ih inner)
    | call name args => exact call budget name args fun arg _ => ih arg
    | binary op left right ihLeft =>
      refine binary budget op left right ?_ (ih right)
      -- An operation on the left keeps the budget: the hypothesis on the tree is the one to use.
      cases hleft : left.isOperation with
      | true => simpa only [leftBudget, hleft, if_true] using ihLeft
      | false =>
        rw [leftBudget_of_not hleft]
        exact ih left

/-! ## Equations -/

variable {σ : Type} (env : Environment σ) (budget : Nat) (resolving : List String)

theorem evalWithin_grouping (inner : Expr) :
    env.evalWithin (budget + 1) resolving (.grouping inner) =
      env.evalWithin budget resolving inner := rfl

theorem evalWithin_negation (operand : Expr) :
    env.evalWithin (budget + 1) resolving (.negation operand) =
      (do return (← env.evalWithin budget resolving operand).neg) := rfl

section Reference

variable {name : String} {resolving}

theorem evalWithin_reference_of_mem (h : nameKey name ∈ resolving) :
    env.evalWithin (budget + 1) resolving (.reference name) =
      throw (.circularDefinition (resolving ++ [nameKey name])) := if_pos h

theorem evalWithin_reference_of_none (h : nameKey name ∉ resolving)
    (hnone : env.definition? name = none) :
    env.evalWithin (budget + 1) resolving (.reference name) =
      throw (.undefinedVariable name) := by
  unfold definition? at hnone
  simp only [evalWithin, if_neg h, hnone]

theorem evalWithin_reference_of_some {definition : Expr} (h : nameKey name ∉ resolving)
    (hsome : env.definition? name = some definition) :
    env.evalWithin (budget + 1) resolving (.reference name) =
      env.evalWithin budget (resolving ++ [nameKey name]) definition := by
  unfold definition? at hsome
  simp only [evalWithin, if_neg h, hsome]

end Reference

section Call

variable {name : String}

theorem evalWithin_call_of_none (h : env.function? name = none) (args : List Expr) :
    env.evalWithin (budget + 1) resolving (.call name args) =
      throw (.undefinedFunction name) := by
  simp only [evalWithin, h]

theorem evalWithin_call_of_some {f : Function σ} (h : env.function? name = some f)
    (args : List Expr) :
    env.evalWithin (budget + 1) resolving (.call name args) =
      (do f env.context (← args.mapM (env.evalWithin budget resolving))) := by
  simp only [evalWithin, h]

end Call

/-- The operators of a spine applied in turn, the value of its first operand given. -/
theorem evalWithin_spine (e : Expr) :
    (do
      e.spine.2.foldlM (fun value step =>
        applyStep env.context step.1 value (env.evalWithin budget resolving step.2))
        (← env.evalWithin budget resolving e.spine.1)) =
      env.evalWithin (leftBudget budget e) resolving e := by
  cases e with
  | binary op left right => rfl
  | _ => exact bind_pure _

/-- An operation: the left operand is evaluated, and then the operator is applied. -/
theorem evalWithin_binary (op : Operator) (left right : Expr) :
    env.evalWithin (budget + 1) resolving (.binary op left right) = (do
      let value ← env.evalWithin (leftBudget budget left) resolving left
      applyStep env.context op value (env.evalWithin budget resolving right)) := by
  rw [← leftBudget_binary budget op left right, ← evalWithin_spine, ← evalWithin_spine env budget,
    Expr.spine_binary]
  simp only [List.foldlM_append, bind_assoc, List.foldlM_cons, List.foldlM_nil, bind_pure]

/-- Where the left operand decides, the right one is not evaluated. -/
theorem applyStep_of_some {op : Operator} {x v : Decimal} (h : op.decided? x = some v)
    (c : Context) (right : Run σ Decimal) : applyStep c op x right = pure v := by
  rcases op with op | op | op
  · cases h
  · cases h
  · cases op <;> cases hx : x.isZero <;> simp_all [Operator.decided?, applyStep]

theorem applyStep_of_none {op : Operator} {x : Decimal} (h : op.decided? x = none)
    (c : Context) (right : Run σ Decimal) :
    applyStep c op x right = (do Run.ofExcept (op.result c x (← right))) := by
  rcases op with op | op | op
  · rfl
  · rfl
  · cases op <;> cases hx : x.isZero <;>
      simp_all [Operator.decided?, applyStep, Operator.result, Run.ofExcept]

/-! ## What a run does -/

section Runs

variable {env budget resolving} {s t : σ} {r : Except EvalError Decimal}

theorem evalWithin_reference_inv {name : String}
    (h : (env.evalWithin (budget + 1) resolving (.reference name)).run s = (r, t)) :
    (nameKey name ∈ resolving ∧
        r = .error (.circularDefinition (resolving ++ [nameKey name]))) ∨
      nameKey name ∉ resolving ∧
        ((env.definition? name = none ∧ r = .error (.undefinedVariable name)) ∨
          ∃ definition, env.definition? name = some definition ∧
            (env.evalWithin budget (resolving ++ [nameKey name]) definition).run s = (r, t)) := by
  by_cases hmem : nameKey name ∈ resolving
  · rw [evalWithin_reference_of_mem env budget hmem] at h
    cases h
    exact .inl ⟨hmem, rfl⟩
  · refine .inr ⟨hmem, ?_⟩
    cases hdef : env.definition? name with
    | none =>
      rw [evalWithin_reference_of_none env budget hmem hdef] at h
      cases h
      exact .inl ⟨rfl, rfl⟩
    | some definition =>
      rw [evalWithin_reference_of_some env budget hmem hdef] at h
      exact .inr ⟨definition, rfl, h⟩

theorem evalWithin_negation_inv {operand : Expr}
    (h : (env.evalWithin (budget + 1) resolving (.negation operand)).run s = (r, t)) :
    ∃ r', (env.evalWithin budget resolving operand).run s = (r', t) ∧ r = r'.map Decimal.neg := by
  rw [evalWithin_negation] at h
  rcases Run.bind_inv h with ⟨err, hrun, rfl⟩ | ⟨x, u, hrun, h⟩
  · exact ⟨_, hrun, rfl⟩
  · cases h
    exact ⟨_, hrun, rfl⟩

theorem evalWithin_call_inv {name : String} {args : List Expr}
    (h : (env.evalWithin (budget + 1) resolving (.call name args)).run s = (r, t)) :
    (env.function? name = none ∧ r = .error (.undefinedFunction name)) ∨
      ∃ f, env.function? name = some f ∧
        ((∃ err, (args.mapM (env.evalWithin budget resolving)).run s = (.error err, t) ∧
            r = .error err) ∨
          ∃ xs u, (args.mapM (env.evalWithin budget resolving)).run s = (.ok xs, u) ∧
            (f env.context xs).run u = (r, t)) := by
  cases hname : env.function? name with
  | none =>
    rw [evalWithin_call_of_none env budget resolving hname] at h
    cases h
    exact .inl ⟨rfl, rfl⟩
  | some f =>
    rw [evalWithin_call_of_some env budget resolving hname] at h
    exact .inr ⟨f, rfl, Run.bind_inv h⟩

theorem evalWithin_binary_inv {op : Operator} {left right : Expr}
    (h : (env.evalWithin (budget + 1) resolving (.binary op left right)).run s = (r, t)) :
    (∃ err, (env.evalWithin (leftBudget budget left) resolving left).run s = (.error err, t) ∧
        r = .error err) ∨
      ∃ x u, (env.evalWithin (leftBudget budget left) resolving left).run s = (.ok x, u) ∧
        ((∃ v, op.decided? x = some v ∧ r = .ok v) ∨
          op.decided? x = none ∧
            ((∃ err, (env.evalWithin budget resolving right).run u = (.error err, t) ∧
                r = .error err) ∨
              ∃ y, (env.evalWithin budget resolving right).run u = (.ok y, t) ∧
                r = op.result env.context x y)) := by
  rw [evalWithin_binary] at h
  refine (Run.bind_inv h).imp_right ?_
  rintro ⟨x, u, hrun, h⟩
  refine ⟨x, u, hrun, ?_⟩
  cases hop : op.decided? x with
  | some v =>
    rw [applyStep_of_some hop] at h
    cases h
    exact .inl ⟨v, rfl, rfl⟩
  | none =>
    rw [applyStep_of_none hop] at h
    refine .inr ⟨rfl, (Run.bind_inv h).imp_right ?_⟩
    rintro ⟨y, u', hrun', h⟩
    rw [Run.run_ofExcept] at h
    cases h
    exact ⟨y, hrun', rfl⟩

end Runs

end Environment

end Reckon
