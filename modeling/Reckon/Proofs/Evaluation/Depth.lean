import Reckon.Proofs.Evaluation.Genuine
import Reckon.Proofs.Grammar.Printed

/-!
# The depth of what is read

The parser limits the nesting of groupings, calls, negations and right operands of `^`, and the
evaluator limits the nesting of evaluations. Right operands of operators that bind tighter and
tighter are nested for the evaluator alone; there are as many of them as there are levels.

* `Expr.evalDepth`: how many evaluations a tree nests. `Expr.evalDepth_of_isOperation`: operators
  along left operands count as one.
* `lt_evalDepth_of_run`: a tree without variables is too deep for a budget only if it nests more
  evaluations.
* `Expr.evalDepth_le_of_leveled`: at the level of its root, a tree that respects the levels leaves
  room for the operators below that level.
* `eval_of_shallow`: what is nested at most 31 levels for the parser is not too deep for the
  evaluator.
-/

namespace Reckon

namespace Expr

/-! ## Nested evaluations -/

mutual

/-- Whether the tree has no variables. -/
def variableFree : Expr → Bool
  | literal _ => true
  | reference _ => false
  | negation operand => operand.variableFree
  | binary _ left right => left.variableFree && right.variableFree
  | grouping inner => inner.variableFree
  | call _ args => listVariableFree args

def listVariableFree : List Expr → Bool
  | [] => true
  | e :: es => e.variableFree && listVariableFree es

end

theorem variableFree_binary {op : Operator} {left right : Expr} :
    (binary op left right).variableFree ↔ left.variableFree ∧ right.variableFree := by
  rw [variableFree, Bool.and_eq_true]

theorem variableFree_call {name : String} {args : List Expr} :
    (call name args).variableFree ↔ ∀ arg ∈ args, arg.variableFree := by
  rw [variableFree]
  induction args with
  | nil => simp [listVariableFree]
  | cons arg args ih => rw [listVariableFree, Bool.and_eq_true, ih, List.forall_mem_cons]

mutual

/-- How many evaluations are nested. An operation on the left of another one is not charged. -/
def evalDepth : Expr → Nat
  | literal _ => 1
  | reference _ => 1
  | negation operand => operand.evalDepth + 1
  | binary _ left right =>
    max (if left.isOperation then left.evalDepth - 1 else left.evalDepth) right.evalDepth + 1
  | grouping inner => inner.evalDepth + 1
  | call _ args => listEvalDepth args + 1

def listEvalDepth : List Expr → Nat
  | [] => 0
  | e :: es => max e.evalDepth (listEvalDepth es)

end

theorem evalDepth_pos (e : Expr) : 0 < e.evalDepth := by
  cases e <;> exact Nat.succ_pos _

theorem listEvalDepth_le_iff {es : List Expr} {n : Nat} :
    listEvalDepth es ≤ n ↔ ∀ e ∈ es, e.evalDepth ≤ n := by
  induction es with
  | nil => simp [listEvalDepth]
  | cons e es ih => rw [listEvalDepth, Nat.max_le, ih, List.forall_mem_cons]

theorem spine_of_not {e : Expr} (h : e.isOperation = false) : e.spine = (e, []) := by
  cases e with
  | binary op left right => cases h
  | _ => rfl

/-- An operation nests one evaluation more than the operand that its spine begins from and the
right operands along it. -/
theorem evalDepth_of_isOperation {e : Expr} (h : e.isOperation = true) :
    e.evalDepth =
      (e.spine.2.map fun step => step.2.evalDepth).foldl max e.spine.1.evalDepth + 1 := by
  induction e with
  | binary op left right ihLeft =>
    rw [spine_binary, List.map_append, List.foldl_append]
    show max (if left.isOperation then left.evalDepth - 1 else left.evalDepth) right.evalDepth + 1 =
      max _ right.evalDepth + 1
    cases hleft : left.isOperation with
    | true =>
      rw [if_pos rfl, ihLeft hleft]
      rfl
    | false =>
      rw [spine_of_not hleft]
      rfl
  | _ => cases h

end Expr

/-! ## The evaluator -/

namespace Environment

variable {σ : Type} {env : Environment σ}

/-- A tree without variables is too deep for a budget only if it nests more evaluations. -/
theorem lt_evalDepth_of_run
    (hfunctions : ∀ name f, env.function? name = some f → f.Avoids .nestingTooDeep)
    (budget : Nat) (e : Expr) : e.variableFree → ∀ resolving s t,
      (env.evalWithin budget resolving e).run s = (.error .nestingTooDeep, t) →
      budget < e.evalDepth := by
  induction budget, e using budget_induction with
  | exhausted e =>
    intro _ _ _ _ _
    exact e.evalDepth_pos
  | literal budget value =>
    intro _ _ _ _ h
    cases h
  | reference budget name ih =>
    intro hfree _ _ _ _
    cases hfree
  | grouping budget inner ih =>
    intro hfree resolving s t h
    exact Nat.succ_lt_succ (ih hfree _ _ _ h)
  | negation budget operand ih =>
    intro hfree resolving s t h
    obtain ⟨r, hrun, hr⟩ := evalWithin_negation_inv h
    cases r with
    | error err =>
      cases hr
      exact Nat.succ_lt_succ (ih hfree _ _ _ hrun)
    | ok x => cases hr
  | call budget name args ih =>
    intro hfree resolving s t h
    rcases evalWithin_call_inv h with
      ⟨-, herr⟩ | ⟨f, hsome, ⟨err, hruns, herr⟩ | ⟨xs, u, -, hown⟩⟩
    · cases herr
    · cases herr
      obtain ⟨arg, harg, u, hrun⟩ := Run.exists_of_mapM_error hruns
      have hdeep := ih arg harg (Expr.variableFree_call.1 hfree arg harg) _ _ _ hrun
      have hargs := Expr.listEvalDepth_le_iff.1 le_rfl arg harg
      exact Nat.succ_lt_succ (Nat.lt_of_lt_of_le hdeep hargs)
    · exact absurd (congrArg Prod.fst hown) (hfunctions name f hsome _ _ _)
  | binary budget op left right ihLeft ihRight =>
    intro hfree resolving s t h
    obtain ⟨hfreeLeft, hfreeRight⟩ := Expr.variableFree_binary.1 hfree
    rcases evalWithin_binary_inv h with ⟨err, hrun, herr⟩ | ⟨x, u, -, h⟩
    · cases herr
      have hdeep := ihLeft hfreeLeft _ _ _ hrun
      -- An operation on the left has the budget of the whole, and its depth is not charged.
      cases hleft : left.isOperation with
      | true =>
        rw [leftBudget, hleft, if_pos rfl] at hdeep
        rw [Expr.evalDepth, hleft, if_pos rfl]
        omega
      | false =>
        rw [leftBudget_of_not hleft] at hdeep
        rw [Expr.evalDepth, hleft, if_neg Bool.false_ne_true]
        omega
    · rcases h with ⟨v, -, hr⟩ | ⟨-, ⟨err, hrun, herr⟩ | ⟨y, -, hr⟩⟩
      · cases hr
      · cases herr
        have hdeep := ihRight hfreeRight _ _ _ hrun
        exact Nat.succ_lt_succ (Nat.lt_of_lt_of_le hdeep (Nat.le_max_right _ _))
      · cases op.genuine_result env.context x y _ hr.symm

end Environment

/-! ## The parser -/

namespace Expr

theorem le_level_of_not {e : Expr} (h : e.isOperation = false) : Operator.pow.level ≤ e.level := by
  cases e with
  | binary op left right => cases h
  | negation operand => exact Nat.le_refl _
  | _ => exact Nat.le_succ _

/-- A tree that respects the levels leaves room for the operators below the level of its root.
The induction is on the tree: a right operand goes up by one level at least, and only an operand
that is nested deeper for the parser may begin again from the lowest one. -/
theorem evalDepth_le_of_leveled {e : Expr} (h : e.Leveled) :
    e.evalDepth ≤ max 1 (8 * e.nesting + 7 - e.level) := by
  have hpow : Operator.pow.level = 6 := rfl
  induction e with
  | literal value => exact Nat.le_max_left _ _
  | reference name => exact Nat.le_max_left _ _
  | negation operand ih =>
    have hdepth := ih h.2
    have hlevel := h.1
    simp only [evalDepth, nesting, level]
    omega
  | grouping inner ih =>
    have hdepth := ih h
    simp only [evalDepth, nesting, level]
    omega
  | call name args ih =>
    have hargs : listEvalDepth args ≤ 8 * listNesting args + 7 := by
      refine listEvalDepth_le_iff.2 fun arg harg => ?_
      have hdepth := ih arg harg (listLeveled_iff.1 h arg harg)
      have hnesting := listNesting_le_iff.1 le_rfl arg harg
      omega
    simp only [evalDepth, nesting, level]
    omega
  | binary op left right ihLeft ihRight =>
    obtain ⟨hleft, hright, hl, hr⟩ := h
    have hdepthLeft := ihLeft hl
    have hdepthRight := ihRight hr
    by_cases hop : op = .pow
    · subst hop
      have hbase : Operator.pow.level + 1 ≤ left.level := hleft
      have hexponent : Operator.pow.level ≤ right.level := hright
      have hcharged : (if left.isOperation then left.evalDepth - 1 else left.evalDepth) ≤
          left.evalDepth := by
        split <;> omega
      simp only [evalDepth, nesting, level, if_true]
      omega
    · have hlt := Operator.level_lt hop
      rw [Operator.leftLevel_of_ne hop] at hleft
      rw [Operator.rightLevel_of_ne hop] at hright
      simp only [evalDepth, nesting, level, if_neg hop]
      cases hoperation : left.isOperation with
      | true =>
        rw [if_pos rfl]
        omega
      | false =>
        have hlevel := le_level_of_not hoperation
        rw [if_neg Bool.false_ne_true]
        omega

end Expr

theorem leveled_of_expression {p : Parser} {e : Expr}
    (h : p.expression.1 = .ok e ∨ p.parse.1 = .ok e) : e.Leveled := by
  have hresult : p.expression.1 = .ok e := h.elim id fun h => (parse_result_iff.1 h).1
  exact (expression_sound (Prod.ext hresult rfl)).2.1.leveled

theorem leveled_of_parseText {text : String} {e : Expr} (h : parseText text = .ok e) :
    e.Leveled := by
  obtain ⟨ts, -, hparse⟩ := parse_of_parseText h
  exact leveled_of_expression (.inr hparse)

/-! ## Both limits -/

namespace Environment

variable {σ : Type}

/-- A tree without variables is too deep for the evaluator only if it nests more than 256
evaluations. What the parser reads nests at most eight of them for each of its own levels, and
seven for the operators outside. So a text without variables that it nests at most 31 levels is
never too deep, however long its chains of operators are. -/
theorem eval_of_shallow (env : Environment σ)
    (hfunctions : ∀ name f, env.function? name = some f → f.Avoids .nestingTooDeep) :
    (∀ e : Expr, e.variableFree → ∀ s, ((env.eval e).run s).1 = .error .nestingTooDeep →
        256 < e.evalDepth) ∧
      (∀ (p : Parser) e, p.expression.1 = .ok e ∨ p.parse.1 = .ok e →
        e.evalDepth ≤ 8 * e.nesting + 7) ∧
      ∀ text e, parseText text = .ok e → e.variableFree → e.nesting ≤ 31 →
        ∀ s, ((env.eval e).run s).1 ≠ .error .nestingTooDeep := by
  have hdeep : ∀ e : Expr, e.variableFree → ∀ s,
      ((env.eval e).run s).1 = .error .nestingTooDeep → 256 < e.evalDepth :=
    fun e hfree s h => lt_evalDepth_of_run hfunctions evalBudget e hfree [] s _ (Prod.ext h rfl)
  have hleveled : ∀ e : Expr, e.Leveled → e.evalDepth ≤ 8 * e.nesting + 7 := by
    intro e h
    have hdepth := Expr.evalDepth_le_of_leveled h
    omega
  refine ⟨hdeep, fun p e h => hleveled e (leveled_of_expression h), ?_⟩
  intro text e htext hfree hnesting s h
  have hmany := hdeep e hfree s h
  have hfew := hleveled e (leveled_of_parseText htext)
  omega

/-- A text that nests as many evaluations as one level of the parser allows. -/
theorem eval_of_shallow_fifteen :
    let env : Environment Unit := Session.new.env
    ∃ e, parseText "1||1&&1==1<1+1*(1||1&&1==1<1+1*1)^1" = .ok e ∧ e.variableFree ∧
      e.nesting = 1 ∧ e.evalDepth = 8 * e.nesting + 7 ∧
      ∀ s, ((env.eval e).run s).1 ≠ .error .nestingTooDeep := by
  intro env
  have hfunctions : ∀ name f, env.function? name = some f → f.Avoids .nestingTooDeep :=
    fun name f h => (Session.unguarded_function h).avoids rfl
  let one : Expr := .literal ⟨1, 0⟩
  let within (last : Expr) : Expr :=
    .binary (.logic .or) one (.binary (.logic .and) one (.binary (.comparison .equal) one
      (.binary (.comparison .less) one (.binary (.arithmetic .add) one
        (.binary (.arithmetic .mul) one last)))))
  let e : Expr := within (.binary .pow (.grouping (within one)) one)
  have hparse : parseText "1||1&&1==1<1+1*(1||1&&1==1<1+1*1)^1" = .ok e :=
    parseText_of_kinds (by decide) (by decide) (by decide)
  have hfree : e.variableFree := by decide
  exact ⟨e, hparse, hfree, by decide, by decide,
    (eval_of_shallow env hfunctions).2.2 _ e hparse hfree (by decide)⟩

end Environment

end Reckon
