import Reckon.Proofs.Evaluation.Agreement
import Reckon.Proofs.Evaluation.Genuine
import Reckon.Proofs.Standard.Numbers

/-!
# What the context governs

The context is read where something is rounded, and nowhere else.

* `Context.power_congr`, `Operator.result_congr`: no operator but a division, and a power only with
  a negative or a fractional exponent.
* `Body.Agrees`, `Standard.Steady`: functions that give the same in two contexts. `floor` and
  `ceil` have a direction of their own, `round` has a number of places of its own.
* `Environment.SteadyNode`: a node where two contexts make no difference.
* `eval_withContext_eq`: then they make none to the evaluation of the tree.
-/

namespace Reckon

variable {c c' : Context}

/-! ## Operators -/

/-- A power with a natural exponent is not rounded. -/
theorem Context.power_congr {x y : Decimal} {n : ℕ} (hy : y.toRat = n) :
    c.power x y = c'.power x y := by
  have hwhole : y.isInteger = true := Decimal.isInteger_iff.2 ⟨n, by rw [hy, Int.cast_natCast]⟩
  have hnonneg : y.isNegative = false := by
    rw [Bool.eq_false_iff, ne_eq, Decimal.isNegative_iff, hy, not_lt]
    exact Nat.cast_nonneg n
  have hfixed : ∀ c : Context, c.power x y = if maxExponent < y.whole then
      .error (.overflow s!"exponent {y.plain} is larger than {maxExponent}")
      else .ok (x.pow y.whole) := by
    intro c
    unfold power integerPower
    simp only [hwhole, hnonneg, Bool.and_false, Bool.false_eq_true, if_true, if_false]
  rw [hfixed, hfixed]

theorem Operator.result_congr {op : Operator} {x y : Decimal} (hdiv : op ≠ .arithmetic .div)
    (hpow : op = .pow → ∃ n : ℕ, y.toRat = n) : op.result c x y = op.result c' x y := by
  rcases op with op | op | op
  · cases op with
    | div => exact absurd rfl hdiv
    | pow =>
      obtain ⟨n, hn⟩ := hpow rfl
      exact Context.power_congr hn
    | add | sub | mul | rem => rfl
  · rfl
  · rfl

/-! ## Functions -/

namespace Function

variable {σ : Type}

/-- The function makes no use of the context. -/
def ContextFree (f : Function σ) : Prop := ∀ c c' args, f c args = f c' args

end Function

/-- The definition comes to the same in both contexts. -/
def Body.Agrees (c c' : Context) : Body → Prop
  | none f => f c = f c'
  | one f => f c = f c'
  | oneOrTwo f => f c = f c'
  | three f => f c = f c'
  | many f => f c = f c'

theorem Primitive.call_congr {b : Primitive} (h : b.body.Agrees c c') (args : List Decimal) :
    b.call c args = b.call c' args := by
  obtain ⟨name, body⟩ := b
  cases body with
  | none f =>
    rcases args with _ | ⟨x, args⟩
    · exact h
    · rfl
  | one f =>
    rcases args with _ | ⟨x, _ | ⟨y, args⟩⟩
    · rfl
    · exact congrFun h x
    · rfl
  | oneOrTwo f =>
    rcases args with _ | ⟨x, _ | ⟨y, _ | ⟨z, args⟩⟩⟩
    · rfl
    · exact congrFun (congrFun h x) .none
    · exact congrFun (congrFun h x) (some y)
    · rfl
  | three f =>
    rcases args with _ | ⟨x, _ | ⟨y, _ | ⟨z, _ | ⟨w, args⟩⟩⟩⟩
    · rfl
    · rfl
    · rfl
    · exact congrFun (congrFun (congrFun h x) y) z
    · rfl
  | many f =>
    rcases args with _ | ⟨x, args⟩
    · rfl
    · exact congrFun (congrFun h x) args

namespace Standard

/-- The standard function of that name does not round, or reads only what the contexts share. -/
def Steady (c c' : Context) (name : String) : Prop :=
  match name with
  | "floor" => c.precision = c'.precision
  | "ceil" => c.precision = c'.precision
  | "round" => c.rounding = c'.rounding
  | "avg" => False
  | "ln" => False
  | "log" => False
  | "√" => False
  | "sqrt" => False
  | _ => True

theorem integral_congr (h : c.precision = c'.precision) (r : Rounding) (x : Decimal) :
    integral r c x = integral r c' x := by
  have hcontext : c.withRounding r = c'.withRounding r := by
    simp only [Context.withRounding, h]
  rw [integral, integral, hcontext]

theorem round_congr (h : c.rounding = c'.rounding) : round c = round c' := by
  funext x places
  rw [round, round, h]

theorem agrees_of_steady {b : Primitive} (hb : b ∈ functions) (h : Steady c c' b.name) :
    b.body.Agrees c c' := by
  revert h
  revert b
  simp only [functions, List.forall_mem_cons]
  exact ⟨fun _ => rfl, fun _ => rfl, False.elim,
    fun h => funext fun x => congrArg Except.ok (integral_congr h _ x),
    fun h => funext fun x => congrArg Except.ok (integral_congr h _ x), round_congr,
    fun _ => rfl, fun _ => rfl, fun _ => rfl, False.elim, False.elim, False.elim, False.elim,
    fun _ hb => absurd hb List.not_mem_nil⟩

end Standard

/-! ## Trees -/

theorem Run.throw_bind {σ α β : Type} (err : EvalError) (f : α → Run σ β) :
    (throw err : Run σ α) >>= f = throw err := rfl

namespace Environment

variable {σ : Type} {env : Environment σ}

/-- A node that makes no use of what the contexts do not share: no division, no power but with a
natural number as its exponent, and no function that rounds. -/
def SteadyNode (env : Environment σ) (c c' : Context) : Expr → Prop
  | .binary op _ right => op ≠ .arithmetic .div ∧
      (op = .pow → ∃ x, right = .literal x ∧ ∃ n : ℕ, x.toRat = n)
  | .call name _ => ∀ f, env.function? name = some f → f.ContextFree ∨
      ∃ b ∈ Standard.functions, Standard.Steady c c' b.name ∧ f = b.function
  | _ => True

theorem applyStep_congr {op : Operator} {x : Decimal} {right : Run σ Decimal}
    (h : ∀ y, op.result c x y = op.result c' x y) :
    applyStep c op x right = applyStep c' op x right := by
  cases hop : op.decided? x with
  | some v => rw [applyStep_of_some hop, applyStep_of_some hop]
  | none =>
    rw [applyStep_of_none hop, applyStep_of_none hop]
    simp only [h]

/-- The last step of a node where the contexts make no difference. -/
theorem SteadyNode.applyStep_eq {op : Operator} {left right : Expr}
    (h : env.SteadyNode c c' (.binary op left right)) (budget : ℕ) (resolving : List String)
    (x : Decimal) :
    applyStep c op x ((env.withContext c).evalWithin budget resolving right) =
      applyStep c' op x ((env.withContext c).evalWithin budget resolving right) := by
  obtain ⟨hdiv, hpow⟩ := h
  by_cases hop : op = .pow
  · obtain ⟨y, rfl, n, hn⟩ := hpow hop
    subst hop
    have hresult : Operator.pow.result c x y = Operator.pow.result c' x y :=
      Operator.result_congr nofun fun _ => ⟨n, hn⟩
    cases budget with
    | zero =>
      rw [evalWithin, applyStep_of_none rfl, applyStep_of_none rfl, Run.throw_bind, Run.throw_bind]
    | succ budget =>
      rw [evalWithin, applyStep_of_none rfl, applyStep_of_none rfl, pure_bind, pure_bind, hresult]
  · exact applyStep_congr fun y => Operator.result_congr hdiv fun h => absurd h hop

theorem SteadyNode.function_eq {name : String} {args : List Expr} {f : Function σ}
    (h : env.SteadyNode c c' (.call name args)) (hknown : env.function? name = some f)
    (xs : List Decimal) : f c xs = f c' xs := by
  rcases h f hknown with hfree | ⟨b, hb, hsteady, rfl⟩
  · exact hfree c c' xs
  · exact congrArg Run.ofExcept (Primitive.call_congr (Standard.agrees_of_steady hb hsteady) xs)

theorem Under.of_withContext {part e : Expr} (h : (env.withContext c).Under part e) :
    env.Under part e := by
  cases h with
  | definition hbound => exact .definition hbound
  | grouping => exact .grouping
  | negation => exact .negation
  | left => exact .left
  | right => exact .right
  | argument hmem => exact .argument hmem

/-- The context makes no difference at such a node. -/
theorem SteadyNode.agreeAt {e : Expr} (h : env.SteadyNode c c' e) :
    (env.withContext c).AgreeAt (env.withContext c') e := by
  cases e with
  | literal x => trivial
  | reference name => exact (rfl : env.definition? name = env.definition? name)
  | negation operand => trivial
  | binary op left right => exact fun budget resolving x => h.applyStep_eq budget resolving x
  | grouping inner => trivial
  | call name args =>
    show Option.Rel _ (env.function? name) (env.function? name)
    cases hname : env.function? name with
    | none => exact .none
    | some f => exact .some (h.function_eq hname)

theorem evalWithin_withContext_eq (budget : ℕ) (e : Expr) :
    ∀ resolving, env.Throughout (env.SteadyNode c c') e →
      (env.withContext c).evalWithin budget resolving e =
        (env.withContext c').evalWithin budget resolving e := by
  intro resolving hnodes
  apply evalWithin_eq_of_agree budget e resolving
  intro part hreached
  have hreached' : Relation.ReflTransGen env.Under part e :=
    Relation.ReflTransGen.mono (fun _ _ hpart => hpart.of_withContext) _ _ hreached
  exact (hnodes part hreached').agreeAt

/-- Where nothing divides, raises to a power that is no literal natural number, or calls a function
that rounds, the context makes no difference: value or error, and the state that is left. -/
theorem eval_withContext_eq (env : Environment σ) (c c' : Context) {e : Expr}
    (h : env.Throughout (env.SteadyNode c c') e) :
    (env.withContext c).eval e = (env.withContext c').eval e :=
  evalWithin_withContext_eq evalBudget e [] h

/-- A variable with the value `2.50`. -/
def twoAndHalf : Environment Unit := Session.new.env.define "x" (.literal ⟨250, 2⟩)

/-- The tree of `floor(x) + x ^ 2`. -/
def floorPlusSquare : Expr :=
  .binary (.arithmetic .add) (.call "floor" [.reference "x"])
    (.binary .pow (.reference "x") (.literal ⟨2, 0⟩))

theorem steady_variable : twoAndHalf.Throughout
    (twoAndHalf.SteadyNode .default (Context.default.withRounding .up)) (.reference "x") := by
  refine .of_parts trivial ?_
  intro part hpart
  cases hpart with
  | definition hbound =>
    rw [twoAndHalf, definition?_define, if_pos rfl] at hbound
    cases hbound
    exact throughout_literal trivial

theorem steady_floor : twoAndHalf.SteadyNode .default (Context.default.withRounding .up)
    (.call "floor" [.reference "x"]) := by
  intro f hf
  obtain ⟨b, hmem, hname⟩ : ∃ b ∈ Standard.functions, b.name = "floor" := by
    simp [Standard.functions]
  have hbound := Session.function?_of_mem (σ := Unit) hmem
  rw [twoAndHalf, function?_define, ← hname, hbound] at hf
  refine .inr ⟨b, hmem, ?_, (Option.some.inj hf).symm⟩
  rw [hname]
  rfl

theorem steady_floorPlusSquare : twoAndHalf.Throughout
    (twoAndHalf.SteadyNode .default (Context.default.withRounding .up)) floorPlusSquare := by
  refine .of_parts ⟨nofun, nofun⟩ ?_
  intro part hpart
  cases hpart with
  | left =>
    refine .of_parts steady_floor ?_
    intro part hpart
    cases hpart with
    | argument hmem =>
      cases List.mem_singleton.1 hmem
      exact steady_variable
  | right =>
    refine .of_parts ⟨nofun, fun _ => ⟨_, rfl, 2, by norm_num [Decimal.toRat]⟩⟩ ?_
    intro part hpart
    cases hpart with
    | left => exact steady_variable
    | right => exact throughout_literal trivial

theorem eval_floorPlusSquare : (twoAndHalf.withContext .default).eval floorPlusSquare =
    (twoAndHalf.withContext (Context.default.withRounding .up)).eval floorPlusSquare :=
  eval_withContext_eq _ _ _ steady_floorPlusSquare

end Environment

end Reckon
