import Reckon.Context
import Reckon.EvalError

/-!
# Functions

* `Run`: a computation that may stop and that carries a state for the functions to share.
* `Function`: what a call computes, from the context and the arguments.
* `Body`, `Primitive`: functions whose arity is that of their definition.
* `Primitive.call_of_not_accepts`: a wrong number of arguments is an error before anything else.
-/

namespace Reckon

/-- A computation that may stop with an error and that keeps its state when it does. -/
abbrev Run (σ : Type) := ExceptT EvalError (StateM σ)

/-- The run that gives a value or an error and leaves the state alone. -/
def Run.ofExcept {σ α : Type} (x : Except EvalError α) : Run σ α :=
  match x with
  | .ok v => pure v
  | .error e => throw e

/-- What a call computes from the context and the values of its arguments. -/
abbrev Function (σ : Type) := Context → List Decimal → Run σ Decimal

/-- The definition of a function, by the arguments that it takes. -/
inductive Body where
  | none (f : Context → Except EvalError Decimal)
  | one (f : Context → Decimal → Except EvalError Decimal)
  | oneOrTwo (f : Context → Decimal → Option Decimal → Except EvalError Decimal)
  | three (f : Context → Decimal → Decimal → Decimal → Except EvalError Decimal)
  | many (f : Context → Decimal → List Decimal → Except EvalError Decimal)

def Body.arity : Body → Arity
  | none _ => .exactly 0
  | one _ => .exactly 1
  | oneOrTwo _ => .between 1 2
  | three _ => .exactly 3
  | many _ => .atLeast 1

/-- A function with the name that its errors mention. -/
structure Primitive where
  name : String
  body : Body

namespace Primitive

def arity (b : Primitive) : Arity := b.body.arity

/-- The value for the given arguments, or an error when there are too few or too many. -/
def call (b : Primitive) (c : Context) (args : List Decimal) : Except EvalError Decimal :=
  match b.body, args with
  | .none f, [] => f c
  | .one f, [x] => f c x
  | .oneOrTwo f, [x] => f c x .none
  | .oneOrTwo f, [x, y] => f c x (some y)
  | .three f, [x, y, z] => f c x y z
  | .many f, x :: xs => f c x xs
  | body, args => .error (.arity b.name body.arity args.length)

/-- The function that shares no state. -/
def function {σ : Type} (b : Primitive) : Function σ := fun c args => .ofExcept (b.call c args)

/-- Name and arity, for listings. -/
def label (b : Primitive) : String :=
  s!"Builtin \x7b name: \"{b.name}\", arity: {b.arity.label} \x7d"

/-- The arity is checked before anything else. -/
theorem call_of_not_accepts {b : Primitive} {c : Context} {args : List Decimal}
    (h : b.arity.accepts args.length = false) :
    b.call c args = .error (.arity b.name b.arity args.length) := by
  unfold arity at h ⊢
  unfold call
  split <;> simp_all [Body.arity, Arity.accepts]

end Primitive

end Reckon
