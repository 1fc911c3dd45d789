import Reckon.Arity

/-!
# Errors of evaluation

* `EvalError`: what can stop an evaluation; `EvalError.message`: what is said of it.
* `evalBudget`, `maxExponent`: the limits that the messages mention.
* `Arity.check`: the error for a wrong number of arguments.
-/

namespace Reckon

/-- The deepest nesting of evaluations, counted through the definitions of variables. -/
def evalBudget : Nat := 256

/-- The largest integer exponent of a power. -/
def maxExponent : Nat := 10000

/-- What can stop an evaluation. -/
inductive EvalError where
  | undefinedVariable (name : String)
  | undefinedFunction (name : String)
  /-- The definitions being evaluated, from the first on, and the one that is needed again. -/
  | circularDefinition (path : List String)
  /-- The nesting is deeper than `evalBudget`. -/
  | nestingTooDeep
  | arity (function : String) (expected : Arity) (got : Nat)
  /-- An argument outside the domain of a function or an operator. -/
  | invalidArgument (what : String)
  | divisionByZero
  /-- A result that is too large. -/
  | overflow (what : String)
deriving DecidableEq

def EvalError.message : EvalError → String
  | undefinedVariable name => s!"Undefined variable: {name}"
  | undefinedFunction name => s!"Undefined function: {name}"
  | circularDefinition path => "Circular definition: " ++ String.intercalate " → " path
  | nestingTooDeep => s!"Expression is nested more than {evalBudget} levels deep"
  | arity function expected got => s!"{function} expects {expected.text}, got {got}"
  | invalidArgument what => s!"Invalid argument: {what}"
  | divisionByZero => "Division by zero"
  | overflow what => s!"Overflow: {what}"

/-- Succeeds when `count` arguments are accepted. -/
def Arity.check (a : Arity) (function : String) (count : Nat) : Except EvalError Unit :=
  if a.accepts count then .ok () else .error (.arity function a count)

end Reckon
