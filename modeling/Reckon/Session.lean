import Reckon.Environment.Evaluation
import Reckon.Expr.Parser
import Reckon.Token.Scanner
import Reckon.Standard

/-!
# Sessions

* `Stage`, `Error`: what can go wrong with a text, by the stage that finds it.
* `parseText`: the expression that a text makes up.
* `Session`: an environment that is fed with texts. `Session.new` has the standard constants and
  functions.
* `Session.define`, `Session.defineValue`, `Session.addFunction`, `Session.setPrecision`,
  `Session.setRounding`: the writes. A write that fails changes nothing.
* `Session.eval`, `Session.format`, `Session.evalText`: values, their printed form, and both with
  errors as messages.
-/

namespace Reckon

/-! ## Errors -/

/-- The stage that finds an error. -/
inductive Stage where
  | scan
  | parse
  | eval
  | config
deriving DecidableEq

/-- What can go wrong with a text or a setting. -/
inductive Error where
  | scan (e : ScanError)
  | parse (e : ParseError)
  | eval (e : EvalError)
  /-- A precision that is out of range. -/
  | precision (got : Nat)
deriving DecidableEq

namespace Error

def stage : Error → Stage
  | scan _ => .scan
  | parse _ => .parse
  | eval _ => .eval
  | precision _ => .config

/-- The message of the stage alone; a setting has none. -/
def source? : Error → Option String
  | scan e => some e.message
  | parse e => some e.message
  | eval e => some e.message
  | precision _ => none

def message : Error → String
  | scan e => s!"Scan error: {e.message}"
  | parse e => s!"Parse error: {e.message}"
  | eval e => s!"Evaluation error: {e.message}"
  | precision got =>
    s!"Configuration error: precision must be between 1 and {maxPrecision}, got {got}"

end Error

/-- The expression that a text makes up. -/
def parseText (text : String) : Except Error Expr :=
  match scan text with
  | .error e => .error (.scan e)
  | .ok tokens => (Reckon.parse tokens).mapError .parse

/-! ## Sessions -/

/-- An environment whose variables and functions are given by texts. -/
structure Session (σ : Type) where
  env : Environment σ

namespace Session

variable {σ : Type}

/-- The standard constants and functions, and the default context. -/
def new : Session σ :=
  let env := Standard.constants.foldl (fun env c => env.define c.1 (.literal c.2)) .empty
  ⟨Standard.functions.foldl (fun env b => env.addFunction b.name b.function) env⟩

def context (s : Session σ) : Context := s.env.context

/-! ### Writes -/

def setPrecision (s : Session σ) (precision : Nat) : Except Error (Session σ) :=
  match s.context.withPrecision? precision with
  | some c => .ok ⟨s.env.withContext c⟩
  | none => .error (.precision precision)

def setRounding (s : Session σ) (rounding : Rounding) : Session σ :=
  ⟨s.env.withContext (s.context.withRounding rounding)⟩

/-- Defines a variable by the text of an expression, which is not evaluated yet. -/
def define (s : Session σ) (name text : String) : Except Error (Session σ) :=
  (parseText text).map fun e => ⟨s.env.define name e⟩

def defineValue (s : Session σ) (name : String) (value : Decimal) : Session σ :=
  ⟨s.env.define name (.literal value)⟩

def addFunction (s : Session σ) (name : String) (f : Function σ) : Session σ :=
  ⟨s.env.addFunction name f⟩

/-! ### Answers -/

/-- The value of a text, and the state that the functions leave. -/
def eval (s : Session σ) (text : String) (state : σ) : Except Error Decimal × σ :=
  match parseText text with
  | .error e => (.error e, state)
  | .ok e =>
    let (result, state) := (s.env.eval e).run state
    (result.mapError .eval, state)

/-- A value rounded to the precision, in plain notation. -/
def format (s : Session σ) (value : Decimal) : String := (s.context.round value).plain

/-- The printed form of a result; of an error its message. -/
def formatResult (s : Session σ) : Except Error Decimal → String
  | .ok value => s.format value
  | .error e => e.message

/-- The printed value of a text; for a text without a value the message of its error. -/
def evalText (s : Session σ) (text : String) (state : σ) : String × σ :=
  let (result, state) := s.eval text state
  (s.formatResult result, state)

/-- A listing of the names and the context. -/
def label (s : Session σ) : String := s!"Expressions \x7b evaluator: {s.env.label} \x7d"

end Session

end Reckon
