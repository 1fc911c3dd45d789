import Reckon.Expr.Printed
import Reckon.Session
import Reckon.Text.Blank
import Reckon.Text.Json

/-!
# Batches of expressions

* `BatchError`: what can stop a batch before its first expression.
* `Definition.parse`: a definition `NAME=EXPR`, cut at its first equals sign.
* `Batch`, `Batch.run`: expressions that are evaluated in one session, with the settings and the
  definitions that come before them.
* `Outcome`: an expression with its printed value or its message.
* `checkText`: the printed tree of an expression.
* `listing`: the standard constants and functions.
-/

namespace Reckon.CommandLine

/-- What can stop a batch. -/
inductive BatchError where
  /-- A definition or a setting is at fault. -/
  | expression (e : Error)
  /-- A definition that is not of the form `NAME=EXPR`. -/
  | invalidDefinition (text : String)
  /-- There is nothing to evaluate. -/
  | noInput
deriving DecidableEq

namespace BatchError

def source? : BatchError → Option String
  | expression e => some e.message
  | _ => none

def message : BatchError → String
  | expression e => e.message
  | invalidDefinition text => s!"Invalid definition '{text}' (expected NAME=EXPR)"
  | noInput => "No expression provided. Pass one as an argument or pipe lines to stdin."

end BatchError

/-! ## Definitions -/

/-- A variable and the text that defines it. -/
structure Definition where
  name : String
  expression : String

/-- The definition in a text, without the blanks around both parts; neither is empty. -/
def Definition.parse (text : String) : Except BatchError Definition :=
  let cs := text.toList
  let name := Text.trimChars (cs.takeWhile (· != '='))
  let e := Text.trimChars ((cs.dropWhile (· != '=')).drop 1)
  if name.isEmpty || e.isEmpty then .error (.invalidDefinition text)
  else .ok ⟨String.ofList name, String.ofList e⟩

/-! ## Evaluation -/

/-- Expressions to evaluate in one session. -/
structure Batch where
  expressions : List String
  precision : Option Nat := none
  rounding : Option Rounding := none
  definitions : List String := []

/-- An expression with its printed value or the message of its error. -/
structure Outcome where
  expression : String
  result : Except String String

namespace Outcome

def isOk (o : Outcome) : Bool := o.result.toBool

/-- The expression and what came of it, as a JSON object. -/
def json (o : Outcome) : String :=
  match o.result with
  | .ok value => Text.jsonObject [("expression", o.expression), ("result", value)]
  | .error message => Text.jsonObject [("error", message), ("expression", o.expression)]

end Outcome

/-- Adds one definition to a session. -/
def addDefinition (s : Session Unit) (text : String) : Except BatchError (Session Unit) := do
  let d ← Definition.parse text
  (s.define d.name d.expression).mapError .expression

/-- What comes of one expression. -/
def outcome (s : Session Unit) (text : String) : Outcome where
  expression := text
  result := ((s.eval text ()).1.map s.format).mapError Error.message

/-- The session in which a batch is evaluated. -/
def Batch.session (b : Batch) : Except BatchError (Session Unit) := do
  let s : Session Unit := .new
  let s ← (b.precision.elim (.ok s) s.setPrecision).mapError .expression
  let s := b.rounding.elim s s.setRounding
  b.definitions.foldlM addDefinition s

def Batch.run (b : Batch) : Except BatchError (List Outcome) :=
  if b.expressions.isEmpty then .error .noInput
  else b.session.map fun s => b.expressions.map (outcome s)

/-! ## Trees and names -/

/-- The printed tree of an expression. -/
def checkText (text : String) : Except BatchError String :=
  ((parseText text).map Expr.printed).mapError .expression

/-- A name filled up to six characters. -/
def column (name : String) : String := name.pushn ' ' (6 - name.length)

/-- The standard constants with their values and the standard functions with their arities. -/
def listing : String :=
  let constant (c : String × Decimal) := s!"  {column c.1} {c.2.plain}\n"
  let function (b : Primitive) := s!"  {column b.name} {b.arity.text}\n"
  "Constants:\n" ++ String.join (Standard.constants.map constant) ++
    "\nFunctions:\n" ++ String.join (Standard.functions.map function)

end Reckon.CommandLine
