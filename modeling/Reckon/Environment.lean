import Reckon.Expr
import Reckon.Function
import Reckon.NameTable
import Reckon.Text.Lowercase
import Reckon.Text.Quoted

/-!
# Environments

* `nameKey`: the form of a name under which it is looked up.
* `Environment`: definitions of variables, functions, and the context.
* `Environment.define`, `Environment.addFunction`: definition or redefinition.
* `Environment.label`: a listing of the names and the context.
-/

namespace Reckon

/-- Names are the same when their lower case is. -/
def nameKey (name : String) : String := Text.lowercase name

/-- Variables with their definitions, functions, and the context of evaluation. -/
structure Environment (σ : Type) where
  definitions : NameTable Expr
  functions : NameTable (Function σ)
  context : Context

namespace Environment

variable {σ : Type}

/-- No names, and the default context. -/
def empty : Environment σ := ⟨.empty, .empty, .default⟩

instance : Inhabited (Environment σ) := ⟨empty⟩

/-- Defines a variable by an expression that is evaluated wherever the variable is used. -/
def define (env : Environment σ) (name : String) (e : Expr) : Environment σ :=
  { env with definitions := env.definitions.insert (nameKey name) e }

def addFunction (env : Environment σ) (name : String) (f : Function σ) : Environment σ :=
  { env with functions := env.functions.insert (nameKey name) f }

def withContext (env : Environment σ) (c : Context) : Environment σ := { env with context := c }

def definition? (env : Environment σ) (name : String) : Option Expr :=
  env.definitions.find? (nameKey name)

def function? (env : Environment σ) (name : String) : Option (Function σ) :=
  env.functions.find? (nameKey name)

theorem function?_addFunction (env : Environment σ) (name other : String) (f : Function σ) :
    (env.addFunction name f).function? other =
      if nameKey other = nameKey name then some f else env.function? other :=
  env.functions.find?_insert (nameKey name) (nameKey other) f

theorem definition?_define (env : Environment σ) (name other : String) (e : Expr) :
    (env.define name e).definition? other =
      if nameKey other = nameKey name then some e else env.definition? other :=
  env.definitions.find?_insert (nameKey name) (nameKey other) e

theorem function?_define (env : Environment σ) (name other : String) (e : Expr) :
    (env.define name e).function? other = env.function? other := rfl

/-! ## Listing -/

/-- Quoted names between brackets. -/
def labelNames (names : List String) : String :=
  "[" ++ String.intercalate ", " (names.map Text.quote) ++ "]"

def labelContext (c : Context) : String :=
  s!"DecimalMode \x7b precision: {c.precision}, rounding: {c.rounding.label} \x7d"

def label (env : Environment σ) : String :=
  s!"Evaluator \x7b variables: {labelNames env.definitions.names}, functions: " ++
    s!"{labelNames env.functions.names}, decimal_mode: {labelContext env.context} \x7d"

end Environment

end Reckon
