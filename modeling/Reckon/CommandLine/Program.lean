import Reckon.CommandLine.Arguments
import Reckon.CommandLine.Batch

/-!
# The program

* `splitLines`: the lines of a text, which end in a line feed that a carriage return may precede.
* `Report`: exit code and both outputs.
* `Invocation.readsInput`: whether standard input is asked for.
* `Invocation.execute`, `program`: the report for an invocation, and for the arguments.
-/

namespace Reckon.CommandLine

/-! ## Lines -/

/-- The characters of a line, given last one first, without a carriage return at its end. -/
def endLine : List Char → String
  | '\r' :: line => String.ofList line.reverse
  | line => String.ofList line.reverse

/-- The lines of a text that continues `line`, which is given last character first. -/
def linesFrom (line : List Char) : List Char → List String
  | [] => if line.isEmpty then [] else [String.ofList line.reverse]
  | '\n' :: cs => endLine line :: linesFrom [] cs
  | c :: cs => linesFrom (c :: line) cs

def splitLines (text : String) : List String := linesFrom [] text.toList

def isBlankLine (line : String) : Bool := line.toList.all Text.isBlank

/-! ## Reports -/

/-- What a run of the program leaves behind. -/
structure Report where
  exitCode : Nat := 0
  stdout : String := ""
  stderr : String := ""

namespace Report

/-- A failure with a message. -/
def failure (message : String) : Report where
  exitCode := 1
  stderr := message ++ "\n"

/-- The outputs of one run after those of another; the larger exit code is kept. -/
def append (r s : Report) : Report where
  exitCode := max r.exitCode s.exitCode
  stdout := r.stdout ++ s.stdout
  stderr := r.stderr ++ s.stderr

end Report

/-- One output line: a value, a message, or a JSON object for either. -/
def Outcome.report (json : Bool) (o : Outcome) : Report :=
  let exitCode := if o.isOk then 0 else 1
  if json then { exitCode, stdout := o.json ++ "\n" }
  else
    match o.result with
    | .ok value => { exitCode, stdout := value ++ "\n" }
    | .error message => { exitCode, stderr := message ++ "\n" }

/-! ## Execution -/

def Invocation.readsInput : Invocation → Bool
  | run (.eval e) => e.expression.isNone
  | _ => false

/-- The expressions to evaluate: the argument, or the lines of the input that are not blank. -/
def EvalSettings.expressions (e : EvalSettings) (input : ByteArray) : Except String (List String) :=
  match e.expression with
  | some text => .ok [text]
  | none =>
    match String.fromUTF8? input with
    | some text => .ok ((splitLines text).filter (!isBlankLine ·))
    | none => .error "IO error: stream did not contain valid UTF-8"

def EvalSettings.execute (e : EvalSettings) (input : ByteArray) : Report :=
  match e.expressions input with
  | .error message => .failure message
  | .ok expressions =>
    let batch : Batch := ⟨expressions, e.precision, e.rounding, e.definitions⟩
    match batch.run with
    | .error error => .failure error.message
    | .ok outcomes => (outcomes.map (Outcome.report e.json)).foldl Report.append {}

def checkReport (text : String) : Report :=
  match checkText text with
  | .ok tree => { stdout := tree ++ "\n" }
  | .error error => .failure error.message

def versionText : String := "dexpr 0.1.0\n"

def helpText : String :=
  String.join [
    "dexpr - Evaluate arithmetic and logical expressions with exact decimals\n\n",
    "Usage: dexpr [-v] eval [OPTIONS] [EXPRESSION]\n",
    "       dexpr [-v] check EXPRESSION\n",
    "       dexpr [-v] functions\n\n",
    "Options of eval:\n",
    "  -p, --precision N       significant digits kept when rounding (1-100000)\n",
    "  -r, --rounding MODE     up, down, ceiling, floor, half-up, half-down, half-even\n",
    "  -D, --define NAME=EXPR  define a variable (repeatable)\n",
    "      --json              print results as JSON lines\n"]

/-- What an invocation leaves behind; `input` is the standard input if it is asked for. -/
def Invocation.execute (i : Invocation) (input : ByteArray) : Report :=
  match i with
  | run (.eval e) => e.execute input
  | run (.check text) => checkReport (text.getD "")
  | run .functions => { stdout := listing }
  | version => { stdout := versionText }
  | help => { stdout := helpText }

/-- What the program leaves behind for the given arguments and standard input. -/
def program (args : List String) (input : ByteArray) : Report :=
  match Invocation.parse args with
  | .error e => { exitCode := 2, stderr := e.message ++ "\n" }
  | .ok i => i.execute input

end Reckon.CommandLine
