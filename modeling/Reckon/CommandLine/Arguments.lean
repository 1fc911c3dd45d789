import Reckon.Numeral
import Reckon.Rounding

/-!
# Command-line arguments

* `Command`, `Invocation`: what the program is asked to do.
* `Opt`: the options, by their long and short names.
* `Given`, `readOptions`: the options of one argument, such as `--precision=4` or `-vp4`. An
  option whose value is missing takes the next argument, which must not look like an option. The
  letters of a cluster count one after the other: `-Vx` asks for the version before `x` is looked
  at.
* `Progress`: the arguments read so far. An option may be given once before the command and once
  after it, a definition any number of times.
* `Invocation.parse`: the invocation that the arguments ask for, or a usage error. Arguments are
  taken in order, so an error before a request for help comes first. After `--` there are only
  plain values.
-/

namespace Reckon.CommandLine

-- A power means the same thing here whatever other powers are in scope.
attribute [local instance (20000)] instPowNat

/-! ## What is asked for -/

/-- The options of the command `eval`. -/
structure EvalSettings where
  expression : Option String := none
  precision : Option Nat := none
  rounding : Option Rounding := none
  definitions : List String := []
  json : Bool := false

/-- A command with its options. -/
inductive Command where
  | eval (options : EvalSettings)
  | check (expression : Option String)
  | functions

/-- What the program is asked to do. -/
inductive Invocation where
  | run (command : Command)
  | version
  | help

/-- What is wrong with the arguments. -/
inductive UsageError where
  | unexpectedArgument (text : String)
  | invalidValue (option : String) (value : String)
  | missingValue (option : String)
  | repeatedOption (option : String)
  | unknownCommand (name : String)
  | missingCommand
  | missingExpression
deriving DecidableEq

def UsageError.message : UsageError → String
  | unexpectedArgument text => s!"error: unexpected argument '{text}' found"
  | invalidValue option value => s!"error: invalid value '{value}' for '{option}'"
  | missingValue option => s!"error: a value is required for '{option}' but none was supplied"
  | repeatedOption option => s!"error: the argument '{option}' cannot be used multiple times"
  | unknownCommand name => s!"error: unrecognized subcommand '{name}'"
  | missingCommand => "error: a subcommand is required"
  | missingExpression => "error: the expression was not provided"

/-! ## Options -/

/-- The options there are. -/
inductive Opt where
  | precision
  | rounding
  | define
  | json
  | verbose
  | version
  | help
deriving DecidableEq

namespace Opt

def long : Opt → String
  | precision => "precision"
  | rounding => "rounding"
  | define => "define"
  | json => "json"
  | verbose => "verbose"
  | version => "version"
  | help => "help"

def short? : Opt → Option Char
  | precision => some 'p'
  | rounding => some 'r'
  | define => some 'D'
  | json => none
  | verbose => some 'v'
  | version => some 'V'
  | help => some 'h'

def takesValue : Opt → Bool
  | precision | rounding | define => true
  | _ => false

def text (o : Opt) : String := s!"--{o.long}"

end Opt

/-- An option that is part of an argument. -/
inductive Given where
  | flag (o : Opt)
  | valued (o : Opt) (value : String)
  /-- The value is the next argument. -/
  | waiting (o : Opt)
  /-- No option of `arg`. -/
  | unknown (arg : String)

/-! ## One argument -/

/-- Whether an argument cannot be the value of an option. A dash alone can. -/
def looksLikeOption (arg : String) : Bool :=
  match arg.toList with
  | '-' :: _ :: _ => true
  | _ => false

/-- The options of a cluster such as `-vp4`. An option with a value takes the rest of its cluster,
without an equals sign in front. -/
def readCluster (opts : List Opt) (arg : String) : List Char → List Given
  | [] => []
  | c :: cs =>
    match opts.find? fun o => o.short? == some c with
    | none => [.unknown arg]
    | some o =>
      if o.takesValue then
        match cs with
        | [] => [.waiting o]
        | '=' :: value => [.valued o (String.ofList value)]
        | value => [.valued o (String.ofList value)]
      else .flag o :: readCluster opts arg cs

/-- The option of an argument such as `--precision=4`, given without its two dashes. -/
def readLong (opts : List Opt) (arg : String) (cs : List Char) : Given :=
  let name := String.ofList (cs.takeWhile (· != '='))
  match opts.find? fun o => o.long == name with
  | none => .unknown arg
  | some o =>
    match o.takesValue, cs.dropWhile (· != '=') with
    | true, [] => .waiting o
    | true, _ :: value => .valued o (String.ofList value)
    | false, [] => .flag o
    | false, _ :: _ => .unknown arg

/-- The options of one argument, or `none` for a plain value. -/
def readOptions (opts : List Opt) (arg : String) : Option (List Given) :=
  match arg.toList with
  | '-' :: '-' :: cs => some [readLong opts arg cs]
  | '-' :: c :: cs => some (readCluster opts arg (c :: cs))
  | _ => none

/-- A decimal number of 64 bits, perhaps with a plus sign. -/
def readWord? (text : String) : Option Nat :=
  let ds := match text.toList with
    | '+' :: ds => ds
    | ds => ds
  if ds.isEmpty || !ds.all Char.isDigit then none
  else
    let n := digitsValue ds
    if n < 2 ^ (64 : Nat) then some n else none

/-! ## Commands -/

/-- The command of the given name. -/
def Command.ofName? (name : String) : Option Command :=
  if name = "eval" then some (eval {})
  else if name = "check" then some (check none)
  else if name = "functions" then some functions
  else none

/-- Fills an option that may be given once. -/
def once {α : Type} (o : Opt) (old : Option α) (new : α) : Except UsageError (Option α) :=
  if old.isSome then .error (.repeatedOption o.text) else .ok (some new)

/-- Takes an option of the command `eval`. -/
def EvalSettings.take (e : EvalSettings) (o : Opt) (value : String) :
    Except UsageError EvalSettings :=
  match o with
  | .precision =>
    match readWord? value with
    | none => .error (.invalidValue o.text value)
    | some n => (once o e.precision n).map fun p => { e with precision := p }
  | .rounding =>
    match Rounding.ofText? value with
    | none => .error (.invalidValue o.text value)
    | some r => (once o e.rounding r).map fun r => { e with rounding := r }
  | .define => .ok { e with definitions := e.definitions ++ [value] }
  | .json => if e.json then .error (.repeatedOption o.text) else .ok { e with json := true }
  | o => .error (.unexpectedArgument o.text)

/-- Takes a plain value. -/
def Command.takePlain (c : Command) (text : String) : Except UsageError Command :=
  match c with
  | eval e =>
    if e.expression.isSome then .error (.unexpectedArgument text)
    else .ok (eval { e with expression := some text })
  | check none => .ok (check (some text))
  | _ => .error (.unexpectedArgument text)

/-! ## Arguments in order -/

/-- What ends the reading early: an error, or a request for help or the version. -/
inductive Stop where
  | usage (e : UsageError)
  | answer (i : Invocation)

/-- The command, once it is known, and whether `--verbose` was given since. -/
structure Progress where
  command : Option Command := none
  verbose : Bool := false

namespace Progress

/-- The options that may come next. -/
def options (p : Progress) : List Opt :=
  match p.command with
  | none => [.verbose, .version, .help]
  | some (.eval _) => [.precision, .rounding, .define, .json, .verbose, .help]
  | some _ => [.verbose, .help]

def take (p : Progress) (o : Opt) (value : String) : Except Stop Progress :=
  match o, p.command with
  | .help, _ => .error (.answer .help)
  | .version, _ => .error (.answer .version)
  | .verbose, _ =>
    if p.verbose then .error (.usage (.repeatedOption Opt.verbose.text))
    else .ok { p with verbose := true }
  | o, some (.eval e) =>
    ((e.take o value).map fun e => { p with command := some (.eval e) }).mapError .usage
  | o, _ => .error (.usage (.unexpectedArgument o.text))

/-- Takes a plain value, which is the name of the command if that is not known yet. -/
def takePlain (p : Progress) (text : String) : Except Stop Progress :=
  match p.command with
  | some c => ((c.takePlain text).map fun c => { p with command := some c }).mapError .usage
  | none =>
    match Command.ofName? text with
    | some c => .ok { command := some c }
    | none => .error (.usage (.unknownCommand text))

/-- Takes the options of one argument. Returns the option that waits for its value, if any. -/
def takeGiven (p : Progress) : List Given → Except Stop (Progress × Option Opt)
  | [] => .ok (p, none)
  | .flag o :: rest => do takeGiven (← p.take o "") rest
  | .valued o value :: rest => do takeGiven (← p.take o value) rest
  | .waiting o :: _ => .ok (p, some o)
  | .unknown arg :: _ => .error (.usage (.unexpectedArgument arg))

/-- Takes the arguments of the command `help`, which may name one other command. -/
def takeHelp : List String → Except Stop Progress
  | [] => .error (.answer .help)
  | [name] =>
    if name = "help" ∨ (Command.ofName? name).isSome then .error (.answer .help)
    else .error (.usage (.unknownCommand name))
  | _ :: name :: _ => .error (.usage (.unknownCommand name))

/-- Takes all arguments; `waiting` is an option whose value is the next of them. -/
def takeAll (p : Progress) (waiting : Option Opt) : List String → Except Stop Progress
  | [] =>
    match waiting with
    | some o => .error (.usage (.missingValue o.text))
    | none => .ok p
  | arg :: args => do
    match waiting with
    | some o =>
      if looksLikeOption arg then .error (.usage (.missingValue o.text))
      else takeAll (← p.take o arg) none args
    | none =>
      if arg = "--" then
        if p.command.isNone then .error (.usage .missingCommand) else args.foldlM takePlain p
      else
        match readOptions p.options arg with
        | some given =>
          let (p, waiting) ← p.takeGiven given
          takeAll p waiting args
        | none =>
          if p.command.isNone && arg == "help" then takeHelp args
          else takeAll (← p.takePlain arg) none args

/-- The invocation, once all arguments are taken. -/
def complete (p : Progress) : Except UsageError Invocation :=
  match p.command with
  | none => .error .missingCommand
  | some (.check none) => .error .missingExpression
  | some c => .ok (.run c)

end Progress

/-- What the arguments ask for. -/
def Invocation.parse (args : List String) : Except UsageError Invocation :=
  match Progress.takeAll {} none args with
  | .ok p => p.complete
  | .error (.usage e) => .error e
  | .error (.answer i) => .ok i

end Reckon.CommandLine
