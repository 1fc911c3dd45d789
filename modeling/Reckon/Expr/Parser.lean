import Reckon.Expr

/-!
# Parsing

An expression is read token by token, with the operands and operators that are still open on a
stack. `||`, `&&`, `== !=`, `< > <= >=`, `+ -`, `* / %` bind ever tighter and associate to the
left; a minus sign binds tighter than these, and `^` tighter still, with its right operand a power
or a negation.

* `ParseError`: what can stop a parse. Groupings, calls, negations and right operands of `^` may
  be nested `maxNesting` deep.
* `Waiting`, `Bracket`, `Frame`, `Stack`: what is open: operators that wait for their right
  operand, and opened parentheses.
* `Stack.collapse`: finishes the waiting operators that bind at least as tightly as a level.
* `operand`, `follow`: the two states of the reader, before and after an operand.
* `Parser`: the tokens before the end and the nesting depth. `Parser.expression` reads one
  expression, `Parser.parse` one that nothing follows. The depth is not restored after an error.
-/

namespace Reckon

/-- The deepest nesting of groupings, calls, negations and right operands of `^`. -/
def maxNesting : Nat := 64

/-! ## Errors -/

/-- What a construct needs next. -/
inductive Closer where
  | grouping
  | arguments
deriving DecidableEq

def Closer.text : Closer → String
  | grouping => "')'"
  | arguments => "')' after arguments"

/-- What was found instead: a token's characters, or the end. -/
inductive Found where
  | lexeme (text : String)
  | stop
deriving DecidableEq

def Found.text : Found → String
  | lexeme text => s!"'{text}'"
  | stop => "end of expression"

/-- What can stop a parse. -/
inductive ParseError where
  /-- A closing parenthesis is missing. -/
  | unexpectedToken (expected : Closer) (found : Found) (position : Nat)
  /-- No expression starts here. -/
  | expectedExpression (found : Found) (position : Nat)
  /-- A complete expression is followed by more. -/
  | trailingInput (found : Found) (position : Nat)
  /-- The nesting is deeper than `maxNesting`. -/
  | nestingTooDeep
deriving DecidableEq

def ParseError.message : ParseError → String
  | unexpectedToken expected found position =>
    s!"Expected {expected.text} at position {position}, found {found.text}"
  | expectedExpression found position =>
    s!"Expected expression at position {position}, found {found.text}"
  | trailingInput found position =>
    s!"Expected end of expression at position {position}, found {found.text}"
  | nestingTooDeep => s!"Expression is nested more than {maxNesting} levels deep"

/-! ## Open constructs -/

/-- An operator that waits for its right operand. -/
inductive Waiting where
  | negation
  | power (base : Expr)
  | chain (op : Operator) (left : Expr)

/-- An opened parenthesis; for a call with the arguments before the current one, last one
first. -/
inductive Bracket where
  | grouping
  | call (name : String) (args : List Expr)

/-- The construct that `e`, the last thing in the parenthesis, completes. -/
def Bracket.close : Bracket → Expr → Expr
  | grouping, e => .grouping e
  | call name args, e => .call name (args.reverse ++ [e])

/-- An opened parenthesis and the operators that wait for what it belongs to. -/
structure Frame where
  bracket : Bracket
  outer : List Waiting

/-- Operators that wait within the innermost parenthesis, the parentheses around it, and the
nesting depth. -/
structure Stack where
  waiting : List Waiting
  frames : List Frame
  depth : Nat

namespace Stack

/-- Lets an operator wait. -/
def wait (s : Stack) (w : Waiting) : Stack := { s with waiting := w :: s.waiting }

/-- Lets an operator wait that nests its operand. -/
def nest (s : Stack) (w : Waiting) : Stack :=
  { s with waiting := w :: s.waiting, depth := s.depth + 1 }

/-- Opens a parenthesis. -/
def enter (s : Stack) (b : Bracket) : Stack := ⟨[], ⟨b, s.waiting⟩ :: s.frames, s.depth + 1⟩

/-- Gives `e` to the waiting operators, innermost first, as long as they bind at least as tightly
as `level`. Returns the operators that are left, the depth and the operand made. -/
def collapseFrom (level : Nat) : List Waiting → Nat → Expr → List Waiting × Nat × Expr
  | .negation :: ws, depth, e => collapseFrom level ws (depth - 1) (.negation e)
  | .power base :: ws, depth, e => collapseFrom level ws (depth - 1) (.binary .pow base e)
  | .chain op left :: ws, depth, e =>
    if level ≤ op.level then collapseFrom level ws depth (.binary op left e)
    else (.chain op left :: ws, depth, e)
  | [], depth, e => ([], depth, e)

/-- Gives `e` to the waiting operators that bind at least as tightly as `level`. -/
def collapse (level : Nat) (s : Stack) (e : Expr) : Stack × Expr :=
  let (waiting, depth, e) := collapseFrom level s.waiting s.depth e
  (⟨waiting, s.frames, depth⟩, e)

end Stack

/-! ## Reading -/

/-- What a reader returns: the expression or an error, with the tokens that are left and the
nesting depth. -/
structure Reading where
  result : Except ParseError Expr
  rest : List Token
  depth : Nat

/-- What is found at the beginning of `ts`, the tokens before the end. -/
def foundAt : List Token → Found
  | [] => .stop
  | t :: _ => .lexeme t.lexeme

/-- The position of the first of `ts`, or of the end. -/
def positionAt (stop : Nat) : List Token → Nat
  | [] => stop
  | t :: _ => t.position

/-- No construct goes deeper: the token that would open it is read. -/
def Stack.tooDeep (s : Stack) (ts : List Token) : Reading :=
  ⟨.error .nestingTooDeep, ts, s.depth + 1⟩

/-- Ends the reading before `ts` with the operand `e`, for which no operator waits: it is the
expression unless a parenthesis is open. A grouping is left before its parenthesis is looked
for, a call afterwards. -/
def Stack.halt (stop : Nat) (s : Stack) (e : Expr) (ts : List Token) : Reading :=
  let missing (closer : Closer) : ParseError :=
    .unexpectedToken closer (foundAt ts) (positionAt stop ts)
  match s.frames with
  | [] => ⟨.ok e, ts, s.depth⟩
  | ⟨.grouping, _⟩ :: _ => ⟨.error (missing .grouping), ts, s.depth - 1⟩
  | ⟨.call _ _, _⟩ :: _ => ⟨.error (missing .arguments), ts, s.depth⟩

/-- No operand starts at the first of `ts`. -/
def Stack.noOperand (stop : Nat) (s : Stack) (ts : List Token) : Reading :=
  ⟨.error (.expectedExpression (foundAt ts) (positionAt stop ts)), ts, s.depth⟩

mutual

/-- Reads an operand, with `s` open, from the tokens before the position `stop`. A call that was
just opened may be closed instead. -/
def operand (stop : Nat) (s : Stack) : List Token → Reading
  | [] => s.noOperand stop []
  | t :: ts =>
    match t.kind with
    | .number value => follow stop s (.literal value) ts
    | .name name => follow stop s (.reference name) ts
    | .symbol .leftParen =>
      if maxNesting ≤ s.depth then s.tooDeep ts else operand stop (s.enter .grouping) ts
    | .symbol .minus =>
      if maxNesting ≤ s.depth then s.tooDeep ts else operand stop (s.nest .negation) ts
    | .symbol .rightParen =>
      match s.waiting, s.frames with
      | [], ⟨.call name [], outer⟩ :: frames =>
        follow stop ⟨outer, frames, s.depth - 1⟩ (.call name []) ts
      | _, _ => s.noOperand stop (t :: ts)
    | _ => s.noOperand stop (t :: ts)

/-- Goes on after the operand `e`, with `s` open. A name is called by the parenthesis that
follows it. -/
def follow (stop : Nat) (s : Stack) (e : Expr) : List Token → Reading
  | [] =>
    let (s, e) := s.collapse 0 e
    s.halt stop e []
  | t :: ts =>
    match t.kind, e with
    | .symbol .leftParen, .reference name =>
      if maxNesting ≤ s.depth then s.tooDeep ts else operand stop (s.enter (.call name [])) ts
    | .symbol .caret, e =>
      if maxNesting ≤ s.depth then s.tooDeep ts else operand stop (s.nest (.power e)) ts
    | .symbol symbol, e =>
      match symbol.chained? with
      | some op =>
        let (s, left) := s.collapse op.level e
        operand stop (s.wait (.chain op left)) ts
      | none =>
        let (s, e) := s.collapse 0 e
        match symbol, s.frames with
        | .rightParen, ⟨bracket, outer⟩ :: frames =>
          follow stop ⟨outer, frames, s.depth - 1⟩ (bracket.close e) ts
        | .comma, ⟨.call name args, outer⟩ :: frames =>
          operand stop ⟨[], ⟨.call name (e :: args), outer⟩ :: frames, s.depth⟩ ts
        | _, _ => s.halt stop e (t :: ts)
    | _, e =>
      let (s, e) := s.collapse 0 e
      s.halt stop e (t :: ts)

end

/-! ## The parser -/

/-- The tokens that are left before the end, the position of the end, and the nesting depth. -/
structure Parser where
  rest : List Token
  stop : Nat
  depth : Nat

namespace Parser

/-- The position of the first end among `ts`; without one, that of the end of the last token. -/
def stopPosition : List Token → Nat
  | [] => 0
  | t :: ts =>
    if t.isStop then t.position
    else if ts.isEmpty then t.position + t.lexeme.length
    else stopPosition ts

/-- A parser of the tokens before the first end. -/
def ofTokens (ts : List Token) : Parser :=
  ⟨ts.takeWhile (!·.isStop), stopPosition ts, 0⟩

/-- Reads one expression. -/
def expression (p : Parser) : Except ParseError Expr × Parser :=
  let reading := operand p.stop ⟨[], [], p.depth⟩ p.rest
  (reading.result, ⟨reading.rest, p.stop, reading.depth⟩)

/-- Reads one expression that nothing follows. -/
def parse (p : Parser) : Except ParseError Expr × Parser :=
  match p.expression with
  | (.error e, q) => (.error e, q)
  | (.ok e, q) =>
    if q.rest.isEmpty then (.ok e, q)
    else (.error (.trailingInput (foundAt q.rest) (positionAt q.stop q.rest)), q)

end Parser

/-- The expression that the tokens make up. -/
def parse (ts : List Token) : Except ParseError Expr := (Parser.ofTokens ts).parse.1

end Reckon
