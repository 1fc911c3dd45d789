import Reckon.Proofs.Grammar.Reader

/-!
# Positions in a parse

Positions serve the messages of errors only.

* `Token.unplaced`, `ParseError.unplaced`, `Reading.unplaced`: tokens, errors and readings without
  their positions.
* `Reader.unplaced_run`: without positions, the reader reads the same.
* `parse_congr`: so tokens that differ in their positions make up the same expression, or they have
  the same error up to its position.
-/

namespace Reckon

/-! ## Without positions -/

def Token.unplaced (t : Token) : Token := { t with position := 0 }

def ParseError.unplaced : ParseError → ParseError
  | unexpectedToken expected found _ => .unexpectedToken expected found 0
  | expectedExpression found _ => .expectedExpression found 0
  | trailingInput found _ => .trailingInput found 0
  | nestingTooDeep => .nestingTooDeep

def Reading.unplaced (r : Reading) : Reading :=
  ⟨r.result.mapError ParseError.unplaced, r.rest.map Token.unplaced, r.depth⟩

theorem foundAt_unplaced (ts : List Token) : foundAt (ts.map Token.unplaced) = foundAt ts := by
  cases ts <;> rfl

theorem positionAt_unplaced (ts : List Token) : positionAt 0 (ts.map Token.unplaced) = 0 := by
  cases ts <;> rfl

/-! ## The reader -/

theorem mapError_error {α ε ε' : Type} (f : ε → ε') (err : ε) :
    (Except.error err : Except ε α).mapError f = .error (f err) := rfl

theorem mapError_ok {α ε ε' : Type} (f : ε → ε') (a : α) :
    (Except.ok a : Except ε α).mapError f = .ok a := rfl

namespace Stack

theorem unplaced_noOperand (stop : Nat) (s : Stack) (ts : List Token) :
    (s.noOperand stop ts).unplaced = s.noOperand 0 (ts.map Token.unplaced) := by
  simp only [noOperand, Reading.unplaced, mapError_error, ParseError.unplaced, foundAt_unplaced,
    positionAt_unplaced]

theorem unplaced_halt (stop : Nat) (s : Stack) (e : Expr) (ts : List Token) :
    (s.halt stop e ts).unplaced = s.halt 0 e (ts.map Token.unplaced) := by
  unfold halt
  split <;>
    simp only [Reading.unplaced, mapError_error, mapError_ok, ParseError.unplaced,
      foundAt_unplaced, positionAt_unplaced]

end Stack

namespace Reader

variable {stop : Nat} {ts : List Token}

/-- A construct is refused at the deepest nesting, wherever it stands. -/
theorem unplaced_open {r : Reader} {s : Stack}
    (h : (r.run stop ts).unplaced = r.run 0 (ts.map Token.unplaced)) :
    (if maxNesting ≤ s.depth then s.tooDeep ts else r.run stop ts).unplaced =
      if maxNesting ≤ s.depth then s.tooDeep (ts.map Token.unplaced)
      else r.run 0 (ts.map Token.unplaced) := by
  split
  · rfl
  · exact h

section Step

variable (ih : ∀ r : Reader, (r.run stop ts).unplaced = r.run 0 (ts.map Token.unplaced))
include ih

theorem unplaced_before (s : Stack) (t : Token) :
    (operand stop s (t :: ts)).unplaced = operand 0 s ((t :: ts).map Token.unplaced) := by
  obtain ⟨kind, lexeme, position⟩ := t
  cases kind with
  | number value => exact ih (.after s (.literal value))
  | name name => exact ih (.after s (.reference name))
  | stop => exact s.unplaced_noOperand stop _
  | symbol symbol =>
    cases symbol with
    | leftParen => exact unplaced_open (ih (.before (s.enter .grouping)))
    | minus => exact unplaced_open (ih (.before (s.nest .negation)))
    | rightParen =>
      obtain ⟨ws, fs, d⟩ := s
      cases ws with
      | cons w ws => exact Stack.unplaced_noOperand stop _ _
      | nil =>
        cases fs with
        | nil => exact Stack.unplaced_noOperand stop _ _
        | cons f fs =>
          obtain ⟨bracket, outer⟩ := f
          cases bracket with
          | grouping => exact Stack.unplaced_noOperand stop _ _
          | call name args =>
            cases args with
            | nil => exact ih (.after ⟨outer, fs, d - 1⟩ (.call name []))
            | cons arg args => exact Stack.unplaced_noOperand stop _ _
    | _ => exact s.unplaced_noOperand stop _

theorem unplaced_after (s : Stack) (e : Expr) (t : Token) :
    (follow stop s e (t :: ts)).unplaced = follow 0 s e ((t :: ts).map Token.unplaced) := by
  have hhalt := (s.collapse 0 e).1.unplaced_halt stop (s.collapse 0 e).2 (t :: ts)
  obtain ⟨kind, lexeme, position⟩ := t
  cases kind with
  | number value => exact hhalt
  | name name => exact hhalt
  | stop => exact hhalt
  | symbol symbol =>
    cases hchained : symbol.chained? with
    | some op =>
      rw [List.map_cons, follow_operator rfl hchained, follow_operator rfl hchained]
      exact ih (.before _)
    | none =>
      cases symbol with
      | caret => exact unplaced_open (ih (.before (s.nest (.power e))))
      | leftParen =>
        cases e with
        | reference name => exact unplaced_open (ih (.before (s.enter (.call name []))))
        | _ => exact hhalt
      | rightParen =>
        obtain ⟨ws, fs, d⟩ := s
        cases fs with
        | nil => exact hhalt
        | cons f fs => exact ih (.after ⟨f.outer, fs, _⟩ (f.bracket.close _))
      | comma =>
        obtain ⟨ws, fs, d⟩ := s
        cases fs with
        | nil => exact hhalt
        | cons f fs =>
          obtain ⟨bracket, outer⟩ := f
          cases bracket with
          | grouping => exact hhalt
          | call name args => exact ih (.before ⟨[], ⟨.call name (_ :: args), outer⟩ :: fs, _⟩)
      | _ => cases hchained

end Step

/-- Without positions, the reader reads the same. -/
theorem unplaced_run (r : Reader) (stop : Nat) (ts : List Token) :
    (r.run stop ts).unplaced = r.run 0 (ts.map Token.unplaced) := by
  induction ts generalizing r with
  | nil =>
    cases r with
    | before s => exact s.unplaced_noOperand stop []
    | after s e =>
      rw [run, follow_nil, List.map_nil, run, follow_nil]
      exact Stack.unplaced_halt stop _ _ []
  | cons t ts ih =>
    cases r with
    | before s => exact unplaced_before ih s t
    | after s e => exact unplaced_after ih s e t

end Reader

/-! ## The parser -/

namespace Parser

def unplaced (p : Parser) : Parser := ⟨p.rest.map Token.unplaced, 0, p.depth⟩

theorem unplaced_expression (p : Parser) :
    p.unplaced.expression =
      (p.expression.1.mapError ParseError.unplaced, p.expression.2.unplaced) := by
  have hrun := Reader.unplaced_run (.before ⟨[], [], p.depth⟩) p.stop p.rest
  simp only [Reader.run] at hrun
  simp only [expression, unplaced, ← hrun, Reading.unplaced]

theorem unplaced_parse (p : Parser) :
    p.unplaced.parse.1 = p.parse.1.mapError ParseError.unplaced := by
  rw [parse, parse, unplaced_expression]
  obtain ⟨result, q⟩ := p.expression
  cases result with
  | error e => rfl
  | ok e =>
    obtain ⟨rest, stop, depth⟩ := q
    cases rest with
    | nil => rfl
    | cons t rest => rfl

/-- Which tokens come before the end does not depend on the positions. -/
theorem unplaced_ofTokens (ts : List Token) :
    (ofTokens ts).unplaced = ⟨(ts.map Token.unplaced).takeWhile (!·.isStop), 0, 0⟩ := by
  rw [ofTokens, unplaced, List.takeWhile_map]
  rfl

end Parser

/-- Tokens that differ in their positions only make up the same expression, or they have the same
error up to its position. -/
theorem parse_congr {ts ts' : List Token} (h : ts.map Token.unplaced = ts'.map Token.unplaced) :
    (parse ts).mapError ParseError.unplaced = (parse ts').mapError ParseError.unplaced := by
  rw [parse, parse, ← Parser.unplaced_parse, ← Parser.unplaced_parse, Parser.unplaced_ofTokens,
    Parser.unplaced_ofTokens, h]

end Reckon
