import Reckon.Proofs.Grammar.Reader
import Reckon.Proofs.Text.OneLine

/-!
# Errors of a parse

* `ParseError.oneLine_unexpectedToken` and the others: a message is of one line when what it quotes
  is.
* `Ends.oneLine`: a reading quotes a token that it was given, or the end.
* `oneLine_of_parse`: so messages are of one line when the tokens are.
-/

namespace Reckon

/-- What is found is the end, or a token that is left. -/
theorem Found.oneLine_foundAt {ts : List Token} (h : ∀ t ∈ ts, Text.OneLine t.lexeme) :
    Text.OneLine (foundAt ts).text := by
  cases ts with
  | nil => decide
  | cons t ts =>
    show Text.OneLine s!"'{t.lexeme}'"
    simp +decide only [Text.oneLine_append, Text.oneLine_toString, h t List.mem_cons_self]

namespace ParseError

variable {found : Found} (h : Text.OneLine found.text) (position : Nat)
include h

theorem oneLine_unexpectedToken (expected : Closer) :
    Text.OneLine (unexpectedToken expected found position).message := by
  have hexpected : Text.OneLine expected.text := by cases expected <;> decide
  show Text.OneLine s!"Expected {expected.text} at position {position}, found {found.text}"
  simp +decide only [Text.oneLine_append, Text.oneLine_toString, Text.oneLine_toString_nat, h,
    hexpected]

theorem oneLine_expectedExpression :
    Text.OneLine (expectedExpression found position).message := by
  show Text.OneLine s!"Expected expression at position {position}, found {found.text}"
  simp +decide only [Text.oneLine_append, Text.oneLine_toString, Text.oneLine_toString_nat, h]

theorem oneLine_trailingInput : Text.OneLine (trailingInput found position).message := by
  show Text.OneLine s!"Expected end of expression at position {position}, found {found.text}"
  simp +decide only [Text.oneLine_append, Text.oneLine_toString, Text.oneLine_toString_nat, h]

end ParseError

theorem ParseError.oneLine_nestingTooDeep : Text.OneLine nestingTooDeep.message := by
  show Text.OneLine s!"Expression is nested more than {maxNesting} levels deep"
  decide

theorem Stack.oneLine_halt {stop : Nat} {s : Stack} {e : Expr} {ts : List Token} {err : ParseError}
    (h : (s.halt stop e ts).result = .error err) (hts : ∀ t ∈ ts, Text.OneLine t.lexeme) :
    Text.OneLine err.message := by
  have hfound := Found.oneLine_foundAt hts
  unfold halt at h
  split at h <;> cases h
  · exact ParseError.oneLine_unexpectedToken hfound _ _
  · exact ParseError.oneLine_unexpectedToken hfound _ _

theorem Stack.rest_halt (stop : Nat) (s : Stack) (e : Expr) (ts : List Token) :
    (s.halt stop e ts).rest = ts := by
  unfold halt
  split <;> rfl

theorem Ends.oneLine {base stop : Nat} {ks : List TokenKind} {ts : List Token} {r : Reading}
    (h : Ends base stop ks ts r) (hts : ∀ t ∈ ts, Text.OneLine t.lexeme) :
    (∀ err, r.result = .error err → Text.OneLine err.message) ∧
      ∀ t ∈ r.rest, Text.OneLine t.lexeme := by
  cases h with
  | @noOperand read s rest split opened =>
    have hrest : ∀ t ∈ rest, Text.OneLine t.lexeme := fun t ht =>
      hts t (split ▸ List.mem_append_right _ ht)
    refine ⟨?_, hrest⟩
    rintro err ⟨⟩
    exact ParseError.oneLine_expectedExpression (Found.oneLine_foundAt hrest) _
  | @tooDeep read s t rest split full =>
    refine ⟨?_, fun t ht => hts t (split ▸ List.mem_append_right _ (List.mem_cons_of_mem _ ht))⟩
    rintro err ⟨⟩
    exact ParseError.oneLine_nestingTooDeep
  | @halt read ks' s e rest split opened waiting operand kinds =>
    have hrest : ∀ t ∈ rest, Text.OneLine t.lexeme := fun t ht =>
      hts t (split ▸ List.mem_append_right _ ht)
    exact ⟨fun err herr => s.oneLine_halt herr hrest, (s.rest_halt stop e rest).symm ▸ hrest⟩

theorem Parser.oneLine_parse {p : Parser} (hts : ∀ t ∈ p.rest, Text.OneLine t.lexeme)
    {err : ParseError} (h : p.parse.1 = .error err) : Text.OneLine err.message := by
  have hread : Reader.Read p.depth [] (.before ⟨[], [], p.depth⟩) := .before .start
  obtain ⟨herror, hrest⟩ := (hread.ends p.stop p.rest).oneLine hts
  rw [parse, expression] at h
  cases hresult : (operand p.stop ⟨[], [], p.depth⟩ p.rest).result with
  | error err' =>
    simp only [hresult] at h
    obtain rfl := Except.error.inj h
    exact herror _ hresult
  | ok e =>
    simp only [hresult] at h
    split at h
    · cases h
    · obtain rfl := Except.error.inj h
      exact ParseError.oneLine_trailingInput (Found.oneLine_foundAt hrest) _

/-- A parse quotes nothing but tokens. -/
theorem oneLine_of_parse {ts : List Token} (hts : ∀ t ∈ ts, Text.OneLine t.lexeme)
    {err : ParseError} (h : parse ts = .error err) : Text.OneLine err.message :=
  Parser.oneLine_parse (fun t ht => hts t ((List.takeWhile_sublist _).mem ht)) h

end Reckon
