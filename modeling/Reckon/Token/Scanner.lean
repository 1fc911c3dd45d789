import Reckon.Numeral
import Reckon.Token
import Reckon.Text.Blank
import Reckon.Text.Letter

/-!
# Scanning

* `ScanFault`, `ScanError`: what can stop a scan, and where.
* `symbolAt?`, `numeralAt`, `nameAt`, `lexemeAt`: the token or the fault at the beginning of a
  text, with its characters. They do not depend on the position.
* `Scanner`: the characters not read yet and how many were read. `Scanner.next` skips blanks and
  reads one token; after a fault the scanner stays behind the characters that belong to it.
* `Scanner.tokens`, `scan`: all tokens up to the end, or the first fault.
-/

namespace Reckon

/-! ## Faults -/

/-- What can stop a scan. -/
inductive ScanFault where
  /-- No token starts with this character. -/
  | unexpectedCharacter (c : Char)
  /-- Only the first character of the operator `expected` is there. -/
  | incompleteOperator (c : Char) (expected : Symbol)
  /-- A numeral breaks its grammar or has no value; `lexeme` is what was read of it. -/
  | malformedNumber (lexeme : List Char) (fault : Numeral.Fault)
deriving DecidableEq

/-- A fault and the position of the token that has it. -/
structure ScanError where
  fault : ScanFault
  position : Nat
deriving DecidableEq

def ScanError.message (e : ScanError) : String :=
  match e.fault with
  | .unexpectedCharacter c => s!"Unexpected character '{c}' at position {e.position}"
  | .incompleteOperator c expected =>
    s!"Unexpected '{c}' at position {e.position} (did you mean '{expected.text}'?)"
  | .malformedNumber lexeme fault =>
    s!"Malformed number '{String.ofList lexeme}' at position {e.position}: {fault.reason}"

/-! ## One token -/

/-- A token cut from the beginning of a text, or a fault there with the number of characters that
were read. -/
inductive Lexeme where
  | token (kind : TokenKind) (chars : List Char)
  | fault (cause : ScanFault) (read : Nat)

/-- The symbol at the beginning of `cs`, the longer one where one begins another. -/
def symbolAt? : List Char → Option Symbol
  | '+' :: _ => some .plus
  | '-' :: _ => some .minus
  | '*' :: _ => some .star
  | '/' :: _ => some .slash
  | '%' :: _ => some .percent
  | '^' :: _ => some .caret
  | '(' :: _ => some .leftParen
  | ')' :: _ => some .rightParen
  | ',' :: _ => some .comma
  | '>' :: '=' :: _ => some .greaterEqual
  | '>' :: _ => some .greater
  | '<' :: '=' :: _ => some .lessEqual
  | '<' :: _ => some .less
  | '=' :: '=' :: _ => some .equal
  | '!' :: '=' :: _ => some .notEqual
  | '&' :: '&' :: _ => some .and
  | '|' :: '|' :: _ => some .or
  | _ => none

/-- The operator of which `c` is the first half and that `c` alone does not make. -/
def halfOperator? (c : Char) : Option Symbol :=
  if c = '=' then some .equal
  else if c = '!' then some .notEqual
  else if c = '&' then some .and
  else if c = '|' then some .or
  else none

/-- The numeral at the beginning of `cs`. A point on its own is not read. -/
def numeralAt (cs : List Char) : Lexeme :=
  match Numeral.read cs with
  | .error (fault, read) =>
    .fault (.malformedNumber read fault) (if read = ['.'] then 0 else read.length)
  | .ok n =>
    match n.value with
    | .error fault => .fault (.malformedNumber n.chars fault) n.chars.length
    | .ok value => .token (.number value) n.chars

/-- Letters, the underscore, and other characters beyond ASCII that are neither blank nor
numeric begin a name. -/
def startsName (c : Char) : Bool :=
  Text.isLetter c || c == '_' || (decide (127 < c.toNat) && !Text.isBlank c && !Text.isNumber c)

def continuesName (c : Char) : Bool := Text.isLetter c || Text.isNumber c || c == '_'

/-- The token or the fault at the beginning of `c :: cs`, where `c` is not blank. -/
def lexemeAt (c : Char) (cs : List Char) : Lexeme :=
  match symbolAt? (c :: cs) with
  | some s => .token (.symbol s) s.chars
  | none =>
    match halfOperator? c with
    | some expected => .fault (.incompleteOperator c expected) 0
    | none =>
      if c = '.' ∨ c.isDigit then numeralAt (c :: cs)
      else if startsName c then
        let name := c :: cs.takeWhile continuesName
        .token (.name (String.ofList name)) name
      else .fault (.unexpectedCharacter c) 0

/-! ## The scanner -/

/-- The characters that are left, and how many came before them. -/
structure Scanner where
  rest : List Char
  position : Nat
deriving DecidableEq

namespace Scanner

def ofText (text : String) : Scanner := ⟨text.toList, 0⟩

def advance (s : Scanner) (count : Nat) : Scanner :=
  ⟨s.rest.drop count, s.position + count⟩

def skipBlanks (s : Scanner) : Scanner :=
  ⟨s.rest.dropWhile Text.isBlank, s.position + (s.rest.takeWhile Text.isBlank).length⟩

/-- Skips blanks and reads one token. -/
def next (s : Scanner) : Except ScanError Token × Scanner :=
  let s := s.skipBlanks
  match s.rest with
  | [] => (.ok (.stopAt s.position), s)
  | c :: cs =>
    match lexemeAt c cs with
    | .token kind chars =>
      (.ok ⟨kind, String.ofList chars, s.position⟩, s.advance chars.length)
    | .fault cause read => (.error ⟨cause, s.position⟩, s.advance read)

end Scanner

/-! ## Progress -/

theorem Symbol.chars_ne_nil (s : Symbol) : s.chars ≠ [] := by
  cases s <;> simp [Symbol.chars]

theorem lexemeAt_ne_nil {c : Char} {cs chars : List Char} {kind : TokenKind}
    (h : lexemeAt c cs = .token kind chars) : chars ≠ [] := by
  unfold lexemeAt at h
  split at h
  · next s _ =>
    obtain ⟨-, rfl⟩ := Lexeme.token.inj h
    exact s.chars_ne_nil
  · split at h
    · simp at h
    · split at h
      · next hc =>
        unfold numeralAt at h
        split at h
        · simp at h
        · next n hread =>
          split at h
          · simp at h
          · obtain ⟨-, rfl⟩ := Lexeme.token.inj h
            exact Numeral.chars_ne_nil hc hread
      · split at h
        · obtain ⟨-, rfl⟩ := Lexeme.token.inj h
          simp
        · simp at h

namespace Scanner

/-- Every token but the last one takes characters away. -/
theorem length_rest_next {s t : Scanner} {token : Token} (h : s.next = (.ok token, t))
    (hstop : token.isStop = false) : t.rest.length < s.rest.length := by
  unfold next at h
  simp only at h
  have hskip : s.skipBlanks.rest.length ≤ s.rest.length :=
    (List.dropWhile_sublist (p := Text.isBlank)).length_le
  split at h
  · simp only [Prod.mk.injEq, Except.ok.injEq] at h
    simp [← h.1, Token.isStop, Token.stopAt] at hstop
  · next c cs hrest =>
    split at h
    · next kind chars hlex =>
      simp only [Prod.mk.injEq, Except.ok.injEq] at h
      have hpos := List.length_pos_iff.2 (lexemeAt_ne_nil hlex)
      rw [← h.2, advance, List.length_drop]
      rw [hrest, List.length_cons] at hskip ⊢
      omega
    · simp at h

/-- All tokens up to the end of the text, or the first fault. -/
def tokens (s : Scanner) : Except ScanError (List Token) :=
  match h : s.next with
  | (.error e, _) => .error e
  | (.ok token, t) =>
    if hstop : token.isStop then .ok [token]
    else
      have : t.rest.length < s.rest.length := length_rest_next h (by simpa using hstop)
      match t.tokens with
      | .error e => .error e
      | .ok rest => .ok (token :: rest)
termination_by s.rest.length

end Scanner

/-- The tokens of a text, the last of which is its end. -/
def scan (text : String) : Except ScanError (List Token) := (Scanner.ofText text).tokens

end Reckon
