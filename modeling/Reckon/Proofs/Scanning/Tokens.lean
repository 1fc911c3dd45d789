import Reckon.Proofs.Scanning.Lexemes

/-!
# The tokens of a text

* `Scanner.tokens_eq`: the tokens are the first one and those after it.
* `Scanner.Reads`, `Scanner.reads_of_tokens`, `Scanner.Reads.tokens_eq_ok`: what a scanner does that
  meets no fault.
  `proper_of_scan`: a text that is scanned has proper tokens, and its end as the last one.
* `Scans cs ks rest`: the text `cs` is cut into tokens of the kinds `ks` up to `rest`.
  `Scans.symbol`, `Scans.spelled`: what is written in front of such a text.
* `scan_of_scans`: a text that is cut into tokens up to its end is scanned to these.
* `kindsWithin`, `Scans.of_kindsWithin`: the kinds of the tokens of a given text are computed.
-/

namespace Reckon

namespace Scanner

theorem tokens_eq (s : Scanner) :
    s.tokens =
      match s.next with
      | (.error e, _) => .error e
      | (.ok token, t) => if token.isStop then .ok [token] else t.tokens.map (token :: ·) := by
  rw [tokens]
  split
  · next heq => simp only [heq]
  · next token t heq =>
    split
    · next hstop => simp only [heq, if_pos hstop]
    · next hstop =>
      simp only [heq, if_neg hstop]
      cases t.tokens <;> rfl

/-- Blanks in front make no difference but for the positions. -/
theorem tokens_congr {s t : Scanner} (h : s.skipBlanks = t.skipBlanks) : s.tokens = t.tokens := by
  rw [tokens_eq, tokens_eq t, next, next, h]

theorem next_of_nil {s : Scanner} (h : s.skipBlanks.rest = []) :
    s.next = (.ok (.stopAt s.skipBlanks.position), s.skipBlanks) := by
  unfold next
  simp only [h]

theorem next_of_token {s : Scanner} {c : Char} {cs chars : List Char} {kind : TokenKind}
    (h : s.skipBlanks.rest = c :: cs) (hlex : lexemeAt c cs = .token kind chars) :
    s.next = (.ok ⟨kind, String.ofList chars, s.skipBlanks.position⟩,
      s.skipBlanks.advance chars.length) := by
  unfold next
  simp only [h, hlex]

theorem tokens_of_token {s t : Scanner} {token : Token} (h : s.next = (.ok token, t))
    (hstop : token.isStop = false) : s.tokens = t.tokens.map (token :: ·) := by
  rw [tokens_eq, h]
  simp only [hstop, Bool.false_eq_true, if_false]

/-- A character that is left after the blanks is none. -/
theorem not_isBlank_of_skipBlanks {s : Scanner} {c : Char} {cs : List Char}
    (h : s.skipBlanks.rest = c :: cs) : Text.isBlank c = false := by
  have hhead := List.head?_dropWhile_not Text.isBlank s.rest
  have hdrop : s.rest.dropWhile Text.isBlank = c :: cs := h
  rw [hdrop] at hhead
  simpa using hhead

end Scanner

/-- The end of the text is no token that is cut from it. -/
theorem isStop_of_proper {kind : TokenKind} (h : kind.Proper) (lexeme : String) (position : Nat) :
    (Token.mk kind lexeme position).isStop = false := by
  cases kind with
  | stop => exact h.elim
  | _ => rfl

/-! ## What is scanned -/

/-- The scanner reads these tokens, one after the other, up to the end of the text. -/
inductive Scanner.Reads : Scanner → List Token → Prop where
  | stop {s : Scanner} (atEnd : s.skipBlanks.rest = []) : Reads s [.stopAt s.skipBlanks.position]
  | token {s : Scanner} {c cs kind chars ts} (left : s.skipBlanks.rest = c :: cs)
      (lexeme : lexemeAt c cs = .token kind chars)
      (reads : Reads (s.skipBlanks.advance chars.length) ts) :
      Reads s (⟨kind, String.ofList chars, s.skipBlanks.position⟩ :: ts)

theorem Scanner.reads_of_tokens {s : Scanner} {all : List Token} (h : s.tokens = .ok all) :
    s.Reads all := by
  induction hn : s.rest.length using Nat.strongRecOn generalizing s all with
  | ind n ih =>
    cases hrest : s.skipBlanks.rest with
    | nil =>
      rw [Scanner.tokens_eq, Scanner.next_of_nil hrest] at h
      obtain rfl := Except.ok.inj h
      exact .stop hrest
    | cons c cs =>
      cases hlex : lexemeAt c cs with
      | fault cause read =>
        simp [Scanner.tokens_eq, Scanner.next, hrest, hlex] at h
      | token kind chars =>
        have hproper : kind.Proper :=
          proper_of_lexemeAt (Scanner.not_isBlank_of_skipBlanks hrest) hlex
        have hnext := Scanner.next_of_token hrest hlex
        have hstop := isStop_of_proper hproper (String.ofList chars) s.skipBlanks.position
        have hlength := Scanner.length_rest_next hnext hstop
        rw [Scanner.tokens_of_token hnext hstop] at h
        cases htokens : (s.skipBlanks.advance chars.length).tokens with
        | error e =>
          rw [htokens] at h
          cases h
        | ok after =>
          rw [htokens] at h
          obtain rfl := Except.ok.inj h
          exact .token hrest hlex (ih _ (hn ▸ hlength) htokens rfl)

theorem Scanner.Reads.tokens_eq_ok {s : Scanner} {all : List Token} (h : s.Reads all) :
    s.tokens = .ok all := by
  induction h with
  | stop hrest =>
    rw [Scanner.tokens_eq, Scanner.next_of_nil hrest]
    rfl
  | token hrest hlex _ ih =>
    have hproper := proper_of_lexemeAt (Scanner.not_isBlank_of_skipBlanks hrest) hlex
    rw [Scanner.tokens_of_token (Scanner.next_of_token hrest hlex)
      (isStop_of_proper hproper _ _), ih]
    rfl

theorem proper_of_tokens {s : Scanner} {all : List Token} (h : s.tokens = .ok all) :
    ∃ ts last, all = ts ++ [last] ∧ last.isStop = true ∧ ∀ t ∈ ts, t.kind.Proper := by
  have hreads := Scanner.reads_of_tokens h
  clear h
  induction hreads with
  | stop _ => exact ⟨[], _, rfl, rfl, fun t ht => absurd ht List.not_mem_nil⟩
  | token hrest hlex _ ih =>
    obtain ⟨ts, last, rfl, hlast, hts⟩ := ih
    have hproper := proper_of_lexemeAt (Scanner.not_isBlank_of_skipBlanks hrest) hlex
    exact ⟨_ :: ts, last, rfl, hlast, List.forall_mem_cons.2 ⟨hproper, hts⟩⟩

/-- The tokens of a text that is scanned are proper, but for its end. -/
theorem proper_of_scan {text : String} {all : List Token} (h : scan text = .ok all) :
    ∃ ts last, all = ts ++ [last] ∧ last.isStop = true ∧ ∀ t ∈ ts, t.kind.Proper :=
  proper_of_tokens h

/-! ## Texts that are cut into tokens -/

/-- The text is cut into tokens of the kinds `ks`, with blanks between them, up to `rest`. -/
inductive Scans : List Char → List TokenKind → List Char → Prop where
  | done rest : Scans rest [] rest
  | blank {c cs ks rest} (blank : Text.isBlank c = true) (scans : Scans cs ks rest) :
      Scans (c :: cs) ks rest
  | token {c cs kind ks chars after rest} (notBlank : Text.isBlank c = false)
      (lexeme : lexemeAt c cs = .token kind chars) (split : c :: cs = chars ++ after)
      (scans : Scans after ks rest) : Scans (c :: cs) (kind :: ks) rest

theorem tokens_of_scans {cs : List Char} {ks : List TokenKind} (h : Scans cs ks [])
    (position : Nat) :
    ∃ ts last, (Scanner.mk cs position).tokens = .ok (ts ++ [last]) ∧ last.isStop = true ∧
      (∀ t ∈ ts, t.isStop = false) ∧ ts.map Token.kind = ks := by
  generalize hrest : [] = rest at h
  induction h generalizing position with
  | done rest =>
    subst hrest
    refine ⟨[], .stopAt position, ?_, rfl, fun t ht => absurd ht List.not_mem_nil, rfl⟩
    rw [Scanner.tokens_eq, Scanner.next_of_nil rfl]
    rfl
  | @blank c cs ks rest hblank _ ih =>
    have hskip : (Scanner.mk (c :: cs) position).skipBlanks =
        (Scanner.mk cs (position + 1)).skipBlanks := by
      simp only [Scanner.skipBlanks, List.dropWhile_cons, List.takeWhile_cons, hblank, if_true,
        List.length_cons, Scanner.mk.injEq, true_and]
      omega
    rw [Scanner.tokens_congr hskip]
    exact ih (position + 1) hrest
  | @token c cs kind ks chars after rest hblank hlex hsplit _ ih =>
    have hskip : (Scanner.mk (c :: cs) position).skipBlanks = ⟨c :: cs, position⟩ := by
      simp [Scanner.skipBlanks, hblank]
    have hnext := Scanner.next_of_token (s := ⟨c :: cs, position⟩) (by rw [hskip]) hlex
    have hafter : (Scanner.mk (c :: cs) position).advance chars.length =
        ⟨after, position + chars.length⟩ := by
      rw [Scanner.advance, hsplit, List.drop_left]
    rw [hskip, hafter] at hnext
    have hstop := isStop_of_proper (proper_of_lexemeAt hblank hlex) (String.ofList chars) position
    obtain ⟨ts, last, htokens, hlast, hts, hkinds⟩ := ih (position + chars.length) hrest
    refine ⟨⟨kind, String.ofList chars, position⟩ :: ts, last, ?_, hlast,
      List.forall_mem_cons.2 ⟨hstop, hts⟩, by rw [← hkinds]; rfl⟩
    rw [Scanner.tokens_of_token hnext hstop, htokens]
    rfl

/-- A text that is cut into tokens up to its end is scanned to these. -/
theorem scan_of_scans {text : String} {ks : List TokenKind} (h : Scans text.toList ks []) :
    ∃ ts last, scan text = .ok (ts ++ [last]) ∧ last.isStop = true ∧
      (∀ t ∈ ts, t.isStop = false) ∧ ts.map Token.kind = ks :=
  tokens_of_scans h 0

/-! ## Computed kinds -/

/-- The kinds of the tokens of a text, in so many steps of a blank or a token each. -/
def kindsWithin : Nat → List Char → Option (List TokenKind)
  | _, [] => some []
  | 0, _ :: _ => none
  | steps + 1, c :: cs =>
    if Text.isBlank c then kindsWithin steps cs
    else
      match lexemeAt c cs with
      | .token kind chars => (kindsWithin steps ((c :: cs).drop chars.length)).map (kind :: ·)
      | .fault _ _ => none

theorem Scans.of_kindsWithin {steps : Nat} {cs : List Char} {ks : List TokenKind}
    (h : kindsWithin steps cs = some ks) : Scans cs ks [] := by
  induction steps generalizing cs ks with
  | zero =>
    cases cs with
    | nil => cases h; exact .done []
    | cons c cs => cases h
  | succ steps ih =>
    cases cs with
    | nil => cases h; exact .done []
    | cons c cs =>
      rw [kindsWithin] at h
      split at h
      · next hblank => exact .blank hblank (ih h)
      · next hblank =>
        have hblank : Text.isBlank c = false := eq_false_of_ne_true hblank
        cases hlex : lexemeAt c cs with
        | fault cause offset =>
          rw [hlex] at h
          cases h
        | token kind chars =>
          obtain ⟨-, after, hsplit⟩ := spelled_of_lexemeAt hblank hlex
          simp only [hlex, Option.map_eq_some_iff, ← hsplit, List.drop_left] at h
          obtain ⟨ks', hrest, rfl⟩ := h
          exact .token hblank hlex hsplit.symm (ih hrest)

/-! ## What is written in front -/

section Front

variable {after rest : List Char} {ks : List TokenKind}

theorem Scans.symbol {text : List Char} {s : Symbol} (hs : symbolAt? text = some s)
    (hsplit : text = s.chars ++ after) (h : Scans after ks rest) :
    Scans text (.symbol s :: ks) rest := by
  obtain ⟨c, cs, hchars⟩ := List.exists_cons_of_ne_nil s.chars_ne_nil
  have hc : Text.isBlank c = false := s.not_isBlank c (hchars ▸ List.mem_cons_self)
  obtain rfl : text = c :: (cs ++ after) := by rw [hsplit, hchars, List.cons_append]
  exact .token hc (lexemeAt_symbol hs) hsplit h

theorem Scans.spelled {kind : TokenKind} {cs : List Char} (hkind : kind.Spelled cs)
    (hafter : Breaks after) (h : Scans after ks rest) : Scans (cs ++ after) (kind :: ks) rest := by
  obtain ⟨c, cs, rfl⟩ := List.exists_cons_of_ne_nil hkind.ne_nil
  have hc : Text.isBlank c = false := hkind.not_isBlank c List.mem_cons_self
  exact .token hc (lexemeAt_of_spelled hkind hafter) rfl h

theorem Scans.name {name : String} (hname : IsName name.toList) (hafter : Delimited after)
    (h : Scans after ks rest) : Scans (name.toList ++ after) (.name name :: ks) rest :=
  .spelled ⟨rfl, hname⟩ hafter.breaks h

theorem Scans.number {x : Decimal} (hx : (TokenKind.number x).Proper) (hafter : Delimited after)
    (h : Scans after ks rest) :
    Scans (x.plainChars ++ after) (.number x.plainForm :: ks) rest := by
  obtain ⟨hcoeff, hscale⟩ := hx
  exact .spelled (TokenKind.spelled_plainChars hcoeff (by omega)) hafter.breaks h

end Front

end Reckon
