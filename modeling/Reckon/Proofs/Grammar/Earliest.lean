import Reckon.Proofs.Grammar.Recognition

/-!
# Errors are found at the first token that cannot be

* `Open.complete`, `Reader.Read.complete`: whatever the reader has read begins a tree of the
  grammar. An operand that is awaited may be a number, and then all parentheses are closed.
* `Reading.EndsAt`: a reading ends at a token that it did not take, and its error is found there.
  `Reader.Stuck`: so it does with the token `t`, whatever follows, or `t` nests too deep.
* `Reader.GoesOn`, `Reader.Read.goesOn`: the reader goes on up to the end or to a token with which
  it is stuck.
* `exists_parse_of_read`, `parse_ne_ok_of_stuck`: what that means for the parser.
* `parse_error_earliest`: what stands in front of a syntax error can be completed, and nothing that
  begins with the token at fault as well is parsed.
-/

namespace Reckon

/-! ## Completions -/

/-- So many closing parentheses. -/
def closing (n : Nat) : List Token := List.replicate n ⟨.symbol .rightParen, ")", 0⟩

theorem isStop_of_mem_closing {n : Nat} {t : Token} (h : t ∈ closing n) : t.isStop = false := by
  rw [List.eq_of_mem_replicate h]
  rfl

/-- Once nothing waits for an operand, closing parentheses complete all that is open. -/
theorem Open.complete {base : Nat} {fs : List Frame} {ks : List TokenKind} {d : Nat} {e : Expr}
    (h : Open base ks ⟨[], fs, d⟩) (he : e.ReadAt base d) :
    ∃ e' : Expr, e'.ReadAt base base ∧
      e'.kinds = ks ++ e.kinds ++ (closing fs.length).map Token.kind := by
  induction fs generalizing ks d e with
  | nil =>
    cases h
    exact ⟨e, he, by simp [closing]⟩
  | cons f fs ih =>
    obtain ⟨ks', houter, hclosed, hkinds⟩ := h.close he
    obtain ⟨ks'', e', d', -, hopen, he', hkinds'⟩ :=
      houter.collapse_all hclosed (f.bracket.level_close e ▸ Nat.lt_succ_self _)
    obtain ⟨whole, hwhole, hwritten⟩ := ih hopen he'
    refine ⟨whole, hwhole, ?_⟩
    rw [hwritten, hkinds', hkinds]
    simp [closing, List.replicate_succ]

namespace Reader

variable {base : Nat} {ks : List TokenKind} {r r' : Reader}

/-- What the reader has read is the beginning of a tree of the grammar that it may read. -/
theorem Read.complete (h : r.Read base ks) :
    ∃ (more : List Token) (e : Expr), (∀ t ∈ more, t.isStop = false) ∧ e.ReadAt base base ∧
      e.kinds = ks ++ more.map Token.kind := by
  cases h with
  | @before ks s opened =>
    have hzero : (Expr.literal .zero).ReadAt base s.depth := ⟨trivial, opened.depth_le⟩
    obtain ⟨ks', e', d, -, hopen, he', hkinds⟩ := opened.collapse_all hzero (Nat.lt_succ_self _)
    obtain ⟨whole, hwhole, hwritten⟩ := hopen.complete he'
    refine ⟨⟨.number .zero, "0", 0⟩ :: closing s.frames.length, whole, ?_, hwhole, ?_⟩
    · exact List.forall_mem_cons.2 ⟨rfl, fun t ht => isStop_of_mem_closing ht⟩
    · rw [hwritten, hkinds]
      simp [Expr.kinds]
  | @after ks s e opened operand primary =>
    obtain ⟨ks', e', d, -, hopen, he', hkinds⟩ := opened.collapse_all operand primary
    obtain ⟨whole, hwhole, hwritten⟩ := hopen.complete he'
    exact ⟨closing s.frames.length, whole, fun t ht => isStop_of_mem_closing ht, hwhole,
      by rw [hwritten, hkinds]⟩

end Reader

/-! ## Where readings end -/

/-- What was found instead, and where, if it is a token that is at fault. -/
def ParseError.place? : ParseError → Option (Found × Nat)
  | unexpectedToken _ found position => some (found, position)
  | expectedExpression found position => some (found, position)
  | trailingInput found position => some (found, position)
  | nestingTooDeep => none

/-- The reading leaves `ts`, and an error is found at its beginning. -/
structure Reading.EndsAt (stop : Nat) (ts : List Token) (reading : Reading) : Prop where
  rest : reading.rest = ts
  place : ∀ err, reading.result = .error err → err.place? = some (foundAt ts, positionAt stop ts)

theorem Stack.endsAt_noOperand (stop : Nat) (s : Stack) (ts : List Token) :
    (s.noOperand stop ts).EndsAt stop ts := by
  refine ⟨rfl, ?_⟩
  rintro err ⟨⟩
  rfl

theorem Stack.endsAt_halt (stop : Nat) (s : Stack) (e : Expr) (ts : List Token) :
    (s.halt stop e ts).EndsAt stop ts := by
  unfold halt
  constructor
  · split <;> rfl
  · intro err herr
    split at herr
    · cases herr
    · cases herr
      rfl
    · cases herr
      rfl

/-- The reader does not go on with `t`, whatever follows it. -/
inductive Reader.Stuck (r : Reader) (t : Token) : Prop where
  /-- The reading ends in front of `t`. -/
  | here (endsAt : ∀ stop ts, (r.run stop (t :: ts)).EndsAt stop (t :: ts))
  /-- What `t` opens is nested too deep. -/
  | tooDeep (result : ∀ stop ts, (r.run stop (t :: ts)).result = .error .nestingTooDeep)
      (rest : ∀ stop ts, (r.run stop (t :: ts)).rest = ts)

namespace Reader

variable {base : Nat} {ks : List TokenKind} {r r' : Reader}

theorem Read.endsAt_nil (h : r.Read base ks) (stop : Nat) : (r.run stop []).EndsAt stop [] := by
  cases h with
  | before opened => exact Stack.endsAt_noOperand stop _ []
  | after opened operand primary =>
    rw [run, follow_nil]
    exact Stack.endsAt_halt stop _ _ []

/-- The reader takes the token, or it is stuck with it. -/
theorem Step.advance_or_stuck {t : Token} (h : Step base ks r t) :
    (∃ r' : Reader, r'.Read base (ks ++ [t.kind]) ∧
      ∀ stop ts, r.run stop (t :: ts) = r'.run stop ts) ∨ r.Stuck t := by
  cases h with
  | advance r' read run => exact .inl ⟨r', read, run⟩
  | noOperand s _ run =>
    exact .inr (.here fun stop ts => run stop ts ▸ s.endsAt_noOperand stop (t :: ts))
  | tooDeep s _ run =>
    exact .inr (.tooDeep (fun stop ts => by rw [run]; rfl) fun stop ts => by rw [run]; rfl)
  | halt ks' s e _ _ _ _ run =>
    exact .inr (.here fun stop ts => run stop ts ▸ s.endsAt_halt stop e (t :: ts))

/-- `r` gets to `r'` with the tokens `read`, whatever follows them. -/
def Gets (r : Reader) (read : List Token) (r' : Reader) : Prop :=
  ∀ stop ts, r.run stop (read ++ ts) = r'.run stop ts

/-- The reader takes tokens of `ts` and gets to the end, or to a token with which it is stuck. -/
inductive GoesOn (base : Nat) (ks : List TokenKind) (r : Reader) (ts : List Token) : Prop where
  | intro (read rest : List Token) (r' : Reader) (split : ts = read ++ rest)
      (reads : r'.Read base (ks ++ read.map Token.kind)) (gets : r.Gets read r')
      (stuck : ∀ t ∈ rest.head?, r'.Stuck t)

theorem Read.stay (h : r.Read base ks) {ts : List Token} (hstuck : ∀ t ∈ ts.head?, r.Stuck t) :
    GoesOn base ks r ts :=
  .intro [] ts r rfl (by simpa using h) (fun _ _ => rfl) hstuck

theorem GoesOn.cons {t : Token} {ts : List Token} (h : GoesOn base (ks ++ [t.kind]) r' ts)
    (hrun : ∀ stop ts, r.run stop (t :: ts) = r'.run stop ts) : GoesOn base ks r (t :: ts) := by
  obtain ⟨read, rest, r'', rfl, hreads, hgets, hstuck⟩ := h
  refine .intro (t :: read) rest r'' rfl (by simpa using hreads) (fun stop ts => ?_) hstuck
  rw [List.cons_append, hrun, hgets]

theorem Read.goesOn (h : r.Read base ks) (ts : List Token) : GoesOn base ks r ts := by
  induction ts generalizing ks r with
  | nil => exact h.stay fun t ht => absurd ht (by simp)
  | cons t ts ih =>
    rcases (h.step t).advance_or_stuck with ⟨r', hread, hrun⟩ | hstuck
    · exact (ih hread).cons hrun
    · refine h.stay fun u hu => ?_
      obtain rfl := Option.some.inj hu
      exact hstuck

/-- The reader before the first token. -/
def start : Reader := .before ⟨[], [], 0⟩

theorem read_start : start.Read 0 [] := .before .start

end Reader

/-! ## The parser -/

namespace Parser

variable {p q : Parser} {err : ParseError} {reading : Reading}

/-- An error of the parser is that of the reading, or the reading leaves tokens. -/
theorem place_of_parse {stop : Nat} {rest : List Token} (h : p.parse = (.error err, q))
    (hreading : operand p.stop ⟨[], [], p.depth⟩ p.rest = reading) (hstop : p.stop = stop)
    (hends : reading.EndsAt stop rest) :
    q.rest = rest ∧ err.place? = some (foundAt rest, positionAt stop rest) := by
  obtain ⟨hrest, hplace⟩ := hends
  subst hstop
  rw [parse, expression, hreading] at h
  cases hresult : reading.result with
  | error err' =>
    rw [hresult] at h
    cases h
    exact ⟨hrest, hplace _ hresult⟩
  | ok e =>
    rw [hresult] at h
    dsimp only at h
    split at h
    · cases h
    · cases h
      exact ⟨hrest, by rw [← hrest]; rfl⟩

theorem parse_of_tooDeep (h : p.parse = (.error err, q))
    (hreading : operand p.stop ⟨[], [], p.depth⟩ p.rest = reading)
    (hresult : reading.result = .error .nestingTooDeep) :
    err = .nestingTooDeep ∧ q.rest = reading.rest := by
  rw [parse, expression, hreading, hresult] at h
  cases h
  exact ⟨rfl, rfl⟩

end Parser

/-- Nothing is parsed that begins with a token with which the reader is stuck. -/
theorem parse_ne_ok_of_stuck {read : List Token} {t : Token} {r : Reader}
    (hread : ∀ u ∈ read, u.isStop = false) (ht : t.isStop = false)
    (hgets : Reader.start.Gets read r) (hstuck : r.Stuck t) (others : List Token) (e : Expr) :
    parse (read ++ t :: others) ≠ .ok e := by
  have hrest : (Parser.ofTokens (read ++ t :: others)).rest =
      read ++ t :: (Parser.ofTokens others).rest := by
    rw [ofTokens_rest_append hread]
    simp [Parser.ofTokens, ht]
  have hreading : ∀ stop, operand stop ⟨[], [], 0⟩ (read ++ t :: (Parser.ofTokens others).rest) =
      r.run stop (t :: (Parser.ofTokens others).rest) := fun stop => hgets stop _
  rw [parse, ne_eq, parse_result_iff, Parser.expression, hrest]
  rintro ⟨hok, hnil⟩
  replace hok := (congrArg Reading.result (hreading _)).symm.trans hok
  replace hnil := (congrArg Reading.rest (hreading _)).symm.trans hnil
  cases hstuck with
  | here endsAt =>
    rw [(endsAt _ _).rest] at hnil
    cases hnil
  | tooDeep result rest =>
    rw [result] at hok
    cases hok

/-- The tokens that the reader has read begin tokens that are parsed. -/
theorem exists_parse_of_read {read : List Token} {last : Token} {r : Reader}
    (h : r.Read 0 (read.map Token.kind)) (hread : ∀ t ∈ read, t.isStop = false)
    (hlast : last.isStop = true) :
    ∃ more e, (∀ t ∈ more, t.isStop = false) ∧ parse (read ++ more ++ [last]) = .ok e ∧
      e.nesting ≤ maxNesting := by
  obtain ⟨more, e, hmore, he, hkinds⟩ := h.complete
  have hnesting : e.nesting ≤ maxNesting := by simpa using he.room
  refine ⟨more, e, hmore, parse_of_kinds ?_ hlast ?_ he.leveled hnesting, hnesting⟩
  · intro t ht
    exact (List.mem_append.1 ht).elim (hread t) (hmore t)
  · rw [hkinds, List.map_append]

/-- A syntax error is found at the earliest token. If it is found at a token or at the end, the
tokens before that can be completed, and nothing is parsed that goes on with the same token. If the
nesting is too deep, nothing is parsed that begins with the tokens read so far. -/
theorem parse_error_earliest {ts : List Token} {last : Token} {err : ParseError} {q : Parser}
    (hts : ∀ t ∈ ts, t.isStop = false) (hlast : last.isStop = true)
    (h : (Parser.ofTokens (ts ++ [last])).parse = (.error err, q)) :
    ∃ read, ts = read ++ q.rest ∧
      (err ≠ .nestingTooDeep →
        err.place? = some (foundAt q.rest, positionAt last.position q.rest) ∧
        (∃ more e, (∀ t ∈ more, t.isStop = false) ∧ parse (read ++ more ++ [last]) = .ok e ∧
          e.nesting ≤ maxNesting) ∧
        ∀ t rest, q.rest = t :: rest → ∀ others e, parse (read ++ t :: others) ≠ .ok e) ∧
      (err = .nestingTooDeep → ∀ others e, parse (read ++ others) ≠ .ok e) := by
  obtain ⟨read, rest, r, rfl, hread, hgets, hstuck⟩ := Reader.read_start.goesOn ts
  have hkept : ∀ t ∈ read, t.isStop = false := fun t ht => hts t (List.mem_append_left _ ht)
  have hstop : (Parser.ofTokens (read ++ rest ++ [last])).stop = last.position :=
    Parser.stopPosition_append hts hlast []
  -- The reading of the parser is that of the reader which is stuck.
  have hrun : operand (Parser.ofTokens (read ++ rest ++ [last])).stop ⟨[], [], 0⟩
      (Parser.ofTokens (read ++ rest ++ [last])).rest = r.run last.position rest := by
    rw [ofTokens_rest hts hlast, hstop]
    exact hgets _ _
  have hcomplete := exists_parse_of_read hread hkept hlast
  have hfound : (r.run last.position rest).EndsAt last.position rest →
      q.rest = rest ∧ err.place? = some (foundAt rest, positionAt last.position rest) :=
    Parser.place_of_parse h hrun hstop
  have hshallow : err.place? = some (foundAt rest, positionAt last.position rest) →
      err ≠ .nestingTooDeep := by
    rintro hplace rfl
    cases hplace
  cases rest with
  | nil =>
    obtain ⟨hrest, hplace⟩ := hfound (hread.endsAt_nil _)
    refine ⟨read, by rw [hrest], fun _ => ⟨by rw [hrest, hplace], hcomplete, ?_⟩,
      fun hdeep => absurd hdeep (hshallow hplace)⟩
    intro t others hcons
    rw [hrest] at hcons
    cases hcons
  | cons t rest =>
    have ht : t.isStop = false := hts t (List.mem_append_right _ List.mem_cons_self)
    have hrefused := parse_ne_ok_of_stuck hkept ht hgets (hstuck t rfl)
    cases hstuck t rfl with
    | here endsAt =>
      obtain ⟨hrest, hplace⟩ := hfound (endsAt _ _)
      refine ⟨read, by rw [hrest], fun _ => ⟨by rw [hrest, hplace], hcomplete, ?_⟩,
        fun hdeep => absurd hdeep (hshallow hplace)⟩
      intro u others hcons
      rw [hrest] at hcons
      cases hcons
      exact hrefused
    | tooDeep result left =>
      obtain ⟨rfl, hrest⟩ := Parser.parse_of_tooDeep h hrun (result _ _)
      rw [left] at hrest
      refine ⟨read ++ [t], by rw [hrest, List.append_assoc]; rfl, fun hne => absurd rfl hne, ?_⟩
      intro _ others e
      rw [List.append_assoc]
      exact hrefused others e

/-- The tokens of `f(1, (2 3`. What stands in front of the last one lacks two parentheses. -/
theorem parse_error_earliest_grouping :
    let read : List Token := [⟨.name "f", "f", 0⟩, ⟨.symbol .leftParen, "(", 1⟩,
      ⟨.number ⟨1, 0⟩, "1", 2⟩, ⟨.symbol .comma, ",", 3⟩, ⟨.symbol .leftParen, "(", 5⟩,
      ⟨.number ⟨2, 0⟩, "2", 6⟩]
    let t : Token := ⟨.number ⟨3, 0⟩, "3", 8⟩
    (Parser.ofTokens (read ++ [t] ++ [.stopAt 9])).parse =
        (.error (.unexpectedToken .grouping (.lexeme "3") 8), ⟨[t], 9, 1⟩) ∧
      (∃ more e, parse (read ++ more ++ [.stopAt 9]) = .ok e) ∧
      ∀ others e, parse (read ++ t :: others) ≠ .ok e := by
  intro read t
  have hparse : (Parser.ofTokens (read ++ [t] ++ [.stopAt 9])).parse =
      (.error (.unexpectedToken .grouping (.lexeme "3") 8), ⟨[t], 9, 1⟩) := rfl
  obtain ⟨read', hsplit, hfound, -⟩ := parse_error_earliest (by decide) rfl hparse
  obtain rfl : read = read' := List.append_cancel_right hsplit
  obtain ⟨-, ⟨more, e, -, hok, -⟩, hrefused⟩ := hfound nofun
  exact ⟨hparse, ⟨more, e, hok⟩, hrefused t [] rfl⟩

end Reckon
