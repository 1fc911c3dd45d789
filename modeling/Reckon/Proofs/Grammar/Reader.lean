import Reckon.Proofs.Grammar.OpenStack

/-!
# What the reader reads

* `follow_operator`, `follow_rightParen`, `follow_comma`, …: the reader after an operand, one
  equation for each kind of token that goes on.
* `Reader`: the two states of the reader; `Reader.run`: how it goes on from there.
  `Reader.Read base ks r`: `r` is its state after tokens of the kinds `ks`.
* `Reader.Step`, `Reader.Read.step`: what one token does: the reader goes on with the token read,
  or it halts, whatever follows the token.
* `Ends`, `Reader.Read.ends`: how a reading of any tokens ends.
* `expression_sound`: an expression that is read is written with the tokens that were read, it
  respects the levels, and it is nested no deeper than allowed.
-/

namespace Reckon

/-! ## The reader after an operand -/

section Follow

variable {stop : Nat} {s : Stack} {e : Expr} {t : Token} {ts : List Token}

theorem follow_nil : follow stop s e [] = (s.collapse 0 e).1.halt stop (s.collapse 0 e).2 [] := by
  rw [follow]

theorem follow_call {name : String} (h : t.kind = .symbol .leftParen) :
    follow stop s (.reference name) (t :: ts) =
      if maxNesting ≤ s.depth then s.tooDeep ts
      else operand stop (s.enter (.call name [])) ts := by
  rw [follow.eq_def]
  simp only [h]

theorem follow_caret (h : t.kind = .symbol .caret) :
    follow stop s e (t :: ts) =
      if maxNesting ≤ s.depth then s.tooDeep ts else operand stop (s.nest (.power e)) ts := by
  rw [follow.eq_def]
  simp only [h]

theorem follow_operator {symbol : Symbol} {op : Operator} (h : t.kind = .symbol symbol)
    (hop : symbol.chained? = some op) :
    follow stop s e (t :: ts) =
      operand stop ((s.collapse op.level e).1.wait (.chain op (s.collapse op.level e).2)) ts := by
  rw [follow.eq_def]
  cases symbol <;> cases hop <;> simp only [h, Symbol.chained?]

theorem follow_rightParen {e' : Expr} {d : Nat} {b : Bracket} {outer : List Waiting}
    {fs : List Frame} (h : t.kind = .symbol .rightParen)
    (hs : s.collapse 0 e = (⟨[], ⟨b, outer⟩ :: fs, d⟩, e')) :
    follow stop s e (t :: ts) = follow stop ⟨outer, fs, d - 1⟩ (b.close e') ts := by
  rw [follow.eq_def]
  simp only [h, Symbol.chained?, hs]

theorem follow_comma {e' : Expr} {d : Nat} {name : String} {args : List Expr}
    {outer : List Waiting} {fs : List Frame} (h : t.kind = .symbol .comma)
    (hs : s.collapse 0 e = (⟨[], ⟨.call name args, outer⟩ :: fs, d⟩, e')) :
    follow stop s e (t :: ts) =
      operand stop ⟨[], ⟨.call name (e' :: args), outer⟩ :: fs, d⟩ ts := by
  rw [follow.eq_def]
  simp only [h, Symbol.chained?, hs]

end Follow

/-! ## States of the reader -/

/-- The reader before an operand, or after the operand `e`. -/
inductive Reader where
  | before (s : Stack)
  | after (s : Stack) (e : Expr)

namespace Reader

def run (stop : Nat) : Reader → List Token → Reading
  | before s, ts => operand stop s ts
  | after s e, ts => follow stop s e ts

/-- The state of the reader after tokens of the given kinds. An operand that was just read is a
number, a name, a grouping or a call. -/
inductive Read (base : Nat) : List TokenKind → Reader → Prop where
  | before {ks s} (opened : Open base ks s) : Read base ks (.before s)
  | after {ks s e} (opened : Open base ks s) (operand : e.ReadAt base s.depth)
      (primary : Operator.pow.level < e.level) : Read base (ks ++ e.kinds) (.after s e)

/-- What the token `t` does to the reader, whatever follows it. -/
inductive Step (base : Nat) (ks : List TokenKind) (r : Reader) (t : Token) : Prop where
  /-- The reader goes on. -/
  | advance (r' : Reader) (read : Read base (ks ++ [t.kind]) r')
      (run : ∀ stop ts, r.run stop (t :: ts) = r'.run stop ts)
  /-- No operand starts with `t`. -/
  | noOperand (s : Stack) (opened : Open base ks s)
      (run : ∀ stop ts, r.run stop (t :: ts) = s.noOperand stop (t :: ts))
  /-- The construct that `t` opens would be nested too deep. -/
  | tooDeep (s : Stack) (full : maxNesting ≤ s.depth)
      (run : ∀ stop ts, r.run stop (t :: ts) = s.tooDeep ts)
  /-- Nothing that is open goes on with `t`. -/
  | halt (ks' : List TokenKind) (s : Stack) (e : Expr) (opened : Open base ks' s)
      (waiting : s.waiting = []) (operand : e.ReadAt base s.depth)
      (kinds : ks' ++ e.kinds = ks)
      (run : ∀ stop ts, r.run stop (t :: ts) = s.halt stop e (t :: ts))

/-- Where nothing goes on with `t`, the operators that wait get their operands and the reader
halts. -/
theorem Step.of_halt {base : Nat} {ks : List TokenKind} {s : Stack} {e : Expr} {t : Token}
    (hs : Open base ks s) (he : e.ReadAt base s.depth) (hprimary : Operator.pow.level < e.level)
    (hrun : ∀ stop ts, follow stop s e (t :: ts) =
      (s.collapse 0 e).1.halt stop (s.collapse 0 e).2 (t :: ts)) :
    Step base (ks ++ e.kinds) (.after s e) t := by
  obtain ⟨ks', e', d, heq, hs', he', hkinds⟩ := hs.collapse_all he hprimary
  refine .halt ks' ⟨[], s.frames, d⟩ e' hs' rfl he' hkinds fun stop ts => ?_
  have hrun' := hrun stop ts
  rwa [heq] at hrun'

/-- A token that opens a construct is refused exactly at the deepest nesting. -/
theorem Step.of_open {base : Nat} {ks : List TokenKind} {r r' : Reader} {s : Stack} {t : Token}
    (hread : s.depth < maxNesting → Read base (ks ++ [t.kind]) r')
    (hrun : ∀ stop ts, r.run stop (t :: ts) =
      if maxNesting ≤ s.depth then s.tooDeep ts else r'.run stop ts) :
    Step base ks r t := by
  by_cases hfull : maxNesting ≤ s.depth
  · exact .tooDeep s hfull fun stop ts => by rw [hrun, if_pos hfull]
  · exact .advance r' (hread (Nat.lt_of_not_le hfull)) fun stop ts => by rw [hrun, if_neg hfull]

theorem Step.of_before {base : Nat} {ks : List TokenKind} {s : Stack} (hs : Open base ks s)
    (t : Token) : Step base ks (.before s) t := by
  obtain ⟨kind, lexeme, position⟩ := t
  cases kind with
  | number value =>
    have he : (Expr.literal value).ReadAt base s.depth := ⟨trivial, hs.depth_le⟩
    exact .advance _ (.after hs he (Nat.lt_succ_self _)) fun _ _ => rfl
  | name name =>
    have he : (Expr.reference name).ReadAt base s.depth := ⟨trivial, hs.depth_le⟩
    exact .advance _ (.after hs he (Nat.lt_succ_self _)) fun _ _ => rfl
  | stop => exact .noOperand s hs fun _ _ => rfl
  | symbol symbol =>
    cases symbol with
    | leftParen => exact .of_open (fun hroom => .before (.grouping hs hroom)) fun _ _ => rfl
    | minus => exact .of_open (fun hroom => .before (.negation hs hroom)) fun _ _ => rfl
    | rightParen =>
      obtain ⟨ws, fs, d⟩ := s
      match ws, fs, hs with
      | [], ⟨.call name [], outer⟩ :: fs, hs =>
        obtain ⟨ks', hs', he, hkinds⟩ := hs.close_empty
        refine .advance (.after ⟨outer, fs, d - 1⟩ (.call name [])) ?_ fun _ _ => rfl
        rw [← hkinds]
        exact .after hs' he (Nat.lt_succ_self _)
      | [], ⟨.call _ (_ :: _), _⟩ :: _, hs => exact .noOperand _ hs fun _ _ => rfl
      | [], ⟨.grouping, _⟩ :: _, hs => exact .noOperand _ hs fun _ _ => rfl
      | [], [], hs => exact .noOperand _ hs fun _ _ => rfl
      | _ :: _, _, hs => exact .noOperand _ hs fun _ _ => rfl
    | _ => exact .noOperand s hs fun _ _ => rfl

theorem Step.of_after {base : Nat} {ks : List TokenKind} {s : Stack} {e : Expr}
    (hs : Open base ks s) (he : e.ReadAt base s.depth)
    (hprimary : Operator.pow.level < e.level) (t : Token) :
    Step base (ks ++ e.kinds) (.after s e) t := by
  obtain ⟨kind, lexeme, position⟩ := t
  cases kind with
  | number value => exact .of_halt hs he hprimary fun _ _ => rfl
  | name name => exact .of_halt hs he hprimary fun _ _ => rfl
  | stop => exact .of_halt hs he hprimary fun _ _ => rfl
  | symbol symbol =>
    cases hchained : symbol.chained? with
    | some op =>
      obtain ⟨rfl, hop⟩ := Symbol.symbol_of_chained? hchained
      exact .advance _ (.before (hs.collapse_operator hop he hprimary))
        fun _ _ => follow_operator rfl hchained
    | none =>
      cases symbol with
      | caret =>
        exact .of_open (fun hroom => .before (.power hs hroom he hprimary)) fun _ _ => rfl
      | leftParen =>
        cases e with
        | reference name =>
          refine .of_open (fun hroom => .before ?_) fun _ _ => rfl
          have hcall : Open base (ks ++ [.name name, .symbol .leftParen] ++ [])
              (s.enter (.call name [])) :=
            .call hs hroom fun _ harg => absurd harg List.not_mem_nil
          simpa [Expr.kinds] using hcall
        | _ => exact .of_halt hs he hprimary fun _ _ => rfl
      | rightParen =>
        obtain ⟨ws, fs, d⟩ := s
        cases fs with
        | nil => exact .of_halt hs he hprimary fun _ _ => rfl
        | cons f fs =>
          obtain ⟨ks', e', d', heq, hs', he', hkinds⟩ := hs.collapse_all he hprimary
          obtain ⟨ks'', hs'', he'', hkinds'⟩ := hs'.close he'
          refine .advance (.after ⟨f.outer, fs, d' - 1⟩ (f.bracket.close e')) ?_
            fun stop ts => show follow stop _ _ _ = follow stop _ _ _ from
              follow_rightParen rfl heq
          rw [← hkinds, ← hkinds']
          exact .after hs'' he'' (f.bracket.level_close e' ▸ Nat.lt_succ_self _)
      | comma =>
        obtain ⟨ws, fs, d⟩ := s
        cases fs with
        | nil => exact .of_halt hs he hprimary fun _ _ => rfl
        | cons f fs =>
          obtain ⟨bracket, outer⟩ := f
          cases bracket with
          | grouping => exact .of_halt hs he hprimary fun _ _ => rfl
          | call name args =>
            obtain ⟨ks', e', d', heq, hs', he', hkinds⟩ := hs.collapse_all he hprimary
            refine .advance (.before ⟨[], ⟨.call name (e' :: args), outer⟩ :: fs, d'⟩) ?_
              fun stop ts => show follow stop _ _ _ = operand stop _ _ from follow_comma rfl heq
            rw [← hkinds]
            exact .before (hs'.argument he')
      | _ => cases hchained

/-- One token, in either state. -/
theorem Read.step {base : Nat} {ks : List TokenKind} {r : Reader} (h : Read base ks r)
    (t : Token) : Step base ks r t := by
  cases h with
  | before opened => exact .of_before opened t
  | after opened operand primary => exact .of_after opened operand primary t

end Reader

/-! ## Readings -/

/-- How a reading of `ts` ends, after tokens of the kinds `ks`. -/
inductive Ends (base stop : Nat) (ks : List TokenKind) (ts : List Token) : Reading → Prop where
  /-- No operand starts at `rest`. -/
  | noOperand (read : List Token) {s rest} (split : ts = read ++ rest)
      (opened : Open base (ks ++ read.map Token.kind) s) :
      Ends base stop ks ts (s.noOperand stop rest)
  /-- The construct that `t` opens would be nested too deep. -/
  | tooDeep (read : List Token) {s : Stack} {t rest} (split : ts = read ++ t :: rest)
      (full : maxNesting ≤ s.depth) : Ends base stop ks ts (s.tooDeep rest)
  /-- Nothing that is open goes on with `rest`. -/
  | halt (read : List Token) {ks' s e rest} (split : ts = read ++ rest) (opened : Open base ks' s)
      (waiting : s.waiting = []) (operand : e.ReadAt base s.depth)
      (kinds : ks' ++ e.kinds = ks ++ read.map Token.kind) :
      Ends base stop ks ts (s.halt stop e rest)

theorem Ends.cons {base stop : Nat} {ks : List TokenKind} {t : Token} {ts : List Token}
    {r : Reading} (h : Ends base stop (ks ++ [t.kind]) ts r) : Ends base stop ks (t :: ts) r := by
  cases h with
  | noOperand read split opened =>
    exact .noOperand (t :: read) (congrArg (t :: ·) split) (by simpa using opened)
  | tooDeep read split full =>
    exact .tooDeep (t :: read) (congrArg (t :: ·) split) full
  | halt read split opened waiting operand kinds =>
    exact .halt (t :: read) (congrArg (t :: ·) split) opened waiting operand
      (by simpa using kinds)

theorem Reader.Read.ends {base : Nat} (stop : Nat) {ks : List TokenKind} {r : Reader}
    (h : r.Read base ks) (ts : List Token) : Ends base stop ks ts (r.run stop ts) := by
  induction ts generalizing ks r with
  | nil =>
    cases h with
    | before opened => exact .noOperand [] rfl (by simpa using opened)
    | @after ks s e opened operand primary =>
      obtain ⟨ks', e', d, heq, opened', operand', hkinds⟩ := opened.collapse_all operand primary
      rw [Reader.run, follow_nil, heq]
      exact .halt [] rfl opened' rfl operand' (by simpa using hkinds)
  | cons t ts ih =>
    cases h.step t with
    | advance r' read run => exact run stop ts ▸ (ih read).cons
    | noOperand s opened run =>
      exact run stop ts ▸ .noOperand [] rfl (by simpa using opened)
    | tooDeep s full run => exact run stop ts ▸ .tooDeep [] rfl full
    | halt ks' s e opened waiting operand kinds run =>
      exact run stop ts ▸ .halt [] rfl opened waiting operand (by simpa using kinds)

/-- A reading that succeeds has read the whole of a tree of the grammar, and no more. -/
theorem Ends.of_ok {base stop : Nat} {ts : List Token} {r : Reading} {e : Expr}
    (h : Ends base stop [] ts r) (hok : r.result = .ok e) :
    r.depth = base ∧ e.ReadAt base base ∧
      ∃ read, ts = read ++ r.rest ∧ e.kinds = read.map Token.kind := by
  cases h with
  | noOperand => cases hok
  | tooDeep => cases hok
  | @halt read ks' s e' rest split opened waiting operand kinds =>
    obtain ⟨ws, fs, d⟩ := s
    cases waiting
    match fs, opened with
    | [], opened =>
      cases opened
      cases hok
      exact ⟨rfl, operand, read, split, kinds⟩
    | ⟨.grouping, _⟩ :: _, _ => cases hok
    | ⟨.call _ _, _⟩ :: _, _ => cases hok

/-- An expression that is read is a tree of the grammar, written with the tokens that were
read. -/
theorem expression_sound {p q : Parser} {e : Expr} (h : p.expression = (.ok e, q)) :
    q.depth = p.depth ∧ e.ReadAt p.depth p.depth ∧
      ∃ read, p.rest = read ++ q.rest ∧ e.kinds = read.map Token.kind := by
  obtain ⟨hresult, rfl⟩ := Prod.mk.inj h
  have hread : Reader.Read p.depth [] (.before ⟨[], [], p.depth⟩) := .before .start
  exact (hread.ends p.stop p.rest).of_ok hresult

end Reckon
