import Reckon.Proofs.Grammar.Descent

/-!
# The procedures read what the reader reads

* `Completed level e ts`: an operand of the level does not go on with `ts`.
  `follow_push_of_completed`, `follow_of_completed`: what the reader does behind it.
* `Cursor.Moves`: where a procedure may take the cursor.
* `Descent.Reads`, `Descent.Continues`, `Descent.Nests`, `Descent.ReadsCall`: what the procedures
  do: they come to an end, and the reader comes to the same with any constructs open. One lemma for
  each procedure.
* `Descent.ReadsWithin`: a procedure reads an operand wherever fewer than so many tokens are left.
  `Descent.procedures_reads`: by induction, those that may be nested so many times do.
-/

namespace Reckon

/-! ## Complete operands -/

/-- The operand `e` does not go on with `ts` at the level: no operator comes next that binds as
tightly, and no parenthesis if `e` is a name. -/
def Completed (level : Nat) (e : Expr) (ts : List Token) : Prop :=
  ∀ t ∈ ts.head?, (∀ op : Operator, t.kind = .symbol op.symbol → op.level < level) ∧
    (t.kind = .symbol .leftParen → ∀ name, e ≠ .reference name)

theorem Waiting.finish_ne_reference (w : Waiting) (e : Expr) (name : String) :
    w.finish e ≠ .reference name := by
  cases w <;> simp [finish]

section Completed

variable {level stop : Nat} {s : Stack} {e : Expr} {t : Token} {ts : List Token} {w : Waiting}

theorem Completed.finish (h : Completed level e ts) (w : Waiting) :
    Completed level (w.finish e) ts :=
  fun t ht => ⟨(h t ht).1, fun _ => w.finish_ne_reference e⟩

/-- No operator of the level comes next, either. -/
theorem Completed.lower (h : Completed (level + 1) e ts)
    (hlevel : ∀ t ∈ ts.head?, ∀ op : Operator, t.kind = .symbol op.symbol → op.level ≠ level) :
    Completed level e ts := by
  intro t ht
  obtain ⟨hoperator, hcall⟩ := h t ht
  refine ⟨fun op hop => ?_, hcall⟩
  have hlt := hoperator op hop
  have hne := hlevel t ht op hop
  omega

/-- An operand that is no operation goes on with operators only. -/
theorem completed_primary (he : ∀ t ∈ ts.head?, t.kind = .symbol .leftParen →
    ∀ name, e ≠ .reference name) : Completed (Operator.pow.level + 1) e ts :=
  fun t ht => ⟨fun op _ => Nat.lt_succ_of_le op.level_le, he t ht⟩

/-- Only a name is called. -/
theorem follow_leftParen (h : t.kind = .symbol .leftParen) (he : ∀ name, e ≠ .reference name) :
    follow stop s e (t :: ts) = (s.collapse 0 e).1.halt stop (s.collapse 0 e).2 (t :: ts) := by
  rw [follow.eq_def]
  cases e with
  | reference name => exact absurd rfl (he name)
  | _ => simp only [h, Symbol.chained?]

/-- Behind an operand that does not go on at the level awaited, an operator that waits takes it. -/
theorem follow_push_of_completed (h : Completed w.operandLevel e ts)
    (hw : w.operandLevel ≤ Operator.pow.level) :
    follow stop (s.push w) e ts = follow stop s (w.finish e) ts := by
  cases ts with
  | nil => rw [follow_nil, follow_nil, Stack.collapse_push (Nat.zero_le _)]
  | cons t ts =>
    obtain ⟨hoperator, hcall⟩ := h t rfl
    have hcollapse := Stack.collapse_push (Nat.zero_le w.level) s e
    cases hkind : t.kind with
    | symbol symbol =>
      cases hchained : symbol.chained? with
      | some op =>
        obtain ⟨rfl, -⟩ := Symbol.symbol_of_chained? hchained
        have hlevel : op.level ≤ w.level :=
          Nat.le_of_lt_succ (Nat.lt_of_lt_of_le (hoperator op hkind) w.operandLevel_le)
        rw [follow_operator hkind hchained, follow_operator hkind hchained,
          Stack.collapse_push hlevel]
      | none =>
        cases symbol with
        | caret => exact absurd (hoperator .pow hkind) (Nat.not_lt_of_le hw)
        | leftParen =>
          rw [follow_leftParen hkind (hcall hkind),
            follow_leftParen hkind (w.finish_ne_reference e), hcollapse]
        | rightParen | comma =>
          rw [follow.eq_def, follow.eq_def]
          simp only [hkind, Symbol.chained?, hcollapse]
        | _ => cases hchained
    | _ =>
      rw [follow.eq_def, follow.eq_def]
      simp only [hkind, hcollapse]

/-- Where no operator waits and nothing that is open goes on with `ts`, the reader halts. -/
theorem follow_of_completed (stop : Nat) (hwaiting : s.waiting = []) (h : Completed 0 e ts)
    (hclose : s.frames ≠ [] → ∀ t ∈ ts.head?, t.kind ≠ .symbol .rightParen)
    (hcomma : ∀ name args outer fs, s.frames = ⟨.call name args, outer⟩ :: fs →
      ∀ t ∈ ts.head?, t.kind ≠ .symbol .comma) :
    follow stop s e ts = s.halt stop e ts := by
  obtain ⟨ws, fs, d⟩ := s
  cases hwaiting
  cases ts with
  | nil => exact follow_nil
  | cons t ts =>
    obtain ⟨hoperator, hcall⟩ := h t rfl
    have hnone : ∀ op : Operator, t.kind ≠ .symbol op.symbol := fun op hop =>
      Nat.not_lt_zero _ (hoperator op hop)
    cases hkind : t.kind with
    | symbol symbol =>
      cases hchained : symbol.chained? with
      | some op =>
        obtain ⟨rfl, -⟩ := Symbol.symbol_of_chained? hchained
        exact absurd hkind (hnone op)
      | none =>
        cases symbol with
        | caret => exact absurd hkind (hnone .pow)
        | leftParen => exact follow_leftParen hkind (hcall hkind)
        | rightParen =>
          cases fs with
          | nil =>
            rw [follow.eq_def]
            simp only [hkind, Symbol.chained?]
            rfl
          | cons f fs => exact absurd hkind (hclose (by simp) t rfl)
        | comma =>
          rw [follow.eq_def]
          simp only [hkind, Symbol.chained?]
          cases fs with
          | nil => rfl
          | cons f fs =>
            obtain ⟨bracket, outer⟩ := f
            cases bracket with
            | grouping => rfl
            | call name args => exact absurd hkind (hcomma name args outer fs rfl t rfl)
        | _ => cases hchained
    | _ =>
      rw [follow.eq_def]
      simp only [hkind]
      rfl

end Completed

/-! ## Operands -/

/-- The stack is a call that was just opened, and `ts` closes it. -/
def Stack.Closes (s : Stack) (ts : List Token) : Prop :=
  s.waiting = [] ∧ (∃ name outer fs, s.frames = ⟨.call name [], outer⟩ :: fs) ∧
    ∃ t ∈ ts.head?, t.kind = .symbol .rightParen

theorem Stack.not_closes_push (s : Stack) (w : Waiting) (ts : List Token) :
    ¬ (s.push w).Closes ts := fun h => absurd h.1 (by simp [push])

/-- Behind an argument, or in front of another token, a call is not closed without arguments. -/
theorem Stack.not_closes_call {s : Stack} {name : String} {before : List Expr} {ts : List Token}
    (h : before ≠ [] ∨ ∀ t ∈ ts.head?, t.kind ≠ .symbol .rightParen) :
    ¬ (s.enter (.call name before.reverse)).Closes ts := by
  rintro ⟨-, ⟨name', outer, fs, hframes⟩, t, ht, hkind⟩
  rcases h with hne | hnot
  · simp only [Stack.enter, List.cons.injEq, Frame.mk.injEq, Bracket.call.injEq,
      List.reverse_eq_nil_iff] at hframes
    exact hne hframes.1.1.2
  · exact hnot t ht hkind

theorem Stack.not_closes_grouping (s : Stack) (ts : List Token) :
    ¬ (s.enter .grouping).Closes ts := by
  rintro ⟨-, ⟨name, outer, fs, hframes⟩, -⟩
  cases hframes

/-- No operand starts with such a token. -/
theorem operand_eq_noOperand (stop : Nat) {s : Stack} {ts : List Token} (hcloses : ¬ s.Closes ts)
    (hnumber : ∀ t ∈ ts.head?, ∀ value, t.kind ≠ .number value)
    (hname : ∀ t ∈ ts.head?, ∀ name, t.kind ≠ .name name)
    (hleftParen : ∀ t ∈ ts.head?, t.kind ≠ .symbol .leftParen)
    (hminus : ∀ t ∈ ts.head?, t.kind ≠ .symbol .minus) :
    operand stop s ts = s.noOperand stop ts := by
  cases ts with
  | nil => rw [operand.eq_def]
  | cons t ts =>
    rw [operand.eq_def]
    cases hkind : t.kind with
    | number value => exact absurd hkind (hnumber t rfl value)
    | name name => exact absurd hkind (hname t rfl name)
    | stop => simp only [hkind]
    | symbol symbol =>
      cases symbol with
      | leftParen => exact absurd hkind (hleftParen t rfl)
      | minus => exact absurd hkind (hminus t rfl)
      | rightParen =>
        simp only [hkind]
        split
        · next name outer fs hwaiting hframes =>
          exact absurd ⟨hwaiting, ⟨name, outer, fs, hframes⟩, t, rfl, hkind⟩ hcloses
        · rfl
      | _ => simp only [hkind]

/-! ## Moves -/

/-- The cursor got from `p` to `q`: forward, within its range, and no less deep. -/
structure Cursor.Moves (p q : Cursor) : Prop where
  tokens : q.tokens = p.tokens
  inRange : q.InRange
  forward : p.current ≤ q.current
  deeper : p.depth ≤ q.depth

namespace Cursor

variable {p q r : Cursor} {t : Token} {ts : List Token}

theorem Moves.refl (hp : p.InRange) : p.Moves p := ⟨rfl, hp, Nat.le_refl _, Nat.le_refl _⟩

theorem Moves.trans (h : p.Moves q) (h' : q.Moves r) : p.Moves r :=
  ⟨h'.tokens.trans h.tokens, h'.inRange, Nat.le_trans h.forward h'.forward,
    Nat.le_trans h.deeper h'.deeper⟩

theorem Moves.stop_eq (h : p.Moves q) : q.stop = p.stop := by
  rw [stop, stop, h.tokens]

theorem moves_step (hp : p.InRange) (h : p.ahead = t :: ts) : p.Moves p.step :=
  ⟨rfl, hp.step h, Nat.le_succ _, Nat.le_refl _⟩

theorem moves_withDepth (hp : p.InRange) {d : Nat} (hd : p.depth ≤ d) : p.Moves (p.withDepth d) :=
  ⟨rfl, hp.withDepth d, Nat.le_refl _, hd⟩

/-- A construct that was entered is left. -/
theorem Moves.leave (h : (p.withDepth (p.depth + 1)).Moves q) : p.Moves (q.withDepth p.depth) :=
  ⟨h.tokens, h.inRange.withDepth _, h.forward, Nat.le_refl _⟩

theorem length_ahead_step (h : p.ahead = t :: ts) : p.step.ahead.length < p.ahead.length := by
  rw [ahead_step h, h]
  exact Nat.lt_succ_self _

theorem Moves.length_ahead (h : p.Moves q) : q.ahead.length ≤ p.ahead.length := by
  have hforward := h.forward
  have hline : q.line = p.line := by rw [line, line, h.tokens]
  rw [ahead, ahead, hline, List.length_drop, List.length_drop]
  omega

theorem Moves.length_ahead_lt (h : p.Moves q) (hlt : p.current < q.current) :
    q.ahead.length < p.ahead.length := by
  have hrange := h.inRange.current_le
  have hline : q.line = p.line := by rw [line, line, h.tokens]
  rw [hline] at hrange
  rw [ahead, ahead, hline, List.length_drop, List.length_drop]
  omega

end Cursor

/-! ## Expressions -/

/-- What the reader comes to with `s` open, when a procedure that read an operand has moved the
cursor to `q`. -/
def Stack.outcome (s : Stack) (stop : Nat) : Except ParseError Expr → Cursor → Reading
  | .ok e, q => follow stop s e q.ahead
  | .error err, q => ⟨.error err, q.ahead, q.depth⟩

namespace Descent

/-- From `p`, a procedure reads an operand of the level as the reader does. -/
structure Reads (level : Nat) (p : Cursor) (r : Except ParseError Expr) (q : Cursor) : Prop where
  moves : p.Moves q
  success : ∀ e, r = .ok e →
    q.depth = p.depth ∧ p.current < q.current ∧ Completed level e q.ahead
  reading : ∀ s : Stack, s.depth = p.depth → Admits s.waiting level → ¬ s.Closes p.ahead →
    operand p.stop s p.ahead = s.outcome p.stop r q

/-- From `p`, a procedure goes on behind the operand `left` as the reader does. -/
structure Continues (level : Nat) (left : Expr) (p : Cursor) (r : Except ParseError Expr)
    (q : Cursor) : Prop where
  moves : p.Moves q
  success : ∀ e, r = .ok e → q.depth = p.depth ∧ Completed level e q.ahead
  reading : ∀ s : Stack, s.depth = p.depth → Admits s.waiting level →
    follow p.stop s left p.ahead = s.outcome p.stop r q

/-- From `p`, a procedure reads the operand that `w` nests, as the reader does. -/
structure Nests (w : Waiting) (p : Cursor) (r : Except ParseError Expr) (q : Cursor) : Prop where
  moves : p.Moves q
  success : ∀ e, r = .ok e →
    q.depth = p.depth ∧ p.current < q.current ∧ Completed Operator.pow.level e q.ahead
  reading : ∀ s : Stack, s.depth = p.depth →
    (if maxNesting ≤ s.depth then s.tooDeep p.ahead else operand p.stop (s.nest w) p.ahead) =
      s.outcome p.stop r q

/-- Wherever fewer than `n` tokens are left, the procedure reads an operand of the level. -/
def ReadsWithin (n level : Nat) (m : Descent Expr) : Prop :=
  ∀ p : Cursor, p.InRange → p.ahead.length < n → m.Ensures p (Reads level p)

section Procedures

variable {expression unary : Descent Expr} {n : Nat} {p q : Cursor}

/-- Negations and right operands of `^`. -/
theorem nests {w : Waiting} (hlevel : w.operandLevel = Operator.pow.level) (hcost : w.cost = 1)
    (hp : p.InRange) (hunary : unary.Ensures (p.withDepth (p.depth + 1))
      (Reads Operator.pow.level (p.withDepth (p.depth + 1)))) :
    (do
      enter
      let e ← unary
      leave
      return w.finish e : Descent Expr).Ensures p (Nests w p) := by
  have hpush (s : Stack) : s.nest w = s.push w := by
    rw [Stack.push, hcost]
    rfl
  have hdeeper := Cursor.moves_withDepth hp (Nat.le_succ p.depth)
  -- The operand that waits for nothing but `w` is what the reader reads.
  have hreading {r q} (hr : Reads Operator.pow.level (p.withDepth (p.depth + 1)) r q)
      (hroom : p.depth < maxNesting) (s : Stack) (hs : s.depth = p.depth) :
      (if maxNesting ≤ s.depth then s.tooDeep p.ahead else operand p.stop (s.nest w) p.ahead) =
        (s.push w).outcome p.stop r q := by
    rw [if_neg (by omega), hpush]
    refine hr.reading (s.push w) ?_ (fun w' hw' => ?_) (s.not_closes_push w _)
    · rw [← hpush]
      exact congrArg (· + 1) hs
    · obtain rfl := Option.some.inj hw'
      exact Nat.le_of_eq hlevel
  refine ensures_nested hunary (fun e q hr => (hr.success e rfl).1) (fun hfull => ?_)
    (fun hroom e q hr => ensures_pure ?_) (fun hroom err q hr => ?_)
  · refine ⟨hdeeper, fun e he => (by cases he), fun s hs => ?_⟩
    rw [if_pos (hs ▸ hfull), Stack.tooDeep, hs]
    rfl
  · obtain ⟨-, hforward, hcompleted⟩ := hr.success e rfl
    refine ⟨hr.moves.leave, ?_, fun s hs => ?_⟩
    · rintro _ ⟨⟩
      exact ⟨rfl, hforward, hcompleted.finish w⟩
    · rw [hreading hr hroom s hs]
      exact follow_push_of_completed (hlevel ▸ hcompleted) (Nat.le_of_eq hlevel)
  · refine ⟨hdeeper.trans hr.moves, fun e he => (by cases he), fun s hs => ?_⟩
    rw [hreading hr hroom s hs]
    rfl

/-- An error is the same at all levels. -/
theorem Reads.of_error {level : Nat} {err : ParseError} (h : Reads (level + 1) p (.error err) q) :
    Reads level p (.error err) q :=
  ⟨h.moves, fun _ he => (by cases he), fun s hs hadmits hcloses =>
    h.reading s hs (hadmits.mono (Nat.le_succ level)) hcloses⟩

/-- A nested operand behind its operator at the cursor. -/
theorem nests_step {w : Waiting} {t : Token} {ts : List Token}
    (hlevel : w.operandLevel = Operator.pow.level) (hcost : w.cost = 1) (hp : p.InRange)
    (hn : p.ahead.length ≤ n) (hunary : ReadsWithin n Operator.pow.level unary)
    (hahead : p.ahead = t :: ts) :
    (do
      let _ ← advance
      enter
      let e ← unary
      leave
      return w.finish e : Descent Expr).Ensures p fun r q => p.Moves p.step ∧ Nests w p.step r q :=
  ensures_advance hahead <|
    (nests hlevel hcost (hp.step hahead) <| hunary _ ((hp.step hahead).withDepth _) <|
      Nat.lt_of_lt_of_le (Cursor.length_ahead_step hahead) hn).mono
    fun _ _ h => ⟨Cursor.moves_step hp hahead, h⟩

theorem negation_reads (hp : p.InRange) (hn : p.ahead.length ≤ n)
    (hunary : ReadsWithin n Operator.pow.level unary)
    (hexponent : p.NotAt .minus →
      (exponent expression unary n).Ensures p (Reads Operator.pow.level p)) :
    (negation expression unary n).Ensures p (Reads Operator.pow.level p) := by
  rw [negation]
  refine ensures_check hp (fun t ts hahead hkind => ?_) hexponent
  refine (nests_step (w := .negation) rfl rfl hp hn hunary hahead).mono fun r q ⟨hstep, hr⟩ => ?_
  refine ⟨hstep.trans hr.moves, fun e he => ?_, fun s hs _ _ => ?_⟩
  · obtain ⟨hdepth, hforward, hcompleted⟩ := hr.success e he
    exact ⟨hdepth, Nat.lt_of_succ_lt hforward, hcompleted⟩
  · have hreading := hr.reading s hs
    rw [Cursor.ahead_step hahead, Cursor.stop_step] at hreading
    rw [hahead, operand.eq_def]
    simp only [hkind]
    exact hreading

theorem exponent_reads (hn : p.ahead.length ≤ n) (hunary : ReadsWithin n Operator.pow.level unary)
    (hprimary : (primary expression n).Ensures p (Reads (Operator.pow.level + 1) p)) :
    (exponent expression unary n).Ensures p (Reads Operator.pow.level p) := by
  rw [exponent]
  refine hprimary.bind (fun left q hleft => ?_) (fun err q hleft => ?_)
  · obtain ⟨hdepth, hforward, hcompleted⟩ := hleft.success left rfl
    have hq := hleft.moves.inRange
    have hread (s : Stack) (hs : s.depth = p.depth) (hadmits : Admits s.waiting Operator.pow.level)
        (hcloses : ¬ s.Closes p.ahead) :
        operand p.stop s p.ahead = follow p.stop s left q.ahead :=
      hleft.reading s hs (hadmits.mono (Nat.le_succ _)) hcloses
    refine ensures_check hq (fun t ts hahead hkind => ?_) (fun hnot => ensures_pure ?_)
    · refine (nests_step (w := .power left) rfl rfl hq
        (Nat.le_trans hleft.moves.length_ahead hn) hunary hahead).mono fun r q' ⟨hstep, hr⟩ => ?_
      refine ⟨(hleft.moves.trans hstep).trans hr.moves, fun e he => ?_,
        fun s hs hadmits hcloses => ?_⟩
      · obtain ⟨hdepth', hforward', hcompleted'⟩ := hr.success e he
        exact ⟨hdepth'.trans hdepth, Nat.lt_trans hforward (Nat.lt_of_succ_lt hforward'),
          hcompleted'⟩
      · have hreading := hr.reading s (hs.trans hdepth.symm)
        rw [Cursor.ahead_step hahead, Cursor.stop_step, hleft.moves.stop_eq] at hreading
        rw [hread s hs hadmits hcloses, hahead, follow_caret hkind]
        exact hreading
    · refine ⟨hleft.moves, ?_, hread⟩
      rintro _ ⟨⟩
      refine ⟨hdepth, hforward, hcompleted.lower fun t ht op hop hlevel => ?_⟩
      by_cases hpow : op = .pow
      · subst hpow
        exact hnot t ht hop
      · exact Nat.ne_of_lt (Operator.level_lt hpow) hlevel
  · exact hleft.of_error

theorem operatorAt_eq_some_iff {level : Nat} {t : Token} {op : Operator} :
    operatorAt level t = some op ↔ t.kind = .symbol op.symbol ∧ op ≠ .pow ∧ op.level = level := by
  unfold operatorAt
  split
  · next s hkind =>
    rw [Option.filter_eq_some_iff, hkind, decide_eq_true_iff]
    constructor
    · rintro ⟨hchained, hlevel⟩
      obtain ⟨rfl, hne⟩ := Symbol.symbol_of_chained? hchained
      exact ⟨rfl, hne, hlevel⟩
    · rintro ⟨hsymbol, hne, hlevel⟩
      obtain rfl := TokenKind.symbol.inj hsymbol
      exact ⟨Symbol.chained?_symbol hne, hlevel⟩
  · next hnot =>
    constructor
    · rintro ⟨⟩
    · rintro ⟨hkind, -, -⟩
      exact absurd hkind (hnot _)

/-- Behind the left operand, the reader lets the operator wait for its right one. -/
theorem Reads.follow_operator {op : Operator} {t : Token} {ts : List Token} {left : Expr}
    {r : Except ParseError Expr} (hr : Reads (op.level + 1) p.step r q) (hne : op ≠ .pow)
    (hahead : p.ahead = t :: ts) (hkind : t.kind = .symbol op.symbol) {s : Stack}
    (hs : s.depth = p.depth) (hadmits : Admits s.waiting op.level) :
    follow p.stop s left p.ahead = (s.push (.chain op left)).outcome p.stop r q := by
  rw [hahead, Reckon.follow_operator hkind (Symbol.chained?_symbol hne),
    Stack.collapse_of_admits (Operator.level_lt hne) hadmits, ← Cursor.ahead_step hahead]
  refine hr.reading (s.push (.chain op left)) hs (fun w hw => ?_) (s.not_closes_push _ _)
  obtain rfl := Option.some.inj hw
  exact Nat.le_refl _

/-- Operators of the level that follow one another, and the operands between them. -/
theorem chainFrom_continues {operand : Descent Expr} {level count : Nat}
    (hlevel : level < Operator.pow.level) (hoperand : ReadsWithin n (level + 1) operand)
    (hp : p.InRange) (hn : p.ahead.length ≤ n) (hcount : p.ahead.length < count) {left : Expr}
    (hleft : Completed (level + 1) left p.ahead) :
    (chainFrom operand level count left).Ensures p (Continues level left p) := by
  induction count generalizing p left with
  | zero => cases hcount
  | succ count ih =>
    obtain ⟨t, htoken, -, -, -, hhead⟩ := hp.exists_token
    rw [chainFrom]
    refine ensures_currentToken htoken ?_
    cases hop : operatorAt level t with
    | none =>
      refine ensures_pure ⟨.refl hp, ?_, fun _ _ _ => rfl⟩
      rintro _ ⟨⟩
      refine ⟨rfl, hleft.lower fun u hu op hkind hop' => ?_⟩
      rw [Cursor.eq_of_mem_head?_ahead htoken u hu] at hkind
      have hne : op ≠ .pow := by
        rintro rfl
        exact Nat.lt_irrefl _ (hop' ▸ hlevel)
      rw [operatorAt_eq_some_iff.2 ⟨hkind, hne, hop'⟩] at hop
      cases hop
    | some op =>
      obtain ⟨hkind, hne, rfl⟩ := operatorAt_eq_some_iff.1 hop
      have hstop : t.isStop = false := by
        rw [Token.isStop, hkind]
        rfl
      obtain ⟨ts, hahead⟩ := List.head?_eq_some_iff.1 (hhead hstop)
      have hstep := Cursor.moves_step hp hahead
      have hshorter := Cursor.length_ahead_step hahead
      refine ensures_advance hahead ?_
      refine (hoperand _ hstep.inRange (Nat.lt_of_lt_of_le hshorter hn)).bind
        (fun right q hr => ?_) (fun err q hr => ?_)
      · obtain ⟨hdepth, -, hcompleted⟩ := hr.success right rfl
        have hmoves := hstep.trans hr.moves
        have hlt : q.ahead.length < p.ahead.length :=
          Nat.lt_of_le_of_lt hr.moves.length_ahead hshorter
        refine (ih hr.moves.inRange (by omega) (by omega)
          (hcompleted.finish (.chain op left))).mono fun r q' hr' => ?_
        refine ⟨hmoves.trans hr'.moves, fun e he => ?_, fun s hs hadmits => ?_⟩
        · obtain ⟨hdepth', hcompleted'⟩ := hr'.success e he
          exact ⟨hdepth'.trans hdepth, hcompleted'⟩
        · have hpush : follow p.stop (s.push (.chain op left)) right q.ahead =
              follow p.stop s (.binary op left right) q.ahead :=
            follow_push_of_completed hcompleted hlevel
          have hreading := hr'.reading s (hs.trans hdepth.symm) hadmits
          rw [hmoves.stop_eq] at hreading
          rw [hr.follow_operator hne hahead hkind hs hadmits]
          exact hpush.trans hreading
      · refine ⟨hstep.trans hr.moves, fun e he => (by cases he), fun s hs hadmits => ?_⟩
        rw [hr.follow_operator hne hahead hkind hs hadmits]
        rfl

/-- Operands of each level, from those of the level of `^`. -/
theorem chain_reads (hunary : ReadsWithin (n + 1) Operator.pow.level unary) {below : Nat}
    (hbelow : below ≤ Operator.pow.level) :
    ReadsWithin (n + 1) (Operator.pow.level - below) (chain unary n below) := by
  induction below with
  | zero => exact hunary
  | succ below ih =>
    intro p hp hn
    have hoperand := ih (Nat.le_of_succ_le hbelow)
    have hlevel : Operator.pow.level - (below + 1) < Operator.pow.level := by omega
    have hnext : Operator.pow.level - below = Operator.pow.level - (below + 1) + 1 := by omega
    rw [hnext] at hoperand
    rw [chain]
    refine (hoperand p hp hn).bind (fun left q hleft => ?_) (fun err q hleft => ?_)
    · obtain ⟨hdepth, hforward, hcompleted⟩ := hleft.success left rfl
      have hshorter := hleft.moves.length_ahead_lt hforward
      refine (chainFrom_continues hlevel hoperand hleft.moves.inRange (by omega) (by omega)
        hcompleted).mono fun r q' hr =>
          ⟨hleft.moves.trans hr.moves, fun e he => ?_, fun s hs hadmits hcloses => ?_⟩
      · obtain ⟨hdepth', hcompleted'⟩ := hr.success e he
        exact ⟨hdepth'.trans hdepth, Nat.lt_of_lt_of_le hforward hr.moves.forward, hcompleted'⟩
      · have hreading := hr.reading s (hs.trans hdepth.symm) hadmits
        rw [hleft.moves.stop_eq] at hreading
        rw [hleft.reading s hs (hadmits.mono (Nat.le_succ _)) hcloses]
        exact hreading
    · exact hleft.of_error

/-! ## Arguments -/

/-- From `p`, a procedure reads the arguments of a call behind those `before`, up to what is no
comma, as the reader does. -/
structure ReadsArguments (before : List Expr) (p : Cursor) (r : Except ParseError (List Expr))
    (q : Cursor) : Prop where
  moves : p.Moves q
  success : ∀ args, r = .ok args → q.depth = p.depth ∧ q.NotAt .comma ∧
    ∃ init last, args = init ++ [last] ∧ Completed 0 last q.ahead ∧
      ∀ (s : Stack) (name : String), s.depth + 1 = p.depth →
        operand p.stop (s.enter (.call name before.reverse)) p.ahead =
          follow p.stop (s.enter (.call name init.reverse)) last q.ahead
  failure : ∀ err, r = .error err → ∀ (s : Stack) (name : String), s.depth + 1 = p.depth →
    operand p.stop (s.enter (.call name before.reverse)) p.ahead = ⟨.error err, q.ahead, q.depth⟩

/-- From `p`, a procedure reads the arguments of a call and its closing parenthesis, as the reader
does. -/
structure ReadsCall (p : Cursor) (r : Except ParseError (List Expr)) (q : Cursor) : Prop where
  moves : p.Moves q
  success : ∀ args, r = .ok args → q.depth = p.depth
  reading : ∀ (s : Stack) (name : String), s.depth + 1 = p.depth →
    operand p.stop (s.enter (.call name [])) p.ahead =
      s.outcome p.stop (r.map (.call name)) q

theorem argumentsFrom_reads (hexpression : ReadsWithin n 0 expression) {count : Nat}
    {before : List Expr} (hp : p.InRange) (hn : p.ahead.length < n)
    (hcount : p.ahead.length < count) (hopen : before ≠ [] ∨ p.NotAt .rightParen) :
    (argumentsFrom expression count before).Ensures p (ReadsArguments before p) := by
  induction count generalizing p before with
  | zero => cases hcount
  | succ count ih =>
    have hreading {r q} (hr : Reads 0 p r q) (s : Stack) (name : String)
        (hs : s.depth + 1 = p.depth) :
        operand p.stop (s.enter (.call name before.reverse)) p.ahead =
          (s.enter (.call name before.reverse)).outcome p.stop r q :=
      hr.reading _ hs (admits_enter _ _ _) (Stack.not_closes_call hopen)
    rw [argumentsFrom]
    refine (hexpression p hp hn).bind (fun e q hr => ?_) (fun err q hr => ?_)
    · obtain ⟨hdepth, hforward, hcompleted⟩ := hr.success e rfl
      have hq := hr.moves.inRange
      refine ensures_check hq (fun t ts hahead hkind => ?_) (fun hnot => ensures_pure ?_)
      · have hmoves := hr.moves.trans (Cursor.moves_step hq hahead)
        have hlt : q.step.ahead.length < p.ahead.length :=
          Nat.lt_of_lt_of_le (Cursor.length_ahead_step hahead) hr.moves.length_ahead
        refine ensures_advance hahead ?_
        refine (ih hmoves.inRange (by omega) (by omega) (.inl (by simp))).mono
          fun r q' hr' => ?_
        have hcomma (s : Stack) (name : String) (hs : s.depth + 1 = p.depth) :
            operand p.stop (s.enter (.call name before.reverse)) p.ahead =
              operand p.stop (s.enter (.call name (before ++ [e]).reverse)) q.step.ahead := by
          rw [hreading hr s name hs, List.reverse_append, Cursor.ahead_step hahead]
          show follow p.stop _ e q.ahead = _
          rw [hahead]
          exact follow_comma hkind rfl
        refine ⟨hmoves.trans hr'.moves, fun args hargs => ?_, fun err herr s name hs => ?_⟩
        · obtain ⟨hdepth', hnot, init, last, hsplit, hcompleted', hread⟩ := hr'.success args hargs
          refine ⟨hdepth'.trans hdepth, hnot, init, last, hsplit, hcompleted', fun s name hs => ?_⟩
          rw [hcomma s name hs, ← hmoves.stop_eq]
          exact hread s name (hs.trans hdepth.symm)
        · rw [hcomma s name hs, ← hmoves.stop_eq]
          exact hr'.failure err herr s name (hs.trans hdepth.symm)
      · refine ⟨hr.moves, ?_, ?_⟩
        · rintro _ ⟨⟩
          exact ⟨hdepth, hnot, before, e, rfl, hcompleted, hreading hr⟩
        · rintro _ ⟨⟩
    · refine ⟨hr.moves, ?_, ?_⟩
      · rintro _ ⟨⟩
      · rintro _ ⟨⟩
        exact hreading hr

theorem arguments_reads (hexpression : ReadsWithin n 0 expression) (hp : p.InRange)
    (hn : p.ahead.length < n) : (arguments expression n).Ensures p (ReadsCall p) := by
  rw [arguments]
  refine ensures_check hp (fun t ts hahead hkind => ?_) (fun hnot => ?_)
  · show (expect .rightParen .arguments >>= fun _ => pure []).Ensures p _
    refine ensures_expect hp (fun t' ts' _ _ => ensures_pure ?_) (fun hnot => ?_)
    · refine ⟨Cursor.moves_step hp hahead, fun _ _ => rfl, fun s name hs => ?_⟩
      rw [hahead, operand.eq_def]
      simp only [hkind]
      show follow p.stop _ _ ts = follow p.stop _ _ p.step.ahead
      rw [Cursor.ahead_step hahead]
      rfl
    · exact absurd hkind (hnot t (by rw [hahead]; rfl))
  · show (argumentsFrom expression n [] >>= fun args =>
      expect .rightParen .arguments >>= fun _ => pure args).Ensures p _
    refine (argumentsFrom_reads hexpression hp hn hn (.inr hnot)).bind (fun args q hr => ?_)
      (fun err q hr => ?_)
    · obtain ⟨hdepth, hcomma, init, last, rfl, hcompleted, hread⟩ := hr.success args rfl
      have hq := hr.moves.inRange
      refine ensures_expect hq (fun t ts hahead hkind => ensures_pure ?_) (fun hclose => ?_)
      · refine ⟨hr.moves.trans (Cursor.moves_step hq hahead), fun _ _ => hdepth,
          fun s name hs => ?_⟩
        have hclosed : follow p.stop (s.enter (.call name init.reverse)) last (t :: ts) =
            follow p.stop s (.call name (init ++ [last])) ts := by
          rw [follow_enter hkind, Bracket.close, List.reverse_reverse]
        show operand p.stop (s.enter (.call name [].reverse)) p.ahead =
          follow p.stop s _ q.step.ahead
        rw [hread s name hs, hahead, hclosed, Cursor.ahead_step hahead]
      · refine ⟨hr.moves, fun args hargs => (by cases hargs), fun s name hs => ?_⟩
        have hhalt := follow_of_completed p.stop (s := s.enter (.call name init.reverse))
          rfl hcompleted (fun _ => hclose) (fun _ _ _ _ _ => hcomma)
        show operand p.stop (s.enter (.call name [].reverse)) p.ahead = _
        rw [hread s name hs, hhalt, hr.moves.stop_eq]
        show Reading.mk _ _ (s.depth + 1) = Reading.mk _ _ q.depth
        rw [hs, hdepth]
    · exact ⟨hr.moves, fun args hargs => (by cases hargs), hr.failure err rfl⟩

/-! ## Primary expressions -/

/-- An operand of one token. -/
theorem reads_token {t : Token} {ts : List Token} {e : Expr} (hp : p.InRange)
    (hahead : p.ahead = t :: ts) (hcompleted : Completed (Operator.pow.level + 1) e p.step.ahead)
    (hreading : ∀ stop s, operand stop s (t :: ts) = follow stop s e ts) :
    Reads (Operator.pow.level + 1) p (.ok e) p.step := by
  refine ⟨Cursor.moves_step hp hahead, ?_, fun s _ _ _ => ?_⟩
  · rintro _ ⟨⟩
    exact ⟨rfl, Nat.lt_succ_self _, hcompleted⟩
  · rw [hahead, hreading, ← Cursor.ahead_step hahead]
    rfl

/-- A name that a parenthesis follows is called. -/
theorem call_reads (hexpression : ReadsWithin n 0 expression) (hp : p.InRange)
    (hn : p.ahead.length ≤ n) {name : String} {t t' : Token} {ts : List Token}
    (hahead : p.ahead = t :: t' :: ts) (hname : t.kind = .name name)
    (hparen : t'.kind = .symbol .leftParen) :
    (do
      enter
      let args ← arguments expression n
      leave
      return .call name args : Descent Expr).Ensures p.step.step
        (Reads (Operator.pow.level + 1) p) := by
  have hahead' := Cursor.ahead_step hahead
  have hahead'' := Cursor.ahead_step hahead'
  have hmoves : p.Moves p.step.step :=
    (Cursor.moves_step hp hahead).trans (Cursor.moves_step (hp.step hahead) hahead')
  have hdeeper := hmoves.trans (Cursor.moves_withDepth hmoves.inRange (Nat.le_succ _))
  have hopen (s : Stack) : operand p.stop s p.ahead =
      if maxNesting ≤ s.depth then s.tooDeep ts
      else operand p.stop (s.enter (.call name [])) ts := by
    rw [hahead, operand.eq_def]
    simp only [hname]
    exact follow_call hparen
  have hread {r q} (hr : ReadsCall (p.step.step.withDepth (p.depth + 1)) r q)
      (hroom : p.depth < maxNesting) (s : Stack) (hs : s.depth = p.depth) :
      operand p.stop s p.ahead = s.outcome p.stop (r.map (.call name)) q := by
    rw [hopen, if_neg (by rw [hs]; exact Nat.not_le_of_lt hroom), ← hahead'']
    exact hr.reading s name (congrArg (· + 1) hs)
  have hlt : p.step.step.ahead.length < p.ahead.length :=
    Nat.lt_trans (Cursor.length_ahead_step hahead') (Cursor.length_ahead_step hahead)
  have harguments := arguments_reads hexpression (hmoves.inRange.withDepth (p.depth + 1))
    (Nat.lt_of_lt_of_le hlt hn)
  refine ensures_nested harguments (fun args q hr => hr.success args rfl) (fun hfull => ?_)
    (fun hroom args q hr => ensures_pure ?_) (fun hroom err q hr => ?_)
  · refine ⟨hdeeper, fun e he => (by cases he), fun s hs _ _ => ?_⟩
    rw [hopen, if_pos (hs ▸ hfull), Stack.tooDeep, hs, ← hahead'']
    rfl
  · refine ⟨hmoves.trans hr.moves.leave, ?_, fun s hs _ _ => hread hr hroom s hs⟩
    rintro _ ⟨⟩
    have hforward : p.current + 1 + 1 ≤ q.current := hr.moves.forward
    exact ⟨rfl, Nat.lt_of_succ_lt hforward, completed_primary fun _ _ _ _ => by simp⟩
  · exact ⟨hdeeper.trans hr.moves, fun e he => (by cases he), fun s hs _ _ => hread hr hroom s hs⟩

/-- An expression in parentheses. The nesting is left before the closing one is looked for. -/
theorem grouping_reads (hexpression : ReadsWithin n 0 expression) (hp : p.InRange)
    (hn : p.ahead.length ≤ n) {t : Token} {ts : List Token} (hahead : p.ahead = t :: ts)
    (hparen : t.kind = .symbol .leftParen) :
    (do
      enter
      let e ← expression
      leave
      let _ ← expect .rightParen .grouping
      return .grouping e : Descent Expr).Ensures p.step (Reads (Operator.pow.level + 1) p) := by
  have hahead' := Cursor.ahead_step hahead
  have hstep := Cursor.moves_step hp hahead
  have hdeeper := hstep.trans (Cursor.moves_withDepth hstep.inRange (Nat.le_succ _))
  have hopen (s : Stack) : operand p.stop s p.ahead =
      if maxNesting ≤ s.depth then s.tooDeep ts else operand p.stop (s.enter .grouping) ts := by
    rw [hahead, operand.eq_def]
    simp only [hparen]
  have hread {r q} (hr : Reads 0 (p.step.withDepth (p.depth + 1)) r q)
      (hroom : p.depth < maxNesting) (s : Stack) (hs : s.depth = p.depth) :
      operand p.stop s p.ahead = (s.enter .grouping).outcome p.stop r q := by
    rw [hopen, if_neg (by rw [hs]; exact Nat.not_le_of_lt hroom), ← hahead']
    exact hr.reading (s.enter .grouping) (congrArg (· + 1) hs) (admits_enter _ _ _)
      (s.not_closes_grouping _)
  have hnested := hexpression _ (hstep.inRange.withDepth (p.depth + 1))
    (Nat.lt_of_lt_of_le (Cursor.length_ahead_step hahead) hn)
  refine ensures_nested hnested (fun e q hr => (hr.success e rfl).1) (fun hfull => ?_)
    (fun hroom e q hr => ?_) (fun hroom err q hr => ?_)
  · refine ⟨hdeeper, fun e he => (by cases he), fun s hs _ _ => ?_⟩
    rw [hopen, if_pos (hs ▸ hfull), Stack.tooDeep, hs, ← hahead']
    rfl
  · obtain ⟨-, hforward, hcompleted⟩ := hr.success e rfl
    have hleft : p.Moves (q.withDepth p.step.depth) := hstep.trans hr.moves.leave
    have hq := hleft.inRange
    refine ensures_expect hq (fun t ts hahead hkind => ensures_pure ?_) (fun hclose => ?_)
    · refine ⟨hleft.trans (Cursor.moves_step hq hahead), ?_, fun s hs _ _ => ?_⟩
      · rintro _ ⟨⟩
        exact ⟨rfl, Nat.lt_succ_of_lt (Nat.lt_of_succ_lt hforward),
          completed_primary fun _ _ _ _ => by simp⟩
      · rw [hread hr hroom s hs]
        show follow p.stop _ e (q.withDepth p.step.depth).ahead =
          follow p.stop s (.grouping e) (q.withDepth p.step.depth).step.ahead
        rw [Cursor.ahead_step hahead, hahead]
        exact follow_enter hkind s .grouping e ts
    · refine ⟨hleft, fun e he => (by cases he), fun s hs _ _ => ?_⟩
      have hhalt := follow_of_completed p.stop (s := s.enter .grouping) rfl hcompleted
        (fun _ => hclose) (fun _ _ _ _ hframes => by cases hframes)
      rw [hread hr hroom s hs]
      show follow p.stop _ e q.ahead = _
      rw [hhalt, hleft.stop_eq]
      show Reading.mk _ _ (s.depth + 1 - 1) = Reading.mk _ _ p.depth
      rw [Nat.add_sub_cancel, hs]
      rfl
  · refine ⟨hdeeper.trans hr.moves, fun e he => (by cases he), fun s hs _ _ => ?_⟩
    rw [hread hr hroom s hs]
    rfl

theorem primary_reads (hexpression : ReadsWithin n 0 expression) (hp : p.InRange)
    (hn : p.ahead.length ≤ n) (hminus : p.NotAt .minus) :
    (primary expression n).Ensures p (Reads (Operator.pow.level + 1) p) := by
  obtain ⟨t, htoken, hfound, hposition, -, hhead⟩ := hp.exists_token
  have hleft (hkind : t.kind ≠ .stop) : ∃ ts, p.ahead = t :: ts :=
    List.head?_eq_some_iff.1 (hhead (beq_eq_false_iff_ne.2 hkind))
  rw [primary]
  refine ensures_currentToken htoken ?_
  split
  · next value hkind =>
    obtain ⟨ts, hahead⟩ := hleft (by simp [hkind])
    refine ensures_advance hahead (ensures_pure ?_)
    refine reads_token hp hahead (completed_primary fun _ _ _ _ => by simp) fun stop s => ?_
    rw [operand.eq_def]
    simp only [hkind]
  · next name hkind =>
    obtain ⟨ts, hahead⟩ := hleft (by simp [hkind])
    refine ensures_advance hahead ?_
    refine ensures_check (hp.step hahead) (fun t' ts' hahead' hkind' => ?_)
      (fun hnot => ensures_pure ?_)
    · have hboth : p.ahead = t :: t' :: ts' := by
        rw [hahead, ← Cursor.ahead_step hahead, hahead']
      exact ensures_advance hahead' (call_reads hexpression hp hn hboth hkind hkind')
    · refine reads_token hp hahead (completed_primary fun t' ht' hparen _ _ =>
        hnot t' ht' hparen) fun stop s => ?_
      rw [operand.eq_def]
      simp only [hkind]
  · next hkind =>
    obtain ⟨ts, hahead⟩ := hleft (by simp [hkind])
    exact ensures_advance hahead (grouping_reads hexpression hp hn hahead hkind)
  · next hnumber hname hparen =>
    refine ensures_throw ⟨.refl hp, fun e he => (by cases he), fun s hs _ hcloses => ?_⟩
    have hcurrent := Cursor.eq_of_mem_head?_ahead htoken
    have hnone := operand_eq_noOperand p.stop hcloses
      (fun u hu value => hcurrent u hu ▸ hnumber value)
      (fun u hu name => hcurrent u hu ▸ hname name)
      (fun u hu => hcurrent u hu ▸ hparen) hminus
    rw [hnone, Stack.noOperand, hfound, hposition, hs]
    rfl

/-- Procedures that may be nested `n` times read what has fewer than `n` tokens. -/
theorem procedures_reads (n : Nat) : ReadsWithin n 0 (procedures n).expression ∧
    ReadsWithin n Operator.pow.level (procedures n).unary := by
  induction n with
  | zero => exact ⟨fun _ _ hn => (by cases hn), fun _ _ hn => (by cases hn)⟩
  | succ n ih =>
    obtain ⟨hexpression, hunary⟩ := ih
    have hnext : ReadsWithin (n + 1) Operator.pow.level (procedures (n + 1)).unary := by
      intro p hp hn
      have hle := Nat.le_of_lt_succ hn
      exact negation_reads hp hle hunary fun hminus =>
        exponent_reads hle hunary (primary_reads hexpression hp hle hminus)
    refine ⟨?_, hnext⟩
    have hchain := chain_reads hnext (Nat.le_refl _)
    rwa [Nat.sub_self] at hchain

end Procedures

end Descent

end Reckon
