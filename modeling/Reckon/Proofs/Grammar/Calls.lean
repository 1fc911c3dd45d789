import Mathlib.Data.List.TakeWhile
import Reckon.Proofs.Grammar.Procedures

/-!
# A parser that is asked time and again

A parser may be used after an error, and then it goes on where the error left it. Whatever it is
asked for, its cursor stays within the tokens and before what comes behind the first end.

* `Cursor.toParser`: what the parser has that a cursor stands for. `toParser_ofTokens`: at the
  beginning, that of the tokens.
* `Descent.expression_reads`, `Descent.parse_reads`: the procedures come to an end, and return what
  the parser returns. `Cursor.answers_reads`: so they do when they are called time and again.
* `Parser.ofTokens_congr`: the parser takes no notice of what comes behind the first end.
* `Cursor.calls_safe`: the cursor, the depth and the answers, over any use.
-/

namespace Reckon

/-- The parser of the tokens that are left. -/
def Cursor.toParser (p : Cursor) : Parser := ⟨p.ahead, p.stop, p.depth⟩

/-! ## One call -/

namespace Descent

variable {p : Cursor}

/-- An expression is read as the parser reads it. If that succeeds, the depth is as before. -/
theorem expression_reads (hp : p.InRange) :
    expression.Ensures p fun r q => p.Moves q ∧ p.toParser.expression = (r, q.toParser) ∧
      ∀ e, r = .ok e → q.depth = p.depth ∧ p.current < q.current := by
  have hn : p.ahead.length < p.tokens.length + 1 := by
    have hended := hp.ended
    rw [Cursor.ahead, List.length_drop]
    omega
  have hreads := (procedures_reads (p.tokens.length + 1)).1 p hp hn
  have hget : (get : Descent Cursor) p = some (.ok p, p) := rfl
  rw [expression]
  refine (hreads.of_eq (bind_of_ok hget _)).mono fun r q hr => ⟨hr.moves, ?_, fun e he => ?_⟩
  · have hcloses : ¬ (⟨[], [], p.depth⟩ : Stack).Closes p.ahead := by
      rintro ⟨-, ⟨name, outer, fs, hframes⟩, -⟩
      cases hframes
    have hreading := hr.reading ⟨[], [], p.depth⟩ rfl (fun w hw => by cases hw) hcloses
    rw [Parser.expression]
    show ((operand p.stop ⟨[], [], p.depth⟩ p.ahead).result,
      Parser.mk (operand p.stop ⟨[], [], p.depth⟩ p.ahead).rest p.stop
        (operand p.stop ⟨[], [], p.depth⟩ p.ahead).depth) = _
    rw [hreading, Cursor.toParser, hr.moves.stop_eq]
    cases r with
    | error err => rfl
    | ok e =>
      obtain ⟨hdepth, -, hcompleted⟩ := hr.success e rfl
      have hhalt := follow_of_completed p.stop (s := ⟨[], [], p.depth⟩) rfl hcompleted
        (fun hframes => absurd rfl hframes) (fun _ _ _ _ hframes => by cases hframes)
      rw [Stack.outcome, hhalt, hdepth]
      rfl
  · obtain ⟨hdepth, hforward, -⟩ := hr.success e he
    exact ⟨hdepth, hforward⟩

theorem parse_reads (hp : p.InRange) :
    parse.Ensures p fun r q => p.Moves q ∧ p.toParser.parse = (r, q.toParser) ∧
      ∀ e q', expression p = some (.ok e, q') → q' = q := by
  obtain ⟨r, q, hrun, hmoves, hexpression, -⟩ := expression_reads hp
  rw [parse]
  cases r with
  | error err =>
    refine ⟨.error err, q, bind_of_error hrun _, hmoves, ?_, fun e q' he => ?_⟩
    · rw [Parser.parse, hexpression]
    · rw [hrun] at he
      cases he
  | ok e =>
    obtain ⟨t, htoken, hfound, hposition, hstop, -⟩ := hmoves.inRange.exists_token
    have hsame : ∀ e' q', expression p = some (.ok e', q') → q' = q := by
      intro e' q' he
      rw [hrun] at he
      cases he
      rfl
    refine Ensures.of_eq ?_ (bind_of_ok hrun _)
    refine ensures_currentToken htoken ?_
    rw [hstop, hfound, hposition]
    cases hahead : q.ahead with
    | nil =>
      refine ensures_pure ⟨hmoves, ?_, hsame⟩
      rw [Parser.parse, hexpression]
      simp [Cursor.toParser, hahead]
    | cons t ts =>
      refine ensures_throw ⟨hmoves, ?_, hsame⟩
      rw [Parser.parse, hexpression]
      simp [Cursor.toParser, hahead]

end Descent

/-! ## Calls -/

namespace Parser

/-- The answer to a call, and the parser behind it. -/
def answer (p : Parser) : Call → Except ParseError Expr × Parser
  | .expression => p.expression
  | .parse => p.parse

/-- The answers to calls that are made one after the other. -/
def answers (p : Parser) : List Call → List (Except ParseError Expr) × Parser
  | [] => ([], p)
  | call :: calls =>
    let (answer, p) := p.answer call
    let (answers, p) := p.answers calls
    (answer :: answers, p)

end Parser

namespace Cursor

variable {p : Cursor}

/-- One call. The depth and the cursor after an expression that was read. -/
theorem answer_reads (hp : p.InRange) (call : Call) :
    ∃ r q, p.answer call = some (r, q) ∧ p.Moves q ∧ p.toParser.answer call = (r, q.toParser) ∧
      ∀ e q', Descent.expression p = some (.ok e, q') →
        q.depth = p.depth ∧ p.current < q.current := by
  obtain ⟨r, q, hrun, hmoves, hexpression, hsuccess⟩ := Descent.expression_reads hp
  cases call with
  | expression =>
    refine ⟨r, q, hrun, hmoves, hexpression, fun e q' he => ?_⟩
    rw [hrun] at he
    cases he
    exact hsuccess e rfl
  | parse =>
    obtain ⟨r', q', hparse, hmoves', hsame', hunique⟩ := Descent.parse_reads hp
    refine ⟨r', q', hparse, hmoves', hsame', fun e q'' he => ?_⟩
    obtain rfl := hunique e q'' he
    rw [hrun] at he
    cases he
    exact hsuccess e rfl

/-- Calls that are made one after the other are answered as the parser answers them. -/
theorem answers_reads (hp : p.InRange) (calls : List Call) :
    ∃ q, p.answers calls = some ((p.toParser.answers calls).1, q) ∧ p.Moves q ∧
      q.toParser = (p.toParser.answers calls).2 := by
  induction calls generalizing p with
  | nil => exact ⟨p, rfl, .refl hp, rfl⟩
  | cons call calls ih =>
    obtain ⟨r, q, hanswer, hmoves, hsame, -⟩ := answer_reads hp call
    obtain ⟨q', hanswers, hmoves', hsame'⟩ := ih hmoves.inRange
    rw [answers, hanswer, Parser.answers, hsame]
    refine ⟨q', ?_, hmoves.trans hmoves', hsame'⟩
    show Option.bind (q.answers calls) _ = _
    rw [hanswers]
    rfl

end Cursor

/-! ## Tokens and their end -/

/-- Where there is an end, it is not among the tokens before it. -/
theorem length_takeWhile_lt {ts : List Token} {t : Token} (ht : t ∈ ts) (hstop : t.isStop = true) :
    (ts.takeWhile (!·.isStop)).length < ts.length := by
  refine Nat.lt_of_le_of_ne (List.takeWhile_prefix _).length_le fun heq => ?_
  have hall : ts.takeWhile (!·.isStop) = ts := (List.takeWhile_prefix _).eq_of_length heq
  rw [← hall] at ht
  have hnot := List.all_eq_true.1 List.all_takeWhile t ht
  rw [hstop] at hnot
  cases hnot

namespace Parser

/-- The end that is added to tokens stands behind the last one. -/
theorem stopPosition_concat {ts : List Token} {t : Token} (hlast : ts.getLast? = some t) :
    stopPosition (ts ++ [.stopAt (t.position + t.lexeme.length)]) = stopPosition ts := by
  induction ts with
  | nil => cases hlast
  | cons u ts ih =>
    rw [List.cons_append, stopPosition, stopPosition]
    split
    · rfl
    · cases ts with
      | nil =>
        obtain rfl := Option.some.inj hlast
        rfl
      | cons v ts =>
        rw [List.getLast?_cons_cons] at hlast
        exact ih hlast

/-- What comes behind the first end makes no difference. -/
theorem ofTokens_congr {ts others : List Token}
    (hline : others.takeWhile (!·.isStop) = ts.takeWhile (!·.isStop))
    (hstop : others.find? Token.isStop = ts.find? Token.isStop) :
    ofTokens others = ofTokens ts := by
  have hposition : stopPosition others = stopPosition ts := by
    cases hfind : ts.find? Token.isStop with
    | none =>
      rw [hfind] at hstop
      have hwhole {us : List Token} (h : us.find? Token.isStop = none) :
          us.takeWhile (!·.isStop) = us := by
        rw [List.takeWhile_eq_self_iff]
        intro t ht
        simpa using List.find?_eq_none.1 h t ht
      rw [← hwhole hfind, ← hline, hwhole hstop]
    | some last =>
      rw [hfind] at hstop
      have hsplit {us : List Token} (h : us.find? Token.isStop = some last) :
          stopPosition us = last.position := by
        obtain ⟨hlast, before, after, rfl, hbefore⟩ := List.find?_eq_some_iff_append.1 h
        exact stopPosition_append (fun t ht => by simpa using hbefore t ht) hlast after
      rw [hsplit hfind, hsplit hstop]
  rw [ofTokens, ofTokens, hline, hposition]

end Parser

namespace Cursor

theorem inRange_ofTokens (ts : List Token) : (ofTokens ts).InRange := by
  unfold ofTokens
  split
  · exact ⟨Nat.zero_le _, by decide⟩
  · next t hlast =>
    split
    · next hstop =>
      exact ⟨Nat.zero_le _, length_takeWhile_lt (List.mem_of_getLast? hlast) hstop⟩
    · exact ⟨Nat.zero_le _, length_takeWhile_lt (List.mem_append_right _ List.mem_cons_self) rfl⟩

/-- An end that is added is no token before the first end. -/
theorem takeWhile_concat (ts : List Token) (position : Nat) :
    (ts ++ [Token.stopAt position]).takeWhile (!·.isStop) = ts.takeWhile (!·.isStop) := by
  rw [List.takeWhile_append]
  split
  · next hlength =>
    rw [(List.takeWhile_prefix _).eq_of_length hlength]
    exact List.append_nil ts
  · rfl

theorem toParser_ofTokens (ts : List Token) : (ofTokens ts).toParser = Parser.ofTokens ts := by
  unfold ofTokens
  split
  · next hlast =>
    rw [List.getLast?_eq_none_iff.1 hlast]
    rfl
  · next t hlast =>
    split
    · rfl
    · show Parser.mk ((ts ++ _).takeWhile (!·.isStop)) (Parser.stopPosition (ts ++ _)) 0 = _
      rw [takeWhile_concat, Parser.stopPosition_concat hlast]
      rfl

/-- The tokens in front of the cursor are no ends. -/
theorem InRange.isStop_of_mem_take {p : Cursor} (hp : p.InRange) :
    ∀ t ∈ p.tokens.take p.current, t.isStop = false := by
  intro t ht
  obtain ⟨last, after, hsplit, -⟩ := hp.split
  rw [hsplit, List.take_append_of_le_length hp.current_le] at ht
  simpa using List.all_eq_true.1 List.all_takeWhile t (List.mem_of_mem_take ht)

/-- A parser over any tokens that is asked time and again, whatever it returns. There is always an
answer, so that no token is looked for where there is none and no depth falls below zero, and it is
that of the reader. The cursor stays at a token and does not pass the first end; neither it nor the
depth ever decreases. Where an expression is read, the depth is as before and the cursor farther on.
Tokens behind the first end have no influence. -/
theorem calls_safe (ts : List Token) (calls : List Call) (call : Call) :
    ∃ p answer q,
      (ofTokens ts).answers calls = some (((Parser.ofTokens ts).answers calls).1, p) ∧
      p.toParser = ((Parser.ofTokens ts).answers calls).2 ∧
      p.answer call = some (answer, q) ∧
      p.tokens = (ofTokens ts).tokens ∧ p.current < p.tokens.length ∧
      (∀ t ∈ p.tokens.take p.current, t.isStop = false) ∧
      p.current ≤ q.current ∧ p.depth ≤ q.depth ∧
      (∀ e q', Descent.expression p = some (.ok e, q') →
        q.depth = p.depth ∧ p.current < q.current) ∧
      ∀ others : List Token,
        others.takeWhile (!·.isStop) = ts.takeWhile (!·.isStop) →
        others.find? Token.isStop = ts.find? Token.isStop →
        ∃ p', (ofTokens others).answers calls =
          some (((Parser.ofTokens ts).answers calls).1, p') := by
  obtain ⟨p, hanswers, hmoves, hparser⟩ := answers_reads (inRange_ofTokens ts) calls
  obtain ⟨answer, q, hanswer, hmoves', -, hsuccess⟩ := answer_reads hmoves.inRange call
  rw [toParser_ofTokens] at hanswers hparser
  refine ⟨p, answer, q, hanswers, hparser, hanswer, hmoves.tokens,
    Nat.lt_of_le_of_lt hmoves.inRange.current_le hmoves.inRange.ended,
    hmoves.inRange.isStop_of_mem_take, hmoves'.forward, hmoves'.deeper, hsuccess, ?_⟩
  intro others hline hstop
  obtain ⟨p', hanswers', -⟩ := answers_reads (inRange_ofTokens others) calls
  rw [toParser_ofTokens, Parser.ofTokens_congr hline hstop] at hanswers'
  exact ⟨p', hanswers'⟩

/-- A call that is never closed, with a number behind the end. The error leaves the cursor at the
end and the depth at one. -/
theorem calls_safe_behind_end :
    let ts : List Token := [⟨.name "f", "f", 0⟩, ⟨.symbol .leftParen, "(", 1⟩, .stopAt 2,
      ⟨.number ⟨1, 0⟩, "1", 3⟩]
    let missing : Except ParseError Expr := .error (.expectedExpression .stop 2)
    (ts.take 3).takeWhile (!·.isStop) = ts.takeWhile (!·.isStop) ∧
      (ts.take 3).find? Token.isStop = ts.find? Token.isStop ∧
      ∃ p p', (ofTokens ts).answers [.parse, .expression] = some ([missing, missing], p) ∧
        p.toParser = ⟨[], 2, 1⟩ ∧ p.current < 5 ∧
        (∀ t ∈ p.tokens.take p.current, t.isStop = false) ∧
        (ofTokens (ts.take 3)).answers [.parse, .expression] = some ([missing, missing], p') := by
  intro ts missing
  obtain ⟨p, -, -, hanswers, hparser, -, htokens, hcurrent, hnot, -, -, -, hothers⟩ :=
    calls_safe ts [.parse, .expression] .parse
  obtain ⟨p', hanswers'⟩ := hothers (ts.take 3) rfl rfl
  rw [htokens] at hcurrent
  exact ⟨rfl, rfl, p, p', hanswers, hparser, hcurrent, hnot, hanswers'⟩

end Cursor

end Reckon
