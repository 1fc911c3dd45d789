import Reckon.Proofs.Grammar.Recognition

/-!
# Recursive descent

The reader of expressions keeps what is open on a stack of its own. The same language is read by
procedures that call each other, one for each kind of construct, with a cursor in the tokens and a
counter of the nesting that they share. Here nothing is taken for granted of the cursor and of the
counter: where one of them would leave its range, there is no answer.

* `Cursor`: all tokens, an end among them, the index of the current one, and the nesting depth.
* `Descent`: a procedure. `Descent.primary`, …, `Descent.chain`: those that read expressions, given
  the ones that they call for what is nested. `Descent.procedures`: all of them together.
* `Call`, `Cursor.answer`, `Cursor.answers`: what a parser is asked for, once and time and again.
* `Cursor.line`, `Cursor.ahead`, `Cursor.InRange`: the tokens before the first end, those of them
  that are left, and a cursor that is not past them.
* `Descent.Ensures`: a procedure comes to an end, and what holds then. One rule for each step that
  the procedures take.
-/

namespace Reckon

/-- A place in a list of tokens, and the nesting depth there. -/
structure Cursor where
  tokens : List Token
  current : Nat
  depth : Nat

/-- A cursor at the first token. A missing end is added. -/
def Cursor.ofTokens (ts : List Token) : Cursor :=
  match ts.getLast? with
  | none => ⟨[.stopAt 0], 0, 0⟩
  | some t =>
    if t.isStop then ⟨ts, 0, 0⟩ else ⟨ts ++ [.stopAt (t.position + t.lexeme.length)], 0, 0⟩

/-- A procedure that moves the cursor and returns something or an error. There is no answer where
it looks for a token that does not exist, and where the depth would fall below zero. -/
abbrev Descent := ExceptT ParseError (StateT Cursor Option)

/-- What stands at the token. -/
def Token.found (t : Token) : Found := if t.isStop then .stop else .lexeme t.lexeme

namespace Descent

/-! ## Steps -/

/-- There is no answer. -/
def stuck {α : Type} : Descent α := liftM (none : Option α)

def currentToken : Descent Token := do
  let p ← get
  liftM p.tokens[p.current]?

/-- Takes the current token. The end is not left. -/
def advance : Descent Token := do
  let t ← currentToken
  unless t.isStop do
    modify fun p => { p with current := p.current + 1 }
  return t

def check (s : Symbol) : Descent Bool := return (← currentToken).kind == .symbol s

def expect (s : Symbol) (closer : Closer) : Descent Token := do
  if ← check s then advance
  else
    let t ← currentToken
    throw (.unexpectedToken closer t.found t.position)

/-- The depth goes up before it is looked at, and stays up after the error. -/
def enter : Descent Unit := do
  modify fun p => { p with depth := p.depth + 1 }
  if maxNesting < (← get).depth then throw .nestingTooDeep

def leave : Descent Unit := do
  match (← get).depth with
  | 0 => stuck
  | depth + 1 => modify fun p => { p with depth }

/-! ## Procedures

A procedure is given those that read what is nested in it: `expression` within parentheses, and
`unary` behind a minus sign or `^`. A loop is given the number of times that it may be run
through. -/

section Procedures

variable (expression unary : Descent Expr)

/-- The arguments of a call from here on, behind those already read. -/
def argumentsFrom : Nat → List Expr → Descent (List Expr)
  | 0, _ => stuck
  | count + 1, before => do
    let e ← expression
    if ← check .comma then
      let _ ← advance
      argumentsFrom count (before ++ [e])
    else return before ++ [e]

/-- The arguments of a call, behind its opening parenthesis. -/
def arguments (count : Nat) : Descent (List Expr) := do
  let args ← if ← check .rightParen then pure [] else argumentsFrom expression count []
  let _ ← expect .rightParen .arguments
  return args

/-- Numbers, names, calls and groupings. -/
def primary (count : Nat) : Descent Expr := do
  let t ← currentToken
  match t.kind with
  | .number value =>
    let _ ← advance
    return .literal value
  | .name name =>
    let _ ← advance
    if ← check .leftParen then
      let _ ← advance
      enter
      let args ← arguments expression count
      leave
      return .call name args
    else return .reference name
  | .symbol .leftParen =>
    let _ ← advance
    enter
    let e ← expression
    leave
    let _ ← expect .rightParen .grouping
    return .grouping e
  | _ => throw (.expectedExpression t.found t.position)

def exponent (count : Nat) : Descent Expr := do
  let left ← primary expression count
  if ← check .caret then
    let _ ← advance
    enter
    let right ← unary
    leave
    return .binary .pow left right
  else return left

def negation (count : Nat) : Descent Expr := do
  if ← check .minus then
    let _ ← advance
    enter
    let operand ← unary
    leave
    return .negation operand
  else exponent expression unary count

/-- The operator of this level that the token is, if it associates to the left. -/
def operatorAt (level : Nat) (t : Token) : Option Operator :=
  match t.kind with
  | .symbol s => s.chained?.filter (·.level = level)
  | _ => none

/-- The operators of the level from here on, with `left` in front of them and operands that
`operand` reads. -/
def chainFrom (operand : Descent Expr) (level : Nat) : Nat → Expr → Descent Expr
  | 0, _ => stuck
  | count + 1, left => do
    match operatorAt level (← currentToken) with
    | none => return left
    | some op =>
      let _ ← advance
      let right ← operand
      chainFrom operand level count (.binary op left right)

/-- Operations of so many levels below that of `^`, and whatever binds tighter. -/
def chain (count : Nat) : Nat → Descent Expr
  | 0 => unary
  | below + 1 => do
    let left ← chain count below
    chainFrom (chain count below) (Operator.pow.level - (below + 1)) count left

end Procedures

/-- The procedures that read expressions, and operands of the level of `^`. -/
structure Procedures where
  expression : Descent Expr
  unary : Descent Expr

/-- Procedures that may be nested so many times in each other. -/
def procedures : Nat → Procedures
  | 0 => ⟨stuck, stuck⟩
  | count + 1 =>
    let nested := procedures count
    let unary := negation nested.expression nested.unary count
    ⟨chain unary count Operator.pow.level, unary⟩

/-- What is nested stands behind a token of its own, so that the tokens bound the nesting. -/
def expression : Descent Expr := do
  let p ← get
  (procedures (p.tokens.length + 1)).expression

/-- One expression that nothing follows. -/
def parse : Descent Expr := do
  let e ← expression
  let t ← currentToken
  if t.isStop then return e else throw (.trailingInput t.found t.position)

end Descent

/-! ## Calls -/

/-- What a parser is asked for. -/
inductive Call where
  | expression
  | parse

/-- The answer to a call, and the cursor behind it. -/
def Cursor.answer (p : Cursor) : Call → Option (Except ParseError Expr × Cursor)
  | .expression => Descent.expression p
  | .parse => Descent.parse p

/-- The answers to calls that are made one after the other, whatever they return. -/
def Cursor.answers (p : Cursor) : List Call → Option (List (Except ParseError Expr) × Cursor)
  | [] => some ([], p)
  | call :: calls => do
    let (answer, p) ← p.answer call
    let (answers, p) ← p.answers calls
    return (answer :: answers, p)

/-! ## Cursors -/

namespace Cursor

/-- The tokens before the first end. -/
def line (p : Cursor) : List Token := p.tokens.takeWhile (!·.isStop)

/-- The tokens before the first end that are left. -/
def ahead (p : Cursor) : List Token := p.line.drop p.current

/-- The position of the first end. -/
def stop (p : Cursor) : Nat := Parser.stopPosition p.tokens

/-- There is an end among the tokens, and the cursor is not past the first one. -/
structure InRange (p : Cursor) : Prop where
  current_le : p.current ≤ p.line.length
  ended : p.line.length < p.tokens.length

/-- The cursor at the next token. -/
def step (p : Cursor) : Cursor := { p with current := p.current + 1 }

/-- The cursor at another depth. -/
def withDepth (p : Cursor) (depth : Nat) : Cursor := { p with depth }

/-- The current token is not this symbol. -/
def NotAt (p : Cursor) (s : Symbol) : Prop := ∀ t ∈ p.ahead.head?, t.kind ≠ .symbol s

variable {p : Cursor} {t : Token} {ts : List Token}

@[simp] theorem stop_step : p.step.stop = p.stop := rfl

theorem InRange.withDepth (h : p.InRange) (d : Nat) : (p.withDepth d).InRange := ⟨h.1, h.2⟩

theorem ahead_step (h : p.ahead = t :: ts) : p.step.ahead = ts := by
  have hdrop : p.line.drop (p.current + 1) = (p.line.drop p.current).tail := by
    rw [List.tail_drop]
  show p.line.drop (p.current + 1) = ts
  rw [hdrop]
  show p.ahead.tail = ts
  rw [h]
  rfl

theorem current_lt_of_ahead (h : p.ahead = t :: ts) : p.current < p.line.length := by
  have hlength := congrArg List.length h
  rw [ahead, List.length_drop, List.length_cons] at hlength
  omega

theorem InRange.step (hp : p.InRange) (h : p.ahead = t :: ts) : p.step.InRange :=
  ⟨current_lt_of_ahead h, hp.ended⟩

/-- A token that is left is the current one, and no end. -/
theorem token_of_ahead (h : p.ahead = t :: ts) :
    p.tokens[p.current]? = some t ∧ t.isStop = false := by
  have hline : p.line[p.current]? = some t := by
    have hhead := congrArg List.head? h
    rwa [ahead, List.head?_drop] at hhead
  have hmem : t ∈ p.line := List.mem_of_getElem? hline
  refine ⟨?_, by simpa using List.all_eq_true.1 List.all_takeWhile t hmem⟩
  have hsplit : p.line ++ p.tokens.dropWhile (!·.isStop) = p.tokens :=
    List.takeWhile_append_dropWhile
  rw [← hsplit, List.getElem?_append_left (current_lt_of_ahead h), hline]

theorem eq_of_mem_head?_ahead (h : p.tokens[p.current]? = some t) :
    ∀ u ∈ p.ahead.head?, u = t := by
  intro u hu
  obtain ⟨ts, hahead⟩ := List.head?_eq_some_iff.1 hu
  exact Option.some.inj ((token_of_ahead hahead).1.symm.trans h)

/-- The tokens before the first end, that end, and what comes behind it. -/
theorem InRange.split (hp : p.InRange) :
    ∃ last after, p.tokens = p.line ++ last :: after ∧ last.isStop = true := by
  have hsplit : p.line ++ p.tokens.dropWhile (!·.isStop) = p.tokens :=
    List.takeWhile_append_dropWhile
  cases hdrop : p.tokens.dropWhile (!·.isStop) with
  | nil =>
    have hended := hp.ended
    rw [hdrop, List.append_nil] at hsplit
    rw [hsplit] at hended
    exact absurd hended (Nat.lt_irrefl _)
  | cons last after =>
    rw [hdrop] at hsplit
    have hhead := List.head?_dropWhile_not (!·.isStop) p.tokens
    rw [hdrop] at hhead
    exact ⟨last, after, hsplit.symm, by simpa using hhead⟩

/-- Behind the last token that is left, the current one is the first end. -/
theorem InRange.token_of_nil (hp : p.InRange) (h : p.ahead = []) :
    ∃ t, p.tokens[p.current]? = some t ∧ t.isStop = true ∧ t.position = p.stop := by
  obtain ⟨last, after, hsplit, hlast⟩ := hp.split
  have hcurrent : p.current = p.line.length :=
    Nat.le_antisymm hp.current_le (List.drop_eq_nil_iff.1 h)
  refine ⟨last, ?_, hlast, ?_⟩
  · rw [hsplit, hcurrent, List.getElem?_append_right (Nat.le_refl _), Nat.sub_self]
    rfl
  · have hline : ∀ t ∈ p.line, t.isStop = false := fun t ht => by
      simpa using List.all_eq_true.1 List.all_takeWhile t ht
    rw [stop, hsplit, Parser.stopPosition_append hline hlast]

/-- The current token exists. Errors show it as the reader shows the tokens that are left. -/
theorem InRange.exists_token (hp : p.InRange) :
    ∃ t, p.tokens[p.current]? = some t ∧ t.found = foundAt p.ahead ∧
      t.position = positionAt p.stop p.ahead ∧ t.isStop = p.ahead.isEmpty ∧
      (t.isStop = false → p.ahead.head? = some t) := by
  cases hahead : p.ahead with
  | nil =>
    obtain ⟨t, htoken, hstop, hposition⟩ := hp.token_of_nil hahead
    refine ⟨t, htoken, by rw [Token.found, if_pos hstop]; rfl, hposition, hstop, ?_⟩
    intro hnot
    rw [hstop] at hnot
    cases hnot
  | cons t ts =>
    obtain ⟨htoken, hstop⟩ := token_of_ahead hahead
    refine ⟨t, htoken, ?_, rfl, hstop, fun _ => rfl⟩
    rw [Token.found, hstop]
    rfl

end Cursor

/-! ## What procedures do -/

namespace Descent

variable {α β : Type} {p q : Cursor}

/-- From the cursor `p`, the procedure comes to an end and does what `post` says. -/
def Ensures (m : Descent α) (p : Cursor) (post : Except ParseError α → Cursor → Prop) : Prop :=
  ∃ r q, m p = some (r, q) ∧ post r q

variable {post : Except ParseError β → Cursor → Prop}

theorem bind_of_ok {m : Descent α} {a : α} (h : m p = some (.ok a, q)) (f : α → Descent β) :
    (m >>= f) p = f a q := by
  show Option.bind (m p) _ = _
  rw [h]
  rfl

theorem bind_of_error {m : Descent α} {e : ParseError} (h : m p = some (.error e, q))
    (f : α → Descent β) : (m >>= f) p = some (.error e, q) := by
  show Option.bind (m p) _ = _
  rw [h]
  rfl

theorem ensures_pure {a : β} (h : post (.ok a) p) : (pure a : Descent β).Ensures p post :=
  ⟨.ok a, p, rfl, h⟩

theorem ensures_throw {e : ParseError} (h : post (.error e) p) :
    (throw e : Descent β).Ensures p post :=
  ⟨.error e, p, rfl, h⟩

theorem Ensures.mono {m : Descent β} {post' : Except ParseError β → Cursor → Prop}
    (h : m.Ensures p post') (hpost : ∀ r q, post' r q → post r q) : m.Ensures p post := by
  obtain ⟨r, q, hm, hr⟩ := h
  exact ⟨r, q, hm, hpost r q hr⟩

theorem Ensures.of_eq {m : Descent β} {p' : Cursor} {m' : Descent β} (h : m'.Ensures p' post)
    (heq : m p = m' p') : m.Ensures p post := by
  obtain ⟨r, q, hm, hr⟩ := h
  exact ⟨r, q, heq.trans hm, hr⟩

/-- A procedure that goes on only where its first part succeeds. -/
theorem Ensures.bind {m : Descent α} {f : α → Descent β}
    {post' : Except ParseError α → Cursor → Prop} (h : m.Ensures p post')
    (hok : ∀ a q, post' (.ok a) q → (f a).Ensures q post)
    (herror : ∀ e q, post' (.error e) q → post (.error e) q) : (m >>= f).Ensures p post := by
  obtain ⟨r, q, hm, hr⟩ := h
  cases r with
  | ok a => exact (hok a q hr).of_eq (bind_of_ok hm f)
  | error e => exact ⟨.error e, q, bind_of_error hm f, herror e q hr⟩

/-! ### Steps -/

section Steps

variable {t : Token} {ts : List Token} {s : Symbol} {f : Bool → Descent β} {g : Token → Descent β}

theorem currentToken_eq (h : p.tokens[p.current]? = some t) : currentToken p = some (.ok t, p) := by
  show Option.bind (Option.bind p.tokens[p.current]? _) _ = _
  rw [h]
  rfl

theorem ensures_currentToken (h : p.tokens[p.current]? = some t) (hg : (g t).Ensures p post) :
    (currentToken >>= g).Ensures p post :=
  hg.of_eq (bind_of_ok (currentToken_eq h) g)

theorem advance_eq (h : p.ahead = t :: ts) : advance p = some (.ok t, p.step) := by
  obtain ⟨htoken, hstop⟩ := Cursor.token_of_ahead h
  rw [advance, bind_of_ok (currentToken_eq htoken), hstop]
  rfl

theorem ensures_advance (h : p.ahead = t :: ts) (hg : (g t).Ensures p.step post) :
    (advance >>= g).Ensures p post :=
  hg.of_eq (bind_of_ok (advance_eq h) g)

theorem check_eq (hp : p.InRange) (s : Symbol) :
    (∃ t ts, p.ahead = t :: ts ∧ t.kind = .symbol s ∧ check s p = some (.ok true, p)) ∨
      p.NotAt s ∧ check s p = some (.ok false, p) := by
  obtain ⟨t, htoken, -, -, hstop, hhead⟩ := hp.exists_token
  have hcheck : check s p = some (.ok (t.kind == .symbol s), p) :=
    bind_of_ok (currentToken_eq htoken) _
  by_cases hkind : t.kind = .symbol s
  · left
    have hnot : t.isStop = false := by
      rw [Token.isStop, hkind]
      rfl
    obtain ⟨ts, hahead⟩ := List.head?_eq_some_iff.1 (hhead hnot)
    exact ⟨t, ts, hahead, hkind, by rw [hcheck, hkind, beq_self_eq_true]⟩
  · right
    refine ⟨fun u hu => ?_, by rw [hcheck, beq_eq_false_iff_ne.2 hkind]⟩
    rw [Cursor.eq_of_mem_head?_ahead htoken u hu]
    exact hkind

theorem ensures_check (hp : p.InRange)
    (hyes : ∀ t ts, p.ahead = t :: ts → t.kind = .symbol s → (f true).Ensures p post)
    (hno : p.NotAt s → (f false).Ensures p post) : (check s >>= f).Ensures p post := by
  rcases check_eq hp s with ⟨t, ts, hahead, hkind, hcheck⟩ | ⟨hnot, hcheck⟩
  · exact (hyes t ts hahead hkind).of_eq (bind_of_ok hcheck f)
  · exact (hno hnot).of_eq (bind_of_ok hcheck f)

theorem ensures_expect {closer : Closer} (hp : p.InRange)
    (hyes : ∀ t ts, p.ahead = t :: ts → t.kind = .symbol s → (g t).Ensures p.step post)
    (hno : p.NotAt s →
      post (.error (.unexpectedToken closer (foundAt p.ahead) (positionAt p.stop p.ahead))) p) :
    (expect s closer >>= g).Ensures p post := by
  rcases check_eq hp s with ⟨t, ts, hahead, hkind, hcheck⟩ | ⟨hnot, hcheck⟩
  · have hexpect : expect s closer p = some (.ok t, p.step) :=
      (bind_of_ok hcheck _).trans (advance_eq hahead)
    exact (hyes t ts hahead hkind).of_eq (bind_of_ok hexpect g)
  · obtain ⟨t, htoken, hfound, hposition, -⟩ := hp.exists_token
    have hexpect : expect s closer p =
        some (.error (.unexpectedToken closer t.found t.position), p) :=
      (bind_of_ok hcheck _).trans (bind_of_ok (currentToken_eq htoken) _)
    rw [hfound, hposition] at hexpect
    exact ⟨_, p, bind_of_error hexpect g, hno hnot⟩

theorem ensures_enter {g : Unit → Descent β}
    (hdeep : maxNesting ≤ p.depth → post (.error .nestingTooDeep) (p.withDepth (p.depth + 1)))
    (hroom : p.depth < maxNesting → (g ()).Ensures (p.withDepth (p.depth + 1)) post) :
    (enter >>= g).Ensures p post := by
  have henter : enter p =
      (if maxNesting < p.depth + 1 then throw .nestingTooDeep else pure () : Descent Unit)
        (p.withDepth (p.depth + 1)) := rfl
  by_cases hfull : maxNesting ≤ p.depth
  · rw [if_pos (Nat.lt_succ_of_le hfull)] at henter
    exact ⟨_, _, bind_of_error henter g, hdeep hfull⟩
  · rw [if_neg (by omega)] at henter
    exact (hroom (Nat.lt_of_not_le hfull)).of_eq (bind_of_ok henter g)

/-- The depth is not zero when a construct is left. -/
theorem ensures_leave {g : Unit → Descent β} {d : Nat} (hd : p.depth = d + 1)
    (hg : (g ()).Ensures (p.withDepth d) post) : (leave >>= g).Ensures p post := by
  have hleave : leave p = some (.ok (), p.withDepth d) := by
    obtain ⟨tokens, current, depth⟩ := p
    subst hd
    rfl
  exact hg.of_eq (bind_of_ok hleave g)

/-- A construct is entered, `m` reads it, and it is left unless that fails. -/
theorem ensures_nested {m : Descent α} {f : α → Descent β}
    {post' : Except ParseError α → Cursor → Prop} (hm : m.Ensures (p.withDepth (p.depth + 1)) post')
    (hdepth : ∀ a q, post' (.ok a) q → q.depth = p.depth + 1)
    (hdeep : maxNesting ≤ p.depth → post (.error .nestingTooDeep) (p.withDepth (p.depth + 1)))
    (hok : p.depth < maxNesting → ∀ a q, post' (.ok a) q → (f a).Ensures (q.withDepth p.depth) post)
    (herror : p.depth < maxNesting → ∀ e q, post' (.error e) q → post (.error e) q) :
    (do
      enter
      let a ← m
      leave
      f a).Ensures p post :=
  ensures_enter hdeep fun hroom =>
    hm.bind (fun a q ha => ensures_leave (hdepth a q ha) (hok hroom a q ha)) (herror hroom)

end Steps

end Descent

end Reckon
