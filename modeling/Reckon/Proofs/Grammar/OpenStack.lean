import Reckon.Proofs.Grammar.Tree

/-!
# Open constructs

What a stack of the reader stands for, by the grammar:

* `Open base ks s`: after tokens of the kinds `ks`, read from the depth `base` on, `s` is what is
  open. One constructor for each kind of construct that may be open.
* `Open.finish`: the innermost operator that waits is given its right operand.
* `Open.collapse`: so is every operator that binds at least as tightly as a level; neither the
  tokens nor the levels nor the nesting change.
* `Open.close`, `Open.close_empty`, `Open.argument`: what a closing parenthesis completes, and
  what a comma leaves open.
-/

namespace Reckon

namespace Waiting

/-- How tightly the operation binds that will be made. -/
def level : Waiting → Nat
  | negation | power _ => Operator.pow.level
  | chain op _ => op.level

/-- The level that the awaited operand has at least. -/
def operandLevel : Waiting → Nat
  | negation | power _ => Operator.pow.level
  | chain op _ => op.level + 1

/-- How much deeper the awaited operand is nested. -/
def cost : Waiting → Nat
  | negation | power _ => 1
  | chain _ _ => 0

/-- The operation with its operand. -/
def finish : Waiting → Expr → Expr
  | negation, e => .negation e
  | power base, e => .binary .pow base e
  | chain op left, e => .binary op left e

theorem operandLevel_le (w : Waiting) : w.operandLevel ≤ w.level + 1 := by
  cases w <;> simp [operandLevel, level]

theorem level_le_operandLevel (w : Waiting) : w.level ≤ w.operandLevel := by
  cases w <;> simp [operandLevel, level]

theorem level_finish (w : Waiting) (e : Expr) : (w.finish e).level = w.level := by
  cases w <;> rfl

end Waiting

/-- A grouping or a call binds tightest. -/
theorem Bracket.level_close (b : Bracket) (e : Expr) :
    (b.close e).level = Operator.pow.level + 1 := by
  cases b <;> rfl

/-- An operand of the given level may stand where the innermost of `ws` awaits one. -/
def Admits (ws : List Waiting) (level : Nat) : Prop := ∀ w ∈ ws.head?, w.operandLevel ≤ level

namespace Stack

theorem collapseFrom_of_le {level : Nat} {w : Waiting} (hlevel : level ≤ w.level)
    (ws : List Waiting) (depth : Nat) (e : Expr) :
    collapseFrom level (w :: ws) depth e =
      collapseFrom level ws (depth - w.cost) (w.finish e) := by
  cases w with
  | negation => rfl
  | power base => rfl
  | chain op left => exact if_pos hlevel

theorem collapseFrom_of_lt {level : Nat} {w : Waiting} (hpow : level ≤ Operator.pow.level)
    (hlevel : w.level < level) (ws : List Waiting) (depth : Nat) (e : Expr) :
    collapseFrom level (w :: ws) depth e = (w :: ws, depth, e) := by
  cases w with
  | negation => exact absurd hpow (Nat.not_le_of_lt hlevel)
  | power base => exact absurd hpow (Nat.not_le_of_lt hlevel)
  | chain op left => exact if_neg (Nat.not_le_of_lt hlevel)

end Stack

/-- A tree that may be read at the given depth by a parser that is nested `base` deep already. -/
structure Expr.ReadAt (base depth : Nat) (e : Expr) : Prop where
  leveled : e.Leveled
  room : depth + e.nesting ≤ max base maxNesting

/-- After tokens of the given kinds, which begin at the depth `base`, the stack is what is
open. -/
inductive Open (base : Nat) : List TokenKind → Stack → Prop where
  | start : Open base [] ⟨[], [], base⟩
  | negation {ks ws fs d} (outer : Open base ks ⟨ws, fs, d⟩) (room : d < maxNesting) :
      Open base (ks ++ [.symbol .minus]) ⟨.negation :: ws, fs, d + 1⟩
  | power {ks ws fs d b} (outer : Open base ks ⟨ws, fs, d⟩) (room : d < maxNesting)
      (left : b.ReadAt base d) (primary : Operator.pow.level < b.level) :
      Open base (ks ++ b.kinds ++ [.symbol .caret]) ⟨.power b :: ws, fs, d + 1⟩
  | chain {ks ws fs d op l} (outer : Open base ks ⟨ws, fs, d⟩) (hop : op ≠ .pow)
      (admits : Admits ws op.level) (left : l.ReadAt base d) (level : op.level ≤ l.level) :
      Open base (ks ++ l.kinds ++ [.symbol op.symbol]) ⟨.chain op l :: ws, fs, d⟩
  | grouping {ks ws fs d} (outer : Open base ks ⟨ws, fs, d⟩) (room : d < maxNesting) :
      Open base (ks ++ [.symbol .leftParen]) ⟨[], ⟨.grouping, ws⟩ :: fs, d + 1⟩
  | call {ks ws fs d name args} (outer : Open base ks ⟨ws, fs, d⟩) (room : d < maxNesting)
      (before : ∀ arg ∈ args, arg.ReadAt base (d + 1)) :
      Open base (ks ++ [.name name, .symbol .leftParen] ++ Expr.openKinds args.reverse)
        ⟨[], ⟨.call name args, ws⟩ :: fs, d + 1⟩

namespace Open

variable {base : Nat} {ks : List TokenKind} {s : Stack}

theorem depth_le (h : Open base ks s) : s.depth ≤ max base maxNesting := by
  cases h with
  | start => exact Nat.le_max_left ..
  | chain _ _ _ left => exact Nat.le_trans (Nat.le_add_right ..) left.room
  | negation _ room | power _ room | grouping _ room | call _ room =>
    exact Nat.le_trans room (Nat.le_max_right ..)

/-- Negations, powers and what binds tighter may stand anywhere. -/
theorem admits (h : Open base ks s) {n : Nat} (hn : Operator.pow.level ≤ n) :
    Admits s.waiting n := by
  intro w hw
  cases h with
  | start | grouping | call => simp at hw
  | negation | power =>
    obtain rfl := Option.some.inj hw
    exact hn
  | chain _ hop =>
    obtain rfl := Option.some.inj hw
    exact Nat.le_trans (Operator.level_lt hop) hn

/-- The innermost operator that waits is given its operand. -/
theorem finish {w : Waiting} {ws : List Waiting} {fs : List Frame} {d : Nat}
    (h : Open base ks ⟨w :: ws, fs, d⟩) {e : Expr} (he : e.ReadAt base d)
    (hadmits : w.operandLevel ≤ e.level) :
    ∃ ks', Open base ks' ⟨ws, fs, d - w.cost⟩ ∧ (w.finish e).ReadAt base (d - w.cost) ∧
      ks' ++ (w.finish e).kinds = ks ++ e.kinds ∧ Admits ws w.level := by
  have hroom := he.room
  cases h with
  | @negation ks' _ _ d outer =>
    refine ⟨ks', outer, ⟨⟨hadmits, he.leveled⟩, ?_⟩, ?_, outer.admits (Nat.le_refl _)⟩
    · simp only [Waiting.finish, Waiting.cost, Expr.nesting]
      omega
    · simp [Waiting.finish, Expr.kinds]
  | @power ks' _ _ d b outer _ left primary =>
    have hleft := left.room
    refine ⟨ks', outer, ⟨⟨primary, hadmits, left.leveled, he.leveled⟩, ?_⟩, ?_,
      outer.admits (Nat.le_refl _)⟩
    · simp only [Waiting.finish, Waiting.cost, Expr.nesting, if_true]
      omega
    · simp [Waiting.finish, Expr.kinds, Operator.symbol, Operator.pow]
  | @chain ks' _ _ _ op l outer hop admits left level =>
    have hleft := left.room
    refine ⟨ks', outer, ⟨⟨?_, ?_, left.leveled, he.leveled⟩, ?_⟩, ?_, admits⟩
    · rw [Operator.leftLevel_of_ne hop]
      exact level
    · rw [Operator.rightLevel_of_ne hop]
      exact hadmits
    · simp only [Waiting.finish, Waiting.cost, Expr.nesting, if_neg hop]
      omega
    · simp [Waiting.finish, Expr.kinds]

/-- What `Stack.collapse` leaves: the same tokens, an operand that binds at least as tightly as
the level, and operators that bind less tightly. -/
theorem collapse {level : Nat} (hpow : level ≤ Operator.pow.level) (h : Open base ks s) {e : Expr}
    (he : e.ReadAt base s.depth) (hadmits : Admits s.waiting e.level) (hlevel : level ≤ e.level) :
    ∃ ks', Open base ks' (s.collapse level e).1 ∧
      (s.collapse level e).2.ReadAt base (s.collapse level e).1.depth ∧
      ks' ++ (s.collapse level e).2.kinds = ks ++ e.kinds ∧
      level ≤ (s.collapse level e).2.level ∧
      ∀ w ∈ (s.collapse level e).1.waiting.head?, w.level < level := by
  obtain ⟨ws, fs, d⟩ := s
  induction ws generalizing ks d e with
  | nil => exact ⟨ks, h, he, rfl, hlevel, by simp [Stack.collapse, Stack.collapseFrom]⟩
  | cons w ws ih =>
    by_cases hw : level ≤ w.level
    · obtain ⟨ks', h', he', hkinds, hadmits'⟩ := h.finish he (hadmits w rfl)
      have hrec := ih (by rwa [w.level_finish]) _ h' he' (by rwa [w.level_finish])
      rw [hkinds] at hrec
      simpa only [Stack.collapse, Stack.collapseFrom_of_le hw] using hrec
    · have hlt : w.level < level := Nat.lt_of_not_le hw
      simp only [Stack.collapse, Stack.collapseFrom_of_lt hpow hlt]
      refine ⟨ks, h, he, rfl, hlevel, ?_⟩
      intro w' hw'
      obtain rfl := Option.some.inj hw'
      exact hlt

/-- Before an operator that associates to the left, what waits binds less tightly. -/
theorem collapse_operator {op : Operator} (hop : op ≠ .pow) (h : Open base ks s) {e : Expr}
    (he : e.ReadAt base s.depth) (hprimary : Operator.pow.level < e.level) :
    Open base (ks ++ e.kinds ++ [.symbol op.symbol])
      ((s.collapse op.level e).1.wait (.chain op (s.collapse op.level e).2)) := by
  have hlevel : op.level ≤ e.level := Nat.le_trans op.level_le (Nat.le_of_lt hprimary)
  obtain ⟨ks', h', he', hkinds, hlevel', hhead⟩ :=
    h.collapse op.level_le he (h.admits (Nat.le_of_lt hprimary)) hlevel
  rw [← hkinds]
  refine .chain h' hop ?_ he' hlevel'
  intro w hw
  have hwlt := hhead w hw
  have hwle := w.operandLevel_le
  omega

/-- At the end of what a parenthesis holds, no operator waits any more. -/
theorem collapse_all (h : Open base ks s) {e : Expr} (he : e.ReadAt base s.depth)
    (hprimary : Operator.pow.level < e.level) :
    ∃ ks' e' d, s.collapse 0 e = (⟨[], s.frames, d⟩, e') ∧ Open base ks' ⟨[], s.frames, d⟩ ∧
      e'.ReadAt base d ∧ ks' ++ e'.kinds = ks ++ e.kinds := by
  obtain ⟨ks', h', he', hkinds, -, hhead⟩ :=
    h.collapse (Nat.zero_le _) he (h.admits (Nat.le_of_lt hprimary)) (Nat.zero_le _)
  have hnil : (s.collapse 0 e).1.waiting = [] := by
    cases hws : (s.collapse 0 e).1.waiting with
    | nil => rfl
    | cons w ws => exact absurd (hhead w (by rw [hws]; rfl)) (Nat.not_lt_zero _)
  have heq : (s.collapse 0 e).1 = ⟨[], s.frames, (s.collapse 0 e).1.depth⟩ := by rw [← hnil]; rfl
  exact ⟨ks', _, _, Prod.ext heq rfl, heq ▸ h', he', hkinds⟩

/-! ### Parentheses -/

/-- The tree that a closing parenthesis completes. -/
theorem close {b : Bracket} {outer : List Waiting} {fs : List Frame} {d : Nat}
    (h : Open base ks ⟨[], ⟨b, outer⟩ :: fs, d⟩) {e : Expr} (he : e.ReadAt base d) :
    ∃ ks', Open base ks' ⟨outer, fs, d - 1⟩ ∧ (b.close e).ReadAt base (d - 1) ∧
      ks' ++ (b.close e).kinds = ks ++ e.kinds ++ [.symbol .rightParen] := by
  have hroom := he.room
  cases h with
  | @grouping ks' _ _ d outer =>
    refine ⟨ks', outer, ⟨he.leveled, ?_⟩, ?_⟩
    · simp only [Bracket.close, Expr.nesting]
      omega
    · simp [Bracket.close, Expr.kinds]
  | @call ks' _ _ d name args outer _ before =>
    refine ⟨ks', outer, ⟨?_, ?_⟩, ?_⟩
    · refine Expr.listLeveled_iff.2 fun arg harg => ?_
      rcases List.mem_append.1 harg with harg | harg
      · exact (before arg (List.mem_reverse.1 harg)).leveled
      · exact List.mem_singleton.1 harg ▸ he.leveled
    · have hargs : Expr.listNesting (args.reverse ++ [e]) ≤ max base maxNesting - (d + 1) := by
        refine Expr.listNesting_le_iff.2 fun arg harg => ?_
        rcases List.mem_append.1 harg with harg | harg
        · have := (before arg (List.mem_reverse.1 harg)).room
          omega
        · obtain rfl := List.mem_singleton.1 harg
          omega
      simp only [Bracket.close, Expr.nesting]
      omega
    · simp [Bracket.close, Expr.kinds, Expr.listKinds_concat]

/-- A call without arguments. -/
theorem close_empty {name : String} {outer : List Waiting} {fs : List Frame} {d : Nat}
    (h : Open base ks ⟨[], ⟨.call name [], outer⟩ :: fs, d⟩) :
    ∃ ks', Open base ks' ⟨outer, fs, d - 1⟩ ∧ (Expr.call name []).ReadAt base (d - 1) ∧
      ks' ++ (Expr.call name []).kinds = ks ++ [.symbol .rightParen] := by
  have hdepth := h.depth_le
  cases h with
  | @call ks' _ _ d _ _ outer =>
    refine ⟨ks', outer, ⟨trivial, ?_⟩, ?_⟩
    · simp only [Expr.nesting, Expr.listNesting]
      omega
    · simp [Expr.kinds, Expr.listKinds, Expr.openKinds]

/-- An argument that another one follows. -/
theorem argument {name : String} {args : List Expr} {outer : List Waiting} {fs : List Frame}
    {d : Nat} (h : Open base ks ⟨[], ⟨.call name args, outer⟩ :: fs, d⟩) {e : Expr}
    (he : e.ReadAt base d) :
    Open base (ks ++ e.kinds ++ [.symbol .comma])
      ⟨[], ⟨.call name (e :: args), outer⟩ :: fs, d⟩ := by
  cases h with
  | @call ks' _ _ d _ _ outer room before =>
    have hbefore : ∀ arg ∈ e :: args, arg.ReadAt base (d + 1) := by
      intro arg harg
      rcases List.mem_cons.1 harg with rfl | harg
      · exact he
      · exact before arg harg
    have hcall : Open base _ ⟨[], ⟨.call name (e :: args), _⟩ :: fs, d + 1⟩ :=
      .call outer room hbefore
    simpa [Expr.openKinds] using hcall

end Open

end Reckon
