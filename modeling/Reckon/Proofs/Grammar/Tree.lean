import Reckon.Expr.Parser

/-!
# The grammar of expressions

What an expression looks like to someone who knows the grammar and not the reader:

* `Expr.kinds`: the kinds of the tokens that a tree is written with, from left to right.
* `Expr.level`: how tightly the root of a tree binds. Between the levels of the operators stand
  the negations, at the level of `^`; numbers, names, calls and groupings bind tightest.
* `Expr.Leveled`: every operand binds at least as tightly as its place asks. Operators that
  associate to the left ask it of their left operand for their own level and of the right one for
  a tighter level; with `^` it is the other way round.
* `Expr.nesting`: how deep groupings, calls, negations and right operands of `^` are nested.
-/

namespace Reckon

namespace Operator

/-- The level that a left operand has at least. -/
def leftLevel (op : Operator) : Nat := if op = .pow then op.level + 1 else op.level

/-- The level that a right operand has at least. -/
def rightLevel (op : Operator) : Nat := if op = .pow then op.level else op.level + 1

theorem level_le (op : Operator) : op.level ≤ pow.level := by
  rcases op with op | op | op <;> cases op <;> decide

theorem level_lt {op : Operator} (h : op ≠ .pow) : op.level < pow.level := by
  rcases op with op | op | op <;> cases op <;> first | decide | exact absurd rfl h

theorem leftLevel_of_ne {op : Operator} (h : op ≠ .pow) : op.leftLevel = op.level := if_neg h

theorem rightLevel_of_ne {op : Operator} (h : op ≠ .pow) : op.rightLevel = op.level + 1 := if_neg h

end Operator

namespace Expr

/-! ## The tokens of a tree -/

mutual

/-- The kinds of the tokens that a tree is written with. -/
def kinds : Expr → List TokenKind
  | literal value => [.number value]
  | reference name => [.name name]
  | negation operand => .symbol .minus :: operand.kinds
  | binary op left right => left.kinds ++ .symbol op.symbol :: right.kinds
  | grouping inner => .symbol .leftParen :: (inner.kinds ++ [.symbol .rightParen])
  | call name args =>
    .name name :: .symbol .leftParen :: (listKinds args ++ [.symbol .rightParen])

/-- The kinds of the tokens of some arguments and of the commas between them. -/
def listKinds : List Expr → List TokenKind
  | [] => []
  | [e] => e.kinds
  | e :: f :: es => e.kinds ++ .symbol .comma :: listKinds (f :: es)

end

/-- The kinds of the tokens of arguments that more arguments follow. -/
def openKinds (args : List Expr) : List TokenKind :=
  args.flatMap fun arg => arg.kinds ++ [.symbol .comma]

theorem listKinds_concat (args : List Expr) (e : Expr) :
    listKinds (args ++ [e]) = openKinds args ++ e.kinds := by
  induction args with
  | nil => simp [listKinds, openKinds]
  | cons a as ih =>
    cases as with
    | nil => simp [listKinds, openKinds]
    | cons b bs =>
      have hb : listKinds (b :: bs ++ [e]) = openKinds (b :: bs) ++ e.kinds := ih
      show a.kinds ++ .symbol .comma :: listKinds (b :: bs ++ [e]) = _
      rw [hb]
      simp [openKinds]

/-! ## Levels -/

/-- How tightly the root of a tree binds. -/
def level : Expr → Nat
  | binary op _ _ => op.level
  | negation _ => Operator.pow.level
  | _ => Operator.pow.level + 1

mutual

/-- Every operand binds at least as tightly as its place asks. -/
def Leveled : Expr → Prop
  | literal _ => True
  | reference _ => True
  | negation operand => Operator.pow.level ≤ operand.level ∧ operand.Leveled
  | binary op left right =>
    op.leftLevel ≤ left.level ∧ op.rightLevel ≤ right.level ∧ left.Leveled ∧ right.Leveled
  | grouping inner => inner.Leveled
  | call _ args => ListLeveled args

def ListLeveled : List Expr → Prop
  | [] => True
  | e :: es => e.Leveled ∧ ListLeveled es

end

mutual

def decideLeveled : (e : Expr) → Decidable e.Leveled
  | literal _ => isTrue trivial
  | reference _ => isTrue trivial
  | negation operand =>
    have := decideLeveled operand
    inferInstanceAs (Decidable (_ ∧ _))
  | binary _ left right =>
    have := decideLeveled left
    have := decideLeveled right
    inferInstanceAs (Decidable (_ ∧ _ ∧ _ ∧ _))
  | grouping inner => decideLeveled inner
  | call _ args => decideListLeveled args

def decideListLeveled : (es : List Expr) → Decidable (ListLeveled es)
  | [] => isTrue trivial
  | e :: es =>
    have := decideLeveled e
    have := decideListLeveled es
    inferInstanceAs (Decidable (_ ∧ _))

end

instance (e : Expr) : Decidable e.Leveled := decideLeveled e

theorem listLeveled_iff {es : List Expr} : ListLeveled es ↔ ∀ e ∈ es, e.Leveled := by
  induction es with
  | nil => simp [ListLeveled]
  | cons e es ih => simp [ListLeveled, ih]

/-! ## Nesting -/

mutual

/-- How deep groupings, calls, negations and right operands of `^` are nested. -/
def nesting : Expr → Nat
  | literal _ => 0
  | reference _ => 0
  | negation operand => operand.nesting + 1
  | binary op left right =>
    max left.nesting (if op = .pow then right.nesting + 1 else right.nesting)
  | grouping inner => inner.nesting + 1
  | call _ args => listNesting args + 1

def listNesting : List Expr → Nat
  | [] => 0
  | e :: es => max e.nesting (listNesting es)

end

theorem listNesting_le_iff {es : List Expr} {n : Nat} :
    listNesting es ≤ n ↔ ∀ e ∈ es, e.nesting ≤ n := by
  induction es with
  | nil => simp [listNesting]
  | cons e es ih => rw [listNesting, Nat.max_le, ih, List.forall_mem_cons]

end Expr

end Reckon
