import Reckon.Proofs.Grammar.Reader

/-!
# The reader reads every tree of the grammar

* `Follows level ts`: `ts` begins with a token that may follow an operand of the level.
* `follow_push`: before such a token, an operator that waits takes its operand.
* `Recognized e`: wherever `e` may stand, its tokens are read as `e`. One lemma for each kind of
  tree, and `recognized`: it holds of every tree that respects the levels.
* `parse_eq_ok_iff`: tokens are parsed to a tree exactly when they are those of the tree, the tree
  respects the levels, and it is nested no deeper than `maxNesting`.
-/

namespace Reckon

/-! ## Operators that wait -/

/-- Lets an operator wait, and nests its operand as much as it asks. -/
def Stack.push (s : Stack) (w : Waiting) : Stack :=
  ⟨w :: s.waiting, s.frames, s.depth + w.cost⟩

theorem Stack.collapse_push {level : Nat} {w : Waiting} (hlevel : level ≤ w.level) (s : Stack)
    (e : Expr) : (s.push w).collapse level e = s.collapse level (w.finish e) := by
  simp only [push, collapse, collapseFrom_of_le hlevel, Nat.add_sub_cancel]

/-- Nothing is finished that awaits an operand of the level. -/
theorem Stack.collapse_of_admits {level : Nat} (hpow : level < Operator.pow.level) {s : Stack}
    (hadmits : Admits s.waiting level) (e : Expr) : s.collapse level e = (s, e) := by
  obtain ⟨ws, fs, d⟩ := s
  cases ws with
  | nil => rfl
  | cons w ws =>
    have hlt : w.level < level := by
      have hoperand := hadmits w rfl
      cases w with
      | negation => exact absurd hoperand (Nat.not_le_of_lt hpow)
      | power base => exact absurd hoperand (Nat.not_le_of_lt hpow)
      | chain op left => exact hoperand
    simp only [collapse, collapseFrom_of_lt (Nat.le_of_lt hpow) hlt]

theorem Admits.mono {ws : List Waiting} {m n : Nat} (h : Admits ws m) (hmn : m ≤ n) :
    Admits ws n := fun w hw => Nat.le_trans (h w hw) hmn

/-- `ts` is empty or begins with a token that may follow an operand of the level. -/
def Follows (level : Nat) (ts : List Token) : Prop :=
  ∀ t ∈ ts.head?, t.kind = .symbol .rightParen ∨ t.kind = .symbol .comma ∨
    ∃ op : Operator, t.kind = .symbol op.symbol ∧ op.leftLevel ≤ level

theorem Follows.mono {m n : Nat} {ts : List Token} (h : Follows m ts) (hmn : m ≤ n) :
    Follows n ts := by
  intro t ht
  rcases h t ht with hclose | hcomma | ⟨op, hop, hlevel⟩
  · exact .inl hclose
  · exact .inr (.inl hcomma)
  · exact .inr (.inr ⟨op, hop, Nat.le_trans hlevel hmn⟩)

theorem follows_nil (level : Nat) : Follows level [] := fun _ ht => absurd ht (by simp)

theorem follows_operator {op : Operator} {level : Nat} (hlevel : op.leftLevel ≤ level) {t : Token}
    (ht : t.kind = .symbol op.symbol) (ts : List Token) : Follows level (t :: ts) := by
  intro t' ht'
  obtain rfl := Option.some.inj ht'
  exact .inr (.inr ⟨op, ht, hlevel⟩)

theorem follows_close {level : Nat} {t : Token}
    (ht : t.kind = .symbol .rightParen ∨ t.kind = .symbol .comma) (ts : List Token) :
    Follows level (t :: ts) := by
  intro t' ht'
  obtain rfl := Option.some.inj ht'
  rcases ht with hclose | hcomma
  · exact .inl hclose
  · exact .inr (.inl hcomma)

/-- Before a token that may follow the operation, an operator that waits takes its operand. -/
theorem follow_push {stop : Nat} {w : Waiting} {ts : List Token} (h : Follows w.level ts)
    (s : Stack) (e : Expr) : follow stop (s.push w) e ts = follow stop s (w.finish e) ts := by
  cases ts with
  | nil => rw [follow_nil, follow_nil, Stack.collapse_push (Nat.zero_le _)]
  | cons t ts =>
    have hcollapse := Stack.collapse_push (Nat.zero_le w.level) s e
    rcases h t rfl with hclose | hcomma | ⟨op, hop, hlevel⟩
    · rw [follow.eq_def, follow.eq_def]
      simp only [hclose, Symbol.chained?, hcollapse]
    · rw [follow.eq_def, follow.eq_def]
      simp only [hcomma, Symbol.chained?, hcollapse]
    · have hw : w.level ≤ Operator.pow.level := by
        cases w with
        | negation => exact Nat.le_refl _
        | power base => exact Nat.le_refl _
        | chain op left => exact op.level_le
      have hne : op ≠ .pow := by
        rintro rfl
        exact absurd (Nat.le_trans hlevel hw) (by decide)
      rw [Operator.leftLevel_of_ne hne] at hlevel
      have hchained := Symbol.chained?_symbol hne
      rw [follow_operator hop hchained, follow_operator hop hchained,
        Stack.collapse_push hlevel]

theorem follow_enter {stop : Nat} {c : Token} (hc : c.kind = .symbol .rightParen) (s : Stack)
    (b : Bracket) (e : Expr) (ts : List Token) :
    follow stop (s.enter b) e (c :: ts) = follow stop s (b.close e) ts := by
  have hcollapse : (s.enter b).collapse 0 e =
      (⟨[], ⟨b, s.waiting⟩ :: s.frames, s.depth + 1⟩, e) := rfl
  rw [follow_rightParen hc hcollapse]
  rfl

theorem admits_enter (s : Stack) (b : Bracket) (level : Nat) : Admits (s.enter b).waiting level :=
  fun _ hw => absurd hw (by simp [Stack.enter])

/-! ## Trees that are read -/

/-- Wherever the tree may stand, its tokens are read as this tree. -/
def Recognized (e : Expr) : Prop :=
  ∀ (stop : Nat) (s : Stack) (ts rest : List Token), ts.map Token.kind = e.kinds →
    Admits s.waiting e.level → s.depth + e.nesting ≤ maxNesting → Follows e.level rest →
    operand stop s (ts ++ rest) = follow stop s e rest

namespace Recognized

theorem literal (value : Decimal) : Recognized (.literal value) := by
  intro stop s ts rest hts _ _ _
  obtain ⟨t, ts', rfl, ht, hts'⟩ := List.map_eq_cons_iff.1 hts
  obtain rfl := List.map_eq_nil_iff.1 hts'
  rw [List.cons_append, List.nil_append, operand.eq_def]
  simp only [ht]

theorem reference (name : String) : Recognized (.reference name) := by
  intro stop s ts rest hts _ _ _
  obtain ⟨t, ts', rfl, ht, hts'⟩ := List.map_eq_cons_iff.1 hts
  obtain rfl := List.map_eq_nil_iff.1 hts'
  rw [List.cons_append, List.nil_append, operand.eq_def]
  simp only [ht]

/-- The awaited operand of an operator that waits. -/
theorem push {w : Waiting} {e : Expr} (he : Recognized e) (hlevel : w.operandLevel ≤ e.level)
    {stop : Nat} {s : Stack} {ts rest : List Token} (hts : ts.map Token.kind = e.kinds)
    (hroom : s.depth + w.cost + e.nesting ≤ maxNesting) (hrest : Follows w.level rest) :
    operand stop (s.push w) (ts ++ rest) = follow stop s (w.finish e) rest := by
  have hadmits : Admits (s.push w).waiting e.level := fun w' hw' => Option.some.inj hw' ▸ hlevel
  have hmono : w.level ≤ e.level := Nat.le_trans w.level_le_operandLevel hlevel
  rw [he stop (s.push w) ts rest hts hadmits hroom (hrest.mono hmono)]
  exact follow_push hrest s e

theorem negation {e : Expr} (he : Recognized e) (hlevel : Operator.pow.level ≤ e.level) :
    Recognized (.negation e) := by
  intro stop s ts rest hts _ hroom hrest
  obtain ⟨t, ts, rfl, ht, hts⟩ := List.map_eq_cons_iff.1 hts
  simp only [Expr.nesting] at hroom
  have hopen : operand stop s (t :: (ts ++ rest)) =
      operand stop (s.push .negation) (ts ++ rest) := by
    rw [operand.eq_def]
    simp only [ht, if_neg (show ¬ maxNesting ≤ s.depth by omega)]
    rfl
  rw [List.cons_append, hopen]
  refine he.push (w := .negation) hlevel hts ?_ hrest
  simp only [Waiting.cost]
  omega

theorem power {b e : Expr} (hb : Recognized b) (he : Recognized e)
    (hprimary : Operator.pow.level < b.level) (hlevel : Operator.pow.level ≤ e.level) :
    Recognized (.binary .pow b e) := by
  intro stop s ts rest hts hadmits hroom hrest
  obtain ⟨tb, ts, rfl, htb, hts⟩ := List.map_eq_append_iff.1 hts
  obtain ⟨t, te, rfl, ht, hte⟩ := List.map_eq_cons_iff.1 hts
  simp only [Expr.nesting, if_true] at hroom
  have hopen : follow stop s b (t :: (te ++ rest)) =
      operand stop (s.push (.power b)) (te ++ rest) := by
    rw [follow_caret ht, if_neg (by omega)]
    rfl
  have hcaret : Follows b.level (t :: (te ++ rest)) := follows_operator hprimary ht _
  rw [List.append_assoc, List.cons_append,
    hb stop s tb _ htb (hadmits.mono (Nat.le_of_lt hprimary)) (by omega) hcaret, hopen]
  refine he.push (w := .power b) hlevel hte ?_ hrest
  simp only [Waiting.cost]
  omega

theorem chain {op : Operator} (hop : op ≠ .pow) {l r : Expr} (hl : Recognized l)
    (hr : Recognized r) (hleft : op.level ≤ l.level) (hright : op.level < r.level) :
    Recognized (.binary op l r) := by
  intro stop s ts rest hts hadmits hroom hrest
  obtain ⟨tl, ts, rfl, htl, hts⟩ := List.map_eq_append_iff.1 hts
  obtain ⟨t, tr, rfl, ht, htr⟩ := List.map_eq_cons_iff.1 hts
  simp only [Expr.nesting, if_neg hop] at hroom
  have hopen : follow stop s l (t :: (tr ++ rest)) =
      operand stop (s.push (.chain op l)) (tr ++ rest) := by
    rw [follow_operator ht (Symbol.chained?_symbol hop),
      Stack.collapse_of_admits (Operator.level_lt hop) hadmits]
    rfl
  have hfollows : Follows l.level (t :: (tr ++ rest)) :=
    follows_operator (Operator.leftLevel_of_ne hop ▸ hleft) ht _
  rw [List.append_assoc, List.cons_append,
    hl stop s tl _ htl (hadmits.mono hleft) (by omega) hfollows, hopen]
  refine hr.push (w := .chain op l) hright htr ?_ hrest
  simp only [Waiting.cost]
  omega

theorem grouping {e : Expr} (he : Recognized e) : Recognized (.grouping e) := by
  intro stop s ts rest hts _ hroom _
  obtain ⟨t, inner, rfl, ht, hinner⟩ := List.map_eq_cons_iff.1 hts
  obtain ⟨ts, tc, rfl, hwithin, htc⟩ := List.map_eq_append_iff.1 hinner
  obtain ⟨c, tc, rfl, hc, hnil⟩ := List.map_eq_cons_iff.1 htc
  obtain rfl := List.map_eq_nil_iff.1 hnil
  simp only [Expr.nesting] at hroom
  have hopen : operand stop s (t :: (ts ++ c :: rest)) =
      operand stop (s.enter .grouping) (ts ++ c :: rest) := by
    rw [operand.eq_def]
    simp only [ht, if_neg (show ¬ maxNesting ≤ s.depth by omega)]
  have hroom' : (s.enter .grouping).depth + e.nesting ≤ maxNesting := by
    simp only [Stack.enter]
    omega
  simp only [List.cons_append, List.append_assoc, List.nil_append]
  rw [hopen, he stop _ ts _ hwithin (admits_enter _ _ _) hroom' (follows_close (.inl hc) rest)]
  exact follow_enter hc s .grouping e rest

/-- The arguments of a call from `e` on, after the arguments `before`, last one first. -/
theorem arguments {stop : Nat} {s : Stack} {name : String} {es : List Expr} {e : Expr}
    (before : List Expr) {ts rest : List Token} {c : Token}
    (hall : ∀ arg ∈ e :: es, Recognized arg ∧ s.depth + 1 + arg.nesting ≤ maxNesting)
    (hts : ts.map Token.kind = Expr.listKinds (e :: es)) (hc : c.kind = .symbol .rightParen) :
    operand stop (s.enter (.call name before)) (ts ++ c :: rest) =
      follow stop s (.call name (before.reverse ++ e :: es)) rest := by
  obtain ⟨he, hroom⟩ := hall e List.mem_cons_self
  induction es generalizing e before ts with
  | nil =>
    rw [he stop _ ts _ hts (admits_enter _ _ _) hroom (follows_close (.inl hc) rest)]
    exact follow_enter hc s (.call name before) e rest
  | cons f fs ih =>
    obtain ⟨te, ts, rfl, hte, hts⟩ := List.map_eq_append_iff.1 hts
    obtain ⟨t, ts, rfl, ht, hts⟩ := List.map_eq_cons_iff.1 hts
    have hcomma : follow stop (s.enter (.call name before)) e (t :: (ts ++ c :: rest)) =
        operand stop (s.enter (.call name (e :: before))) (ts ++ c :: rest) :=
      follow_comma ht rfl
    have hall' : ∀ arg ∈ f :: fs, Recognized arg ∧ s.depth + 1 + arg.nesting ≤ maxNesting :=
      fun arg harg => hall arg (List.mem_cons_of_mem _ harg)
    obtain ⟨hf, hroomf⟩ := hall' f List.mem_cons_self
    rw [List.append_assoc, List.cons_append,
      he stop _ te _ hte (admits_enter _ _ _) hroom (follows_close (.inr ht) _), hcomma,
      ih (e :: before) hall' hts hf hroomf]
    simp

theorem call {name : String} {args : List Expr} (hargs : ∀ arg ∈ args, Recognized arg) :
    Recognized (.call name args) := by
  intro stop s ts rest hts _ hroom _
  obtain ⟨n, ts, rfl, hn, hcall⟩ := List.map_eq_cons_iff.1 hts
  obtain ⟨t, ts, rfl, ht, hcall⟩ := List.map_eq_cons_iff.1 hcall
  obtain ⟨ts, tc, rfl, hwithin, htc⟩ := List.map_eq_append_iff.1 hcall
  obtain ⟨c, tc, rfl, hc, hnil⟩ := List.map_eq_cons_iff.1 htc
  obtain rfl := List.map_eq_nil_iff.1 hnil
  simp only [Expr.nesting] at hroom
  have hname : operand stop s (n :: t :: (ts ++ c :: rest)) =
      follow stop s (.reference name) (t :: (ts ++ c :: rest)) := by
    rw [operand.eq_def]
    simp only [hn]
  have hopen : follow stop s (.reference name) (t :: (ts ++ c :: rest)) =
      operand stop (s.enter (.call name [])) (ts ++ c :: rest) := by
    rw [follow_call ht, if_neg (by omega)]
  simp only [List.cons_append, List.append_assoc, List.nil_append]
  rw [hname, hopen]
  cases args with
  | nil =>
    obtain rfl := List.map_eq_nil_iff.1 hwithin
    rw [List.nil_append, operand.eq_def]
    simp only [hc, Stack.enter]
    rfl
  | cons e es =>
    refine arguments [] (fun arg harg => ⟨hargs arg harg, ?_⟩) hwithin hc
    have hnesting := Expr.listNesting_le_iff.1 (Nat.le_refl _) arg harg
    omega

end Recognized

/-- Every tree that respects the levels is read. -/
theorem recognized {e : Expr} (h : e.Leveled) : Recognized e := by
  induction e with
  | literal value => exact .literal value
  | reference name => exact .reference name
  | negation e ih => exact (ih h.2).negation h.1
  | binary op l r ihl ihr =>
    obtain ⟨hleft, hright, hl, hr⟩ := h
    by_cases hop : op = .pow
    · subst hop
      exact (ihl hl).power (ihr hr) hleft hright
    · rw [Operator.leftLevel_of_ne hop] at hleft
      rw [Operator.rightLevel_of_ne hop] at hright
      exact .chain hop (ihl hl) (ihr hr) hleft hright
  | grouping e ih => exact (ih h).grouping
  | call name args ih =>
    exact .call fun arg harg => ih arg harg (Expr.listLeveled_iff.1 h arg harg)

/-! ## Parsing -/

/-- The tokens of a tree that is nested no deeper than allowed are read as this tree, and all of
them. -/
theorem expression_complete {p : Parser} {e : Expr} (hkinds : p.rest.map Token.kind = e.kinds)
    (hleveled : e.Leveled) (hroom : p.depth + e.nesting ≤ maxNesting) :
    p.expression = (.ok e, ⟨[], p.stop, p.depth⟩) := by
  have hadmits : Admits (⟨[], [], p.depth⟩ : Stack).waiting e.level :=
    fun _ hw => absurd hw (by simp)
  have hread := recognized hleveled p.stop ⟨[], [], p.depth⟩ p.rest [] hkinds hadmits hroom
    (follows_nil _)
  rw [List.append_nil, follow_nil] at hread
  rw [Parser.expression, hread]
  rfl

theorem parse_result_iff {p : Parser} {e : Expr} :
    p.parse.1 = .ok e ↔ p.expression.1 = .ok e ∧ p.expression.2.rest = [] := by
  unfold Parser.parse
  rcases p.expression with ⟨result, q⟩
  cases result with
  | error err => simp
  | ok e' => by_cases hrest : q.rest = [] <;> simp [hrest]

/-- What is no end is kept in front of what the parser reads. -/
theorem ofTokens_rest_append {ts : List Token} (hts : ∀ t ∈ ts, t.isStop = false)
    (others : List Token) :
    (Parser.ofTokens (ts ++ others)).rest = ts ++ (Parser.ofTokens others).rest := by
  have hall : ∀ t ∈ ts, (!t.isStop) = true := fun t ht => by simp [hts t ht]
  rw [Parser.ofTokens, List.takeWhile_append_of_pos hall]
  rfl

/-- The parser reads the tokens before the end. -/
theorem ofTokens_rest {ts : List Token} {last : Token} (hts : ∀ t ∈ ts, t.isStop = false)
    (hlast : last.isStop = true) : (Parser.ofTokens (ts ++ [last])).rest = ts := by
  rw [ofTokens_rest_append hts]
  simp [Parser.ofTokens, hlast]

/-- The position of the end is that of the first end there is. -/
theorem Parser.stopPosition_append {ts : List Token} {last : Token}
    (hts : ∀ t ∈ ts, t.isStop = false) (hlast : last.isStop = true) (after : List Token) :
    stopPosition (ts ++ last :: after) = last.position := by
  induction ts with
  | nil => simp [stopPosition, hlast]
  | cons t ts ih =>
    obtain ⟨ht, hts⟩ := List.forall_mem_cons.1 hts
    simp [stopPosition, ht, ih hts]

section Parse

variable {ts : List Token} {last : Token}

theorem kinds_of_parse (hts : ∀ t ∈ ts, t.isStop = false) (hlast : last.isStop = true) {e : Expr}
    (h : parse (ts ++ [last]) = .ok e) :
    e.kinds = ts.map Token.kind ∧ e.Leveled ∧ e.nesting ≤ maxNesting := by
  obtain ⟨hresult, hnil⟩ := parse_result_iff.1 h
  obtain ⟨-, hread, read, hsplit, hkinds⟩ := expression_sound (Prod.ext hresult rfl)
  rw [hnil, List.append_nil, ofTokens_rest hts hlast] at hsplit
  subst hsplit
  exact ⟨hkinds, hread.leveled, by simpa [Parser.ofTokens] using hread.room⟩

theorem parse_of_kinds (hts : ∀ t ∈ ts, t.isStop = false) (hlast : last.isStop = true) {e : Expr}
    (hkinds : e.kinds = ts.map Token.kind) (hleveled : e.Leveled)
    (hnesting : e.nesting ≤ maxNesting) : parse (ts ++ [last]) = .ok e := by
  rw [← ofTokens_rest hts hlast] at hkinds
  have hroom : (Parser.ofTokens (ts ++ [last])).depth + e.nesting ≤ maxNesting := by
    simpa [Parser.ofTokens] using hnesting
  rw [parse, parse_result_iff, expression_complete hkinds.symm hleveled hroom]
  exact ⟨rfl, rfl⟩

end Parse

/-- Tokens are parsed to a tree exactly when they are those of the tree, its operands bind as
tightly as their places ask, and it is nested no deeper than `maxNesting`. -/
theorem parse_eq_ok_iff {ts : List Token} {last : Token} (hts : ∀ t ∈ ts, t.isStop = false)
    (hlast : last.isStop = true) (e : Expr) :
    parse (ts ++ [last]) = .ok e ↔
      e.kinds = ts.map Token.kind ∧ e.Leveled ∧ e.nesting ≤ maxNesting := by
  constructor
  · exact kinds_of_parse hts hlast
  · rintro ⟨hkinds, hleveled, hnesting⟩
    exact parse_of_kinds hts hlast hkinds hleveled hnesting

/-- The tokens of `a - b ^ -c ^ f(d, 2)`. -/
theorem parse_difference_of_power :
    parse [⟨.name "a", "a", 0⟩, ⟨.symbol .minus, "-", 2⟩, ⟨.name "b", "b", 4⟩,
        ⟨.symbol .caret, "^", 6⟩, ⟨.symbol .minus, "-", 8⟩, ⟨.name "c", "c", 9⟩,
        ⟨.symbol .caret, "^", 11⟩, ⟨.name "f", "f", 13⟩, ⟨.symbol .leftParen, "(", 14⟩,
        ⟨.name "d", "d", 15⟩, ⟨.symbol .comma, ",", 16⟩, ⟨.number ⟨2, 0⟩, "2", 18⟩,
        ⟨.symbol .rightParen, ")", 19⟩, Token.stopAt 20] =
      .ok (.binary (.arithmetic .sub) (.reference "a")
        (.binary .pow (.reference "b")
          (.negation (.binary .pow (.reference "c")
            (.call "f" [.reference "d", .literal ⟨2, 0⟩]))))) :=
  (@parse_eq_ok_iff [_, _, _, _, _, _, _, _, _, _, _, _, _] _ (by decide) rfl _).2
    ⟨rfl, by decide, by decide⟩

end Reckon
