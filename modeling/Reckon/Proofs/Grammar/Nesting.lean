import Reckon.Proofs.Grammar.Recognition

/-!
# Trees that are nested too deep

* `Refused e`: wherever `e` may stand without enough room for its nesting, the reader stops with
  `ParseError.nestingTooDeep` when it gets there. What stands before the place where the room ends
  is read as usual. One lemma for each kind of tree, and `refused`: it holds of every tree that
  respects the levels.
* `parse_eq_nestingTooDeep`: so the tokens of a tree that is nested deeper than `maxNesting` are
  not parsed.
-/

namespace Reckon

/-- Wherever the tree may stand without enough room for it, its tokens are refused for it. -/
def Refused (e : Expr) : Prop :=
  ∀ (stop : Nat) (s : Stack) (ts rest : List Token), ts.map Token.kind = e.kinds →
    Admits s.waiting e.level → s.depth ≤ maxNesting → maxNesting < s.depth + e.nesting →
    Follows e.level rest → (operand stop s (ts ++ rest)).result = .error .nestingTooDeep

namespace Refused

/-- The awaited operand of an operator that waits. -/
theorem push {w : Waiting} {e : Expr} (he : Refused e) (hlevel : w.operandLevel ≤ e.level)
    {stop : Nat} {s : Stack} {ts rest : List Token} (hts : ts.map Token.kind = e.kinds)
    (hdepth : s.depth + w.cost ≤ maxNesting) (hroom : maxNesting < s.depth + w.cost + e.nesting)
    (hrest : Follows w.level rest) :
    (operand stop (s.push w) (ts ++ rest)).result = .error .nestingTooDeep := by
  have hadmits : Admits (s.push w).waiting e.level := fun w' hw' => Option.some.inj hw' ▸ hlevel
  have hmono : w.level ≤ e.level := Nat.le_trans w.level_le_operandLevel hlevel
  exact he stop (s.push w) ts rest hts hadmits hdepth hroom (hrest.mono hmono)

theorem negation {e : Expr} (he : Refused e) (hlevel : Operator.pow.level ≤ e.level) :
    Refused (.negation e) := by
  intro stop s ts rest hts _ hdepth hroom hrest
  obtain ⟨t, ts, rfl, ht, hts⟩ := List.map_eq_cons_iff.1 hts
  simp only [Expr.nesting] at hroom
  rw [List.cons_append, operand.eq_def]
  simp only [ht]
  split
  · rfl
  · refine he.push (w := .negation) hlevel hts ?_ ?_ hrest
    · simp only [Waiting.cost]
      omega
    · simp only [Waiting.cost]
      omega

theorem power {b e : Expr} (hb : Refused b) (hread : Recognized b) (he : Refused e)
    (hprimary : Operator.pow.level < b.level) (hlevel : Operator.pow.level ≤ e.level) :
    Refused (.binary .pow b e) := by
  intro stop s ts rest hts hadmits hdepth hroom hrest
  obtain ⟨tb, ts, rfl, htb, hts⟩ := List.map_eq_append_iff.1 hts
  obtain ⟨t, te, rfl, ht, hte⟩ := List.map_eq_cons_iff.1 hts
  simp only [Expr.nesting, if_true] at hroom
  have hadmits' : Admits s.waiting b.level := hadmits.mono (Nat.le_of_lt hprimary)
  have hcaret : Follows b.level (t :: (te ++ rest)) := follows_operator hprimary ht _
  rw [List.append_assoc, List.cons_append]
  by_cases hbase : s.depth + b.nesting ≤ maxNesting
  · rw [hread stop s tb _ htb hadmits' hbase hcaret, follow_caret ht]
    split
    · rfl
    · refine he.push (w := .power b) hlevel hte ?_ ?_ hrest
      · simp only [Waiting.cost]
        omega
      · simp only [Waiting.cost]
        omega
  · exact hb stop s tb _ htb hadmits' hdepth (Nat.lt_of_not_le hbase) hcaret

theorem chain {op : Operator} (hop : op ≠ .pow) {l r : Expr} (hl : Refused l)
    (hread : Recognized l) (hr : Refused r) (hleft : op.level ≤ l.level)
    (hright : op.level < r.level) : Refused (.binary op l r) := by
  intro stop s ts rest hts hadmits hdepth hroom hrest
  obtain ⟨tl, ts, rfl, htl, hts⟩ := List.map_eq_append_iff.1 hts
  obtain ⟨t, tr, rfl, ht, htr⟩ := List.map_eq_cons_iff.1 hts
  simp only [Expr.nesting, if_neg hop] at hroom
  have hadmits' : Admits s.waiting l.level := hadmits.mono hleft
  have hfollows : Follows l.level (t :: (tr ++ rest)) :=
    follows_operator (Operator.leftLevel_of_ne hop ▸ hleft) ht _
  rw [List.append_assoc, List.cons_append]
  by_cases hfirst : s.depth + l.nesting ≤ maxNesting
  · rw [hread stop s tl _ htl hadmits' hfirst hfollows,
      follow_operator ht (Symbol.chained?_symbol hop),
      Stack.collapse_of_admits (Operator.level_lt hop) hadmits]
    refine hr.push (w := .chain op l) hright htr hdepth ?_ hrest
    simp only [Waiting.cost]
    omega
  · exact hl stop s tl _ htl hadmits' hdepth (Nat.lt_of_not_le hfirst) hfollows

theorem grouping {e : Expr} (he : Refused e) : Refused (.grouping e) := by
  intro stop s ts rest hts _ hdepth hroom _
  obtain ⟨t, inner, rfl, ht, hinner⟩ := List.map_eq_cons_iff.1 hts
  obtain ⟨ts, tc, rfl, hwithin, htc⟩ := List.map_eq_append_iff.1 hinner
  obtain ⟨c, tc, rfl, hc, hnil⟩ := List.map_eq_cons_iff.1 htc
  obtain rfl := List.map_eq_nil_iff.1 hnil
  simp only [Expr.nesting] at hroom
  simp only [List.cons_append, List.append_assoc, List.nil_append]
  rw [operand.eq_def]
  simp only [ht]
  split
  · rfl
  · refine he stop _ ts _ hwithin (admits_enter _ _ _) ?_ ?_ (follows_close (.inl hc) rest)
    · simp only [Stack.enter]
      omega
    · simp only [Stack.enter]
      omega

/-- The arguments of a call from `e` on, one of which is nested too deep. -/
theorem arguments {stop : Nat} {s : Stack} {name : String} {es : List Expr} {e : Expr}
    (before : List Expr) {ts rest : List Token} {c : Token}
    (hall : ∀ arg ∈ e :: es, Refused arg ∧ Recognized arg)
    (hts : ts.map Token.kind = Expr.listKinds (e :: es)) (hc : c.kind = .symbol .rightParen)
    (hdepth : s.depth + 1 ≤ maxNesting)
    (hroom : maxNesting < s.depth + 1 + Expr.listNesting (e :: es)) :
    (operand stop (s.enter (.call name before)) (ts ++ c :: rest)).result =
      .error .nestingTooDeep := by
  obtain ⟨he, hread⟩ := hall e List.mem_cons_self
  induction es generalizing e before ts with
  | nil =>
    have hroom' : maxNesting < s.depth + 1 + e.nesting := by
      simpa only [Expr.listNesting, Nat.max_zero] using hroom
    exact he stop _ ts _ hts (admits_enter _ _ _) hdepth hroom' (follows_close (.inl hc) rest)
  | cons f fs ih =>
    obtain ⟨te, ts, rfl, hte, hts⟩ := List.map_eq_append_iff.1 hts
    obtain ⟨t, ts, rfl, ht, hts⟩ := List.map_eq_cons_iff.1 hts
    rw [List.append_assoc, List.cons_append]
    by_cases hfirst : s.depth + 1 + e.nesting ≤ maxNesting
    · have hcomma : follow stop (s.enter (.call name before)) e (t :: (ts ++ c :: rest)) =
          operand stop (s.enter (.call name (e :: before))) (ts ++ c :: rest) :=
        follow_comma ht rfl
      have hall' : ∀ arg ∈ f :: fs, Refused arg ∧ Recognized arg :=
        fun arg harg => hall arg (List.mem_cons_of_mem _ harg)
      obtain ⟨hf, hreadf⟩ := hall' f List.mem_cons_self
      rw [Expr.listNesting] at hroom
      rw [hread stop _ te _ hte (admits_enter _ _ _) hfirst (follows_close (.inr ht) _), hcomma]
      exact ih (e :: before) hall' hts (by omega) hf hreadf
    · exact he stop _ te _ hte (admits_enter _ _ _) hdepth (Nat.lt_of_not_le hfirst)
        (follows_close (.inr ht) _)

theorem call {name : String} {args : List Expr}
    (hargs : ∀ arg ∈ args, Refused arg ∧ Recognized arg) : Refused (.call name args) := by
  intro stop s ts rest hts _ hdepth hroom _
  obtain ⟨n, ts, rfl, hn, hcall⟩ := List.map_eq_cons_iff.1 hts
  obtain ⟨t, ts, rfl, ht, hcall⟩ := List.map_eq_cons_iff.1 hcall
  obtain ⟨ts, tc, rfl, hwithin, htc⟩ := List.map_eq_append_iff.1 hcall
  obtain ⟨c, tc, rfl, hc, hnil⟩ := List.map_eq_cons_iff.1 htc
  obtain rfl := List.map_eq_nil_iff.1 hnil
  simp only [Expr.nesting] at hroom
  have hname : operand stop s (n :: t :: (ts ++ c :: rest)) =
      follow stop s (.reference name) (t :: (ts ++ c :: rest)) := by
    rw [operand.eq_def]
    simp only [hn]
  simp only [List.cons_append, List.append_assoc, List.nil_append]
  rw [hname, follow_call ht]
  split
  · rfl
  · next hopen =>
    cases args with
    | nil =>
      simp only [Expr.listNesting] at hroom
      omega
    | cons e es => exact arguments [] hargs hwithin hc (by omega) (by omega)

end Refused

/-- Every tree that respects the levels is refused where there is no room for it. -/
theorem refused {e : Expr} (h : e.Leveled) : Refused e := by
  induction e with
  | literal value =>
    intro stop s ts rest _ _ hdepth hroom _
    exact absurd hroom (Nat.not_lt.2 hdepth)
  | reference name =>
    intro stop s ts rest _ _ hdepth hroom _
    exact absurd hroom (Nat.not_lt.2 hdepth)
  | negation e ih => exact (ih h.2).negation h.1
  | binary op l r ihl ihr =>
    obtain ⟨hleft, hright, hl, hr⟩ := h
    by_cases hop : op = .pow
    · subst hop
      exact (ihl hl).power (recognized hl) (ihr hr) hleft hright
    · rw [Operator.leftLevel_of_ne hop] at hleft
      rw [Operator.rightLevel_of_ne hop] at hright
      exact .chain hop (ihl hl) (recognized hl) (ihr hr) hleft hright
  | grouping e ih => exact (ih h).grouping
  | call name args ih =>
    have hargs := Expr.listLeveled_iff.1 h
    exact .call fun arg harg => ⟨ih arg harg (hargs arg harg), recognized (hargs arg harg)⟩

/-- The tokens of a tree that is nested deeper than `maxNesting` are not parsed. -/
theorem parse_eq_nestingTooDeep {ts : List Token} {last : Token}
    (hts : ∀ t ∈ ts, t.isStop = false) (hlast : last.isStop = true) {e : Expr}
    (hkinds : ts.map Token.kind = e.kinds) (hleveled : e.Leveled)
    (hnesting : maxNesting < e.nesting) : parse (ts ++ [last]) = .error .nestingTooDeep := by
  have hrest := ofTokens_rest hts hlast
  have hadmits : Admits (⟨[], [], 0⟩ : Stack).waiting e.level := fun _ hw => absurd hw (by simp)
  have hread := refused hleveled (Parser.ofTokens (ts ++ [last])).stop ⟨[], [], 0⟩ ts [] hkinds
    hadmits (Nat.zero_le _) (by simpa using hnesting) (follows_nil _)
  rw [List.append_nil] at hread
  have hexpression : (Parser.ofTokens (ts ++ [last])).expression.1 = .error .nestingTooDeep := by
    rw [Parser.expression, hrest]
    exact hread
  rw [parse, Parser.parse]
  rcases hresult : (Parser.ofTokens (ts ++ [last])).expression with ⟨result, q⟩
  rw [hresult] at hexpression
  obtain rfl : result = .error .nestingTooDeep := hexpression
  rfl

end Reckon
