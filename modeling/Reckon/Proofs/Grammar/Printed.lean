import Reckon.Expr.Printed
import Reckon.Proofs.Expr.Equality
import Reckon.Proofs.Grammar.Nesting
import Reckon.Proofs.Scanning.Tokens
import Reckon.Session

/-!
# Printed trees

* `Expr.bracketed`: the tree that is written as the printed tree is: each operation stands in a
  grouping, each number has the form that plain notation writes.
* `Writes`, `writes_putChars`: the printed tree is cut into its tokens. One lemma for each kind of
  tree. `parseText_printed_of_proper`: it is what they are parsed to.
* `Expr.displayedNesting`, `nesting_bracketed`: how deep the printed tree is nested.
* `Expr.ungrouped`, `rel_ungrouped_bracketed`: without groupings, the printed tree and the tree
  differ in the forms of their numbers at most.
* `parseText_printed`: so the printed tree of a text is a text for the same tree, unless it is
  nested too deep. Equality of trees sees that, unless it loses a carry; see
  `parseText_printed_lost_carry`.
-/

namespace Reckon

/-! ## Numbers in plain notation -/

theorem Decimal.toRat_plainForm (x : Decimal) : x.plainForm.toRat = x.toRat :=
  toRat_mk_of_cast (cast_coeffAt (le_max_left _ _))

/-- Only a negative scale is written otherwise, and its zeros are added without a carry that is
lost if they are few, or many. -/
theorem Decimal.bridges_plainForm {x : Decimal} (h : x.scale ≤ -20 ∨ -10 < x.scale) :
    x.plainForm.Bridges x := by
  have hscale : x.plainForm.scale - x.scale = max (-x.scale) 0 := by
    show max x.scale 0 - x.scale = _
    omega
  rcases h with hmany | hfew
  · exact bridges_of_far (by omega)
  · exact bridges_of_near (by omega)

namespace Expr

/-! ## The tree that is printed -/

mutual

/-- The tree that the printed tree spells out. -/
def bracketed : Expr → Expr
  | literal x => literal x.plainForm
  | reference name => reference name
  | negation operand => grouping (negation operand.bracketed)
  | binary op left right => grouping (binary op left.bracketed right.bracketed)
  | grouping inner => grouping inner.bracketed
  | call name args => call name (listBracketed args)

def listBracketed : List Expr → List Expr
  | [] => []
  | e :: es => e.bracketed :: listBracketed es

end

theorem level_bracketed (e : Expr) : e.bracketed.level = Operator.pow.level + 1 := by
  cases e <;> rfl

theorem leveled_bracketed (e : Expr) : e.bracketed.Leveled := by
  induction e with
  | literal x => trivial
  | reference name => trivial
  | negation operand ih =>
    have hlevel := level_bracketed operand
    exact ⟨by omega, ih⟩
  | binary op left right ihLeft ihRight =>
    have hpow := op.level_le
    refine ⟨?_, ?_, ihLeft, ihRight⟩
    · rw [level_bracketed, Operator.leftLevel]
      split <;> omega
    · rw [level_bracketed, Operator.rightLevel]
      split <;> omega
  | grouping inner ih => exact ih
  | call name args ih =>
    show ListLeveled (listBracketed args)
    induction args with
    | nil => trivial
    | cons e es ihs =>
      exact ⟨ih e List.mem_cons_self, ihs fun arg harg => ih arg (List.mem_cons_of_mem _ harg)⟩

mutual

/-- How deep the printed tree is nested. -/
def displayedNesting : Expr → Nat
  | literal _ => 0
  | reference _ => 0
  | negation operand => 2 + operand.displayedNesting
  | binary op left right =>
    1 + max left.displayedNesting
      (if op = .pow then 1 + right.displayedNesting else right.displayedNesting)
  | grouping inner => 1 + inner.displayedNesting
  | call _ args => 1 + listDisplayedNesting args

def listDisplayedNesting : List Expr → Nat
  | [] => 0
  | e :: es => max e.displayedNesting (listDisplayedNesting es)

end

theorem nesting_bracketed (e : Expr) : e.bracketed.nesting = e.displayedNesting := by
  induction e with
  | literal x => rfl
  | reference name => rfl
  | negation operand ih =>
    rw [bracketed, nesting, nesting, ih, displayedNesting]
    omega
  | binary op left right ihLeft ihRight =>
    rw [bracketed, nesting, nesting, ihLeft, ihRight, displayedNesting, Nat.add_comm]
    simp only [Nat.add_comm]
  | grouping inner ih => rw [bracketed, nesting, ih, displayedNesting, Nat.add_comm]
  | call name args ih =>
    have hlist : listNesting (listBracketed args) = listDisplayedNesting args := by
      induction args with
      | nil => rfl
      | cons e es ihs =>
        rw [listBracketed, listNesting, listDisplayedNesting, ih e List.mem_cons_self,
          ihs fun arg harg => ih arg (List.mem_cons_of_mem _ harg)]
    rw [bracketed, nesting, hlist, displayedNesting, Nat.add_comm]

/-! ## Trees without groupings -/

mutual

/-- The tree without its groupings. -/
def ungrouped : Expr → Expr
  | literal x => literal x
  | reference name => reference name
  | negation operand => negation operand.ungrouped
  | binary op left right => binary op left.ungrouped right.ungrouped
  | grouping inner => inner.ungrouped
  | call name args => call name (listUngrouped args)

def listUngrouped : List Expr → List Expr
  | [] => []
  | e :: es => e.ungrouped :: listUngrouped es

end

theorem mem_kinds_call {name : String} {args : List Expr} {arg : Expr} (h : arg ∈ args)
    {k : TokenKind} (hk : k ∈ arg.kinds) : k ∈ (call name args).kinds := by
  have hlist : k ∈ listKinds args := by
    induction args with
    | nil => cases h
    | cons e es ih =>
      cases es with
      | nil =>
        obtain rfl := List.mem_singleton.1 h
        exact hk
      | cons f fs =>
        rw [listKinds, List.mem_append, List.mem_cons]
        rcases List.mem_cons.1 h with rfl | h
        · exact .inl hk
        · exact .inr (.inr (ih h))
  rw [kinds]
  exact List.mem_cons_of_mem _ (List.mem_cons_of_mem _ (List.mem_append_left _ hlist))

/-- The groupings of the printed tree apart, only the numbers of a tree have other forms in it. -/
theorem rel_ungrouped_bracketed {R : Decimal → Decimal → Prop} {e : Expr}
    (h : ∀ x, .number x ∈ e.kinds → R x.plainForm x) :
    Rel R e.bracketed.ungrouped e.ungrouped := by
  induction e with
  | literal x => exact .literal (h x List.mem_cons_self)
  | reference name => exact .reference name
  | negation operand ih => exact .negation (ih fun x hx => h x (List.mem_cons_of_mem _ hx))
  | binary op left right ihLeft ihRight =>
    refine .binary (ihLeft fun x hx => h x ?_) (ihRight fun x hx => h x ?_)
    · exact List.mem_append_left _ hx
    · exact List.mem_append_right _ (List.mem_cons_of_mem _ hx)
  | grouping inner ih =>
    exact ih fun x hx => h x (List.mem_cons_of_mem _ (List.mem_append_left _ hx))
  | call name args ih =>
    have hargs : ∀ arg ∈ args, Rel R arg.bracketed.ungrouped arg.ungrouped :=
      fun arg harg => ih arg harg fun x hx => h x (mem_kinds_call harg hx)
    refine .call ?_
    clear * - hargs
    induction args with
    | nil => exact .nil
    | cons e es ihs =>
      obtain ⟨he, hes⟩ := List.forall_mem_cons.1 hargs
      exact .cons he (ihs hes)

theorem alike_ungrouped_bracketed (e : Expr) : e.bracketed.ungrouped.Alike e.ungrouped :=
  rel_ungrouped_bracketed fun x _ => x.toRat_plainForm

end Expr

/-! ## The tokens of the printed tree -/

theorem symbolAt?_operator (op : Operator) (after : List Char) :
    symbolAt? (op.symbol.chars ++ ' ' :: after) = some op.symbol := by
  rcases op with op | op | op <;> cases op <;> rfl

theorem delimited_nil : Delimited [] := by
  intro c hc
  cases hc

theorem delimited_cons {c : Char} (h : c ∈ [' ', '(', ')', ',']) (rest : List Char) :
    Delimited (c :: rest) := by
  intro d hd
  obtain rfl := Option.some.inj hd
  exact h

/-- What is put in front of a text where a number or a name may end is cut into tokens of the kinds
`ks`. -/
def Writes (put : List Char → List Char) (ks : List TokenKind) : Prop :=
  ∀ after ks' rest, Delimited after → Scans after ks' rest → Scans (put after) (ks ++ ks') rest

namespace Writes

variable {put put' : List Char → List Char} {ks ks' : List TokenKind}

theorem parenthesized (h : Writes put ks) : Writes (fun after => '(' :: put (')' :: after))
    (.symbol .leftParen :: (ks ++ [.symbol .rightParen])) := by
  intro after ks' rest _ hscans
  have hclose : Scans (')' :: after) (.symbol .rightParen :: ks') rest := .symbol rfl rfl hscans
  have hinner := h _ _ rest (delimited_cons (by decide) after) hclose
  rw [List.cons_append, List.append_assoc]
  exact .symbol rfl rfl hinner

theorem negated (h : Writes put ks) :
    Writes (fun after => '-' :: put after) (.symbol .minus :: ks) := by
  intro after ks' rest hafter hscans
  exact .symbol rfl rfl (h after ks' rest hafter hscans)

theorem operation (h : Writes put ks) (op : Operator) (h' : Writes put' ks') :
    Writes (fun after => put (' ' :: (op.symbol.chars ++ ' ' :: put' after)))
      (ks ++ .symbol op.symbol :: ks') := by
  intro after ks'' rest hafter hscans
  have hblank : Text.isBlank ' ' = true := by decide
  have hright := h' after ks'' rest hafter hscans
  have hop := Scans.symbol (symbolAt?_operator op (put' after)) rfl (.blank hblank hright)
  have hleft := h _ _ rest (delimited_cons (by decide) _) (.blank hblank hop)
  rwa [List.append_assoc, List.cons_append]

theorem call {name : String} (hname : IsName name.toList) (h : Writes put ks) :
    Writes (fun after => name.toList ++ '(' :: put (')' :: after))
      (.name name :: .symbol .leftParen :: (ks ++ [.symbol .rightParen])) := by
  intro after ks' rest hafter hscans
  have hargs := h.parenthesized after ks' rest hafter hscans
  exact .name hname (delimited_cons (by decide) _) hargs

theorem args {es : List Expr} (h : ∀ e ∈ es, Writes e.putChars e.bracketed.kinds) :
    Writes (Expr.putArgs es) (Expr.listKinds (Expr.listBracketed es)) := by
  induction es with
  | nil =>
    intro after ks' rest _ hscans
    exact hscans
  | cons e es ih =>
    obtain ⟨he, hes⟩ := List.forall_mem_cons.1 h
    cases es with
    | nil => exact he
    | cons f fs =>
      intro after ks' rest hafter hscans
      have hblank : Text.isBlank ' ' = true := by decide
      have hrest := ih hes after ks' rest hafter hscans
      have hcomma : Scans (',' :: ' ' :: Expr.putArgs (f :: fs) after) (.symbol .comma :: _) rest :=
        .symbol rfl rfl (.blank hblank hrest)
      have hfirst := he _ _ rest (delimited_cons (by decide) _) hcomma
      rwa [← List.cons_append, ← List.append_assoc] at hfirst

end Writes

namespace Expr

/-- The tree could come from a text. -/
def Proper (e : Expr) : Prop := ∀ k ∈ e.kinds, k.Proper

/-- The printed tree is cut into the tokens of the tree that it spells out. -/
theorem writes_putChars {e : Expr} (he : e.Proper) : Writes e.putChars e.bracketed.kinds := by
  induction e with
  | literal x =>
    intro after ks rest hafter hscans
    exact .number (he _ List.mem_cons_self) hafter hscans
  | reference name =>
    intro after ks rest hafter hscans
    exact .name (he _ List.mem_cons_self) hafter hscans
  | negation operand ih =>
    have hoperand : operand.Proper := fun k hk => he k (List.mem_cons_of_mem _ hk)
    exact (ih hoperand).negated.parenthesized
  | binary op left right ihLeft ihRight =>
    have hleft : left.Proper := fun k hk => he k (List.mem_append_left _ hk)
    have hright : right.Proper :=
      fun k hk => he k (List.mem_append_right _ (List.mem_cons_of_mem _ hk))
    exact ((ihLeft hleft).operation op (ihRight hright)).parenthesized
  | grouping inner ih =>
    have hinner : inner.Proper :=
      fun k hk => he k (List.mem_cons_of_mem _ (List.mem_append_left _ hk))
    exact (ih hinner).parenthesized
  | call name args ih =>
    have hargs : ∀ arg ∈ args, Writes arg.putChars arg.bracketed.kinds :=
      fun arg harg => ih arg harg fun k hk => he k (mem_kinds_call harg hk)
    exact .call (he _ List.mem_cons_self) (.args hargs)

end Expr

/-! ## Parsing the printed tree -/

/-- A text that is cut into the tokens of a tree is parsed to the tree, unless it is nested too
deep. -/
theorem parseText_of_scans {text : String} {e : Expr} (h : Scans text.toList e.kinds [])
    (hleveled : e.Leveled) :
    parseText text = if e.nesting ≤ maxNesting then .ok e else .error (.parse .nestingTooDeep) := by
  obtain ⟨ts, last, hscan, hlast, hts, hkinds⟩ := scan_of_scans h
  simp only [parseText, hscan]
  split
  · next hroom =>
    have hparse := parse_of_kinds hts hlast hkinds.symm hleveled hroom
    rw [hparse]
    rfl
  · next hdeep =>
    have hparse := parse_eq_nestingTooDeep hts hlast hkinds hleveled (Nat.lt_of_not_le hdeep)
    rw [hparse]
    rfl

theorem parseText_of_kinds {text : String} {e : Expr}
    (h : kindsWithin text.toList.length text.toList = some e.kinds) (hleveled : e.Leveled)
    (hroom : e.nesting ≤ maxNesting) : parseText text = .ok e :=
  (parseText_of_scans (.of_kindsWithin h) hleveled).trans (if_pos hroom)

/-- The printed tree is parsed to the tree that it spells out, unless it is nested too deep. -/
theorem parseText_printed_of_proper {e : Expr} (he : e.Proper) :
    parseText e.printed =
      if e.displayedNesting ≤ maxNesting then .ok e.bracketed
      else .error (.parse .nestingTooDeep) := by
  have hscans : Scans e.printed.toList e.bracketed.kinds [] := by
    have h := Expr.writes_putChars he [] [] [] delimited_nil (.done [])
    rwa [List.append_nil, ← String.toList_ofList (l := e.putChars [])] at h
  rw [parseText_of_scans hscans e.leveled_bracketed, Expr.nesting_bracketed]

theorem parse_of_parseText {text : String} {e : Expr} (h : parseText text = .ok e) :
    ∃ ts, scan text = .ok ts ∧ parse ts = .ok e := by
  unfold parseText at h
  split at h
  · cases h
  · next ts hscan =>
    refine ⟨ts, hscan, ?_⟩
    cases hparse : parse ts with
    | error err =>
      rw [hparse] at h
      cases h
    | ok e' =>
      rw [hparse] at h
      exact congrArg Except.ok (Except.ok.inj h)

/-- What a text is parsed to could come from a text. -/
theorem proper_of_parseText {text : String} {e : Expr} (h : parseText text = .ok e) :
    e.Proper := by
  obtain ⟨_, hscan, hparse⟩ := parse_of_parseText h
  obtain ⟨ts, last, rfl, hlast, hproper⟩ := proper_of_scan hscan
  have hts : ∀ t ∈ ts, t.isStop = false := fun t ht => isStop_of_proper (hproper t ht) _ _
  obtain ⟨hkinds, -, -⟩ := kinds_of_parse hts hlast hparse
  intro k hk
  rw [hkinds] at hk
  obtain ⟨t, ht, rfl⟩ := List.mem_map.1 hk
  exact hproper t ht

/-- The printed tree of a text is parsed to the same tree, its groupings and the forms of its
numbers apart, unless it is nested too deep. The trees are also taken for equal, unless a carry is
lost when a number is compared with the form that plain notation gives it. -/
theorem parseText_printed {text : String} {e : Expr} (h : parseText text = .ok e) :
    (e.displayedNesting ≤ maxNesting →
      ∃ e', parseText e.printed = .ok e' ∧ e'.ungrouped.Alike e.ungrouped ∧
        ((∀ x, .number x ∈ e.kinds → x.plainForm.Bridges x) →
          e'.ungrouped.same e.ungrouped = true)) ∧
    (maxNesting < e.displayedNesting → parseText e.printed = .error (.parse .nestingTooDeep)) := by
  have hprinted := parseText_printed_of_proper (proper_of_parseText h)
  have halike := e.alike_ungrouped_bracketed
  constructor
  · intro hroom
    rw [if_pos hroom] at hprinted
    refine ⟨e.bracketed, hprinted, halike, ?_⟩
    intro hbridges
    exact (Expr.same_iff_alike (Expr.rel_ungrouped_bracketed hbridges)).2 halike
  · intro hdeep
    rwa [if_neg (Nat.not_le.2 hdeep)] at hprinted

/-- A number with a zero to add, in the left operand of a power. -/
theorem parseText_printed_power :
    let e : Expr := .negation (.binary .pow (.literal ⟨2, -1⟩)
      (.call "f" [.reference "x", .literal ⟨3, 0⟩]))
    parseText "-2e1^f(x, 3)" = .ok e ∧ ∃ e', parseText e.printed = .ok e' ∧
      e'.ungrouped.Alike e.ungrouped ∧ e'.ungrouped.same e.ungrouped = true := by
  intro e
  have hscans : Scans "-2e1^f(x, 3)".toList e.kinds [] :=
    .token (by decide) rfl rfl <| .token (by decide) rfl rfl <| .token (by decide) rfl rfl <|
    .token (by decide) rfl rfl <| .token (by decide) rfl rfl <| .token (by decide) rfl rfl <|
    .token (by decide) rfl rfl <| .blank (by decide) <| .token (by decide) rfl rfl <|
    .token (by decide) rfl rfl <| .done []
  have hparse : parseText "-2e1^f(x, 3)" = .ok e :=
    (parseText_of_scans hscans (by decide)).trans (if_pos (by decide))
  obtain ⟨e', hprinted, halike, hsame⟩ := (parseText_printed hparse).1 (by decide)
  refine ⟨hparse, e', hprinted, halike, hsame ?_⟩
  intro x hx
  have hx' : x = ⟨2, -1⟩ ∨ x = ⟨3, 0⟩ := by simpa [e, Expr.kinds, Expr.listKinds] using hx
  apply Decimal.bridges_plainForm
  rcases hx' with rfl | rfl
  · exact .inr (by decide)
  · exact .inr (by decide)

/-- The ten zeros that plain notation adds lose a carry in the comparison of the numbers. -/
theorem parseText_printed_lost_carry :
    ∃ e e', parseText "7922816251677867879e10" = .ok e ∧ e.displayedNesting ≤ maxNesting ∧
      parseText e.printed = .ok e' ∧ e'.ungrouped.same e.ungrouped = false := by
  let e : Expr := .literal ⟨7922816251677867879, -10⟩
  have hscans : Scans "7922816251677867879e10".toList e.kinds [] :=
    .token (by decide) rfl rfl <| .done []
  have hparse : parseText "7922816251677867879e10" = .ok e :=
    (parseText_of_scans hscans trivial).trans (if_pos (by decide))
  have hprinted := parseText_printed_of_proper (proper_of_parseText hparse)
  exact ⟨e, e.bracketed, hparse, by decide, hprinted, by decide +kernel⟩

end Reckon
