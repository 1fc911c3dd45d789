import Reckon.Proofs.Scanning.Coverage

/-!
# Blanks around tokens

* `Spacing`: blanks for the places in front of tokens, between them and behind them; only the first
  and the last of these places may be empty. `Spacing.text`: lexemes with these blanks.
* `breaks_append`: no token goes on with blanks. `Scanner.reads_spaced`: so the scanner cuts tokens
  out of such a text again, whatever their neighbours were.
* `scan_spaced`: a text and its tokens with any spacing are scanned to the same tokens, up to their
  positions.
-/

namespace Reckon

/-! ## Spacings -/

/-- All characters of the text are blank. -/
def Blanks (gap : String) : Prop := ∀ c ∈ gap.toList, Text.isBlank c = true

instance (gap : String) : Decidable (Blanks gap) :=
  decidable_of_iff (gap.toList.all Text.isBlank = true) List.all_eq_true

/-- The lexemes, each in front of its gap. -/
def spaced (lexemes gaps : List String) : String :=
  String.join (List.zipWith (· ++ ·) lexemes gaps)

/-- Blanks for the places around `count` tokens. No two of the tokens touch. -/
structure Spacing (count : Nat) where
  front : String
  /-- What stands behind each of the tokens. -/
  gaps : List String
  length_gaps : gaps.length = count
  blank_front : Blanks front
  blank_gaps : ∀ gap ∈ gaps, Blanks gap
  apart : ∀ gap ∈ gaps.dropLast, gap ≠ ""

/-- The lexemes with the blanks around them. -/
def Spacing.text {count : Nat} (w : Spacing count) (lexemes : List String) : String :=
  w.front ++ spaced lexemes w.gaps

theorem toList_spaced_cons (lexeme gap : String) (lexemes gaps : List String) :
    (spaced (lexeme :: lexemes) (gap :: gaps)).toList =
      lexeme.toList ++ (gap.toList ++ (spaced lexemes gaps).toList) := by
  simp only [spaced, List.zipWith_cons_cons, String.join_cons, String.toList_append,
    List.append_assoc]

/-! ## Scanning -/

theorem breaks_of_isBlank {cs : List Char} (h : ∀ c ∈ cs.head?, Text.isBlank c = true) :
    Breaks cs := by
  intro c hc
  have hblank := h c hc
  refine ⟨?_, ?_, ?_⟩
  · rintro rfl
    exact absurd hblank (by decide)
  · rintro rfl
    exact absurd hblank (by decide)
  · apply Bool.eq_false_iff.2
    intro hname
    rw [not_isBlank_of_continuesName hname] at hblank
    cases hblank

/-- No token goes on with blanks, or at the end of the text. -/
theorem breaks_append {gap rest : List Char} (hgap : ∀ c ∈ gap, Text.isBlank c = true)
    (hrest : gap = [] → rest = []) : Breaks (gap ++ rest) := by
  apply breaks_of_isBlank
  cases gap with
  | nil =>
    rw [hrest rfl]
    rintro c ⟨⟩
  | cons d gap =>
    rintro c ⟨⟩
    exact hgap d List.mem_cons_self

namespace Scanner

theorem skipBlanks_of_blanks {front : List Char} (hfront : ∀ c ∈ front, Text.isBlank c = true)
    (rest : List Char) (position : Nat) :
    (Scanner.mk (front ++ rest) position).skipBlanks =
      (Scanner.mk rest (position + front.length)).skipBlanks := by
  simp only [skipBlanks, List.dropWhile_append_of_pos hfront, List.takeWhile_append_of_pos hfront,
    List.length_append, Nat.add_assoc]

theorem skipBlanks_append {front rest : List Char} (hfront : ∀ c ∈ front, Text.isBlank c = true)
    (hrest : ∀ c ∈ rest.head?, Text.isBlank c = false) (position : Nat) :
    (Scanner.mk (front ++ rest) position).skipBlanks = ⟨rest, position + front.length⟩ := by
  have hdrop : rest.dropWhile Text.isBlank = rest := by
    cases rest with
    | nil => rfl
    | cons c rest => simp [hrest c rfl]
  have htake : rest.takeWhile Text.isBlank = [] := by
    cases rest with
    | nil => rfl
    | cons c rest => simp [hrest c rfl]
  rw [skipBlanks_of_blanks hfront, skipBlanks, hdrop, htake]
  rfl

/-- The scanner reads tokens again that are written with blanks behind each. -/
theorem reads_spaced {ts : List Token} (hts : ∀ t ∈ ts, t.kind.Spelled t.lexeme.toList)
    {gaps : List String} (hlength : gaps.length = ts.length)
    (hgaps : ∀ gap ∈ gaps, Blanks gap)
    (happart : ∀ gap ∈ gaps.dropLast, gap ≠ "") {front : List Char}
    (hfront : ∀ c ∈ front, Text.isBlank c = true) (position : Nat) :
    ∃ ts' last,
      (Scanner.mk (front ++ (spaced (ts.map Token.lexeme) gaps).toList) position).Reads
        (ts' ++ [last]) ∧
      ts'.map Token.kind = ts.map Token.kind ∧ ts'.map Token.lexeme = ts.map Token.lexeme := by
  induction ts generalizing gaps front position with
  | nil =>
    have hskip : (Scanner.mk (front ++ []) position).skipBlanks = ⟨[], position + front.length⟩ :=
      skipBlanks_append hfront (by rintro c ⟨⟩) position
    exact ⟨[], _, .stop (congrArg Scanner.rest hskip), rfl, rfl⟩
  | cons t ts ih =>
    obtain ⟨gap, gaps, rfl⟩ : ∃ gap gaps', gaps = gap :: gaps' :=
      List.exists_cons_of_length_eq_add_one hlength
    obtain ⟨ht, hts⟩ := List.forall_mem_cons.1 hts
    obtain ⟨hgap, hgaps⟩ := List.forall_mem_cons.1 hgaps
    have hlength : gaps.length = ts.length := Nat.succ.inj hlength
    obtain ⟨c, cs, hcs⟩ := List.exists_cons_of_ne_nil ht.ne_nil
    -- Only the last gap may be empty, and nothing stands behind it.
    have hbreaks : Breaks (gap.toList ++ (spaced (ts.map Token.lexeme) gaps).toList) := by
      apply breaks_append hgap
      intro hnil
      cases gaps with
      | nil => simp [spaced]
      | cons gap' gaps =>
        exact absurd (String.toList_eq_nil_iff.1 hnil) (happart gap List.mem_cons_self)
    have happart : ∀ gap' ∈ gaps.dropLast, gap' ≠ "" := by
      intro gap' hmem
      cases gaps with
      | nil => cases hmem
      | cons gap'' gaps => exact happart gap' (List.mem_cons_of_mem _ hmem)
    have hskip : (Scanner.mk
        (front ++ (spaced ((t :: ts).map Token.lexeme) (gap :: gaps)).toList) position).skipBlanks =
        ⟨c :: (cs ++ (gap.toList ++ (spaced (ts.map Token.lexeme) gaps).toList)),
          position + front.length⟩ := by
      rw [List.map_cons, toList_spaced_cons, hcs]
      refine skipBlanks_append hfront ?_ position
      rintro d ⟨⟩
      exact ht.not_isBlank c (hcs ▸ List.mem_cons_self)
    have hlex := lexemeAt_of_spelled (hcs ▸ ht) hbreaks
    obtain ⟨ts', last, hreads, hkinds, hlexemes⟩ :=
      ih hts hlength hgaps happart hgap (position + front.length + (c :: cs).length)
    refine ⟨⟨t.kind, String.ofList (c :: cs), position + front.length⟩ :: ts', last, ?_, ?_, ?_⟩
    · have hleft := congrArg Scanner.rest hskip
      have hnext : (Scanner.skipBlanks ⟨front ++ (spaced ((t :: ts).map Token.lexeme)
          (gap :: gaps)).toList, position⟩).advance (c :: cs).length =
          ⟨gap.toList ++ (spaced (ts.map Token.lexeme) gaps).toList,
            position + front.length + (c :: cs).length⟩ := by
        rw [hskip, advance, ← List.cons_append, List.drop_left]
      have hread := Reads.token hleft hlex (hnext ▸ hreads)
      rwa [hskip] at hread
    · simp only [List.map_cons, hkinds]
    · simp only [List.map_cons, hlexemes, ← hcs, String.ofList_toList]

end Scanner

/-- The tokens of a text, written with any spacing, are scanned to tokens of the same kinds with the
same lexemes. -/
theorem scan_spaced {text : String} {ts : List Token} {last : Token}
    (h : scan text = .ok (ts ++ [last])) (w : Spacing ts.length) :
    ∃ ts', scan (w.text (ts.map Token.lexeme)) =
        .ok (ts' ++ [.stopAt (w.text (ts.map Token.lexeme)).length]) ∧
      ts'.map Token.kind = ts.map Token.kind ∧ ts'.map Token.lexeme = ts.map Token.lexeme := by
  obtain ⟨ts₀, hall, -, hspelled⟩ := covering_of_scan h
  obtain ⟨rfl, -⟩ := List.append_inj' hall rfl
  obtain ⟨ts', last', hreads, hkinds, hlexemes⟩ := Scanner.reads_spaced hspelled w.length_gaps
    w.blank_gaps w.apart w.blank_front 0
  have hscan : scan (w.text (ts.map Token.lexeme)) = .ok (ts' ++ [last']) := by
    rw [scan, Scanner.ofText, Spacing.text, String.toList_append]
    exact hreads.tokens_eq_ok
  obtain ⟨ts₁, hall', -, -⟩ := covering_of_scan hscan
  obtain ⟨rfl, hlast⟩ := List.append_inj' hall' rfl
  rw [List.singleton_inj] at hlast
  exact ⟨ts', hlast ▸ hscan, hkinds, hlexemes⟩

end Reckon
