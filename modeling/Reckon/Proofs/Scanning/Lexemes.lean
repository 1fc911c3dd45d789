import Reckon.Proofs.Scanning.Numerals
import Reckon.Token.Scanner

/-!
# Lexemes

* `IsName`: the characters of a name. `TokenKind.Spelled`: the characters that make a token of a
  kind. `TokenKind.Proper`: the kinds of tokens that a text is cut into.
* `spelled_of_lexemeAt`: what is cut from a text stands at its beginning and makes a token of its
  kind. `Spelled.not_isBlank`: no character of it is blank.
* `TokenKind.EndsBefore`: a text with which the token does not go on. `lexemeAt_eq_token_iff`: the
  token is cut in front of such a text and of no other.
* `Breaks`, `Delimited`: a text with which no token goes on, and what follows a number or a name in
  a printed tree. `lexemeAt_of_spelled`: a token is cut in front of such a text.
* `Spelled.unique`: so its characters determine its kind.
-/

namespace Reckon

/-! ## Tokens that texts are cut into -/

/-- The characters of a name. -/
inductive IsName : List Char → Prop where
  | intro {c : Char} {cs : List Char} (starts : startsName c = true)
      (notBlank : Text.isBlank c = false) (notDigit : c.isDigit = false)
      (continues : ∀ d ∈ cs, continuesName d = true) : IsName (c :: cs)

/-- The characters `cs` make a token of this kind: they are the numeral of the number, the name, or
the symbol. -/
def TokenKind.Spelled (cs : List Char) : TokenKind → Prop
  | .number x => ∃ n : Numeral, n.WellFormed ∧ n.chars = cs ∧ n.value = .ok x
  | .name text => text.toList = cs ∧ IsName cs
  | .symbol s => s.chars = cs
  | .stop => False

/-- The number of a numeral, the characters of a name, or any symbol. -/
def TokenKind.Proper : TokenKind → Prop
  | .number x => 0 ≤ x.coeff ∧ x.scale.natAbs ≤ maxPrecision
  | .name text => IsName text.toList
  | .symbol _ => True
  | .stop => False

theorem Numeral.proper_of_value {n : Numeral} {x : Decimal} (h : n.value = .ok x) :
    (TokenKind.number x).Proper := by
  unfold Numeral.value at h
  simp only at h
  split at h
  · simp at h
  · split at h
    · simp at h
    · split at h
      · simp at h
      · split at h
        · simp at h
        · next hscale =>
          obtain rfl := Except.ok.inj h
          exact ⟨Int.natCast_nonneg _, Nat.le_of_not_lt hscale⟩

theorem TokenKind.Spelled.proper {cs : List Char} {kind : TokenKind} (h : kind.Spelled cs) :
    kind.Proper := by
  cases kind with
  | number x =>
    obtain ⟨n, -, -, hvalue⟩ := h
    exact Numeral.proper_of_value hvalue
  | name text =>
    obtain ⟨rfl, hname⟩ := h
    exact hname
  | symbol s => trivial
  | stop => exact h

/-- A number in plain notation. -/
theorem TokenKind.spelled_plainChars {x : Decimal} (hcoeff : 0 ≤ x.coeff)
    (hscale : x.scale ≤ maxPrecision) : (TokenKind.number x.plainForm).Spelled x.plainChars := by
  refine ⟨x.plainNumeral, x.plain_plainNumeral.wellFormed, ?_, ?_⟩
  · exact (Decimal.plainChars_eq hcoeff).symm
  · exact Decimal.value_plainNumeral hcoeff hscale

/-! ## What is cut from a text -/

theorem chars_append_of_symbolAt? {cs : List Char} {s : Symbol} (h : symbolAt? cs = some s) :
    ∃ after, s.chars ++ after = cs := by
  unfold symbolAt? at h
  split at h <;> cases h <;> exact ⟨_, rfl⟩

theorem spelled_of_numeralAt {c : Char} {cs chars : List Char} {kind : TokenKind}
    (hc : c = '.' ∨ c.isDigit = true) (h : numeralAt (c :: cs) = .token kind chars) :
    kind.Spelled chars ∧ ∃ after, chars ++ after = c :: cs := by
  unfold numeralAt at h
  split at h
  · simp at h
  · next n hread =>
    split at h
    · simp at h
    · next x hvalue =>
      obtain ⟨rfl, rfl⟩ := Lexeme.token.inj h
      exact ⟨⟨n, Numeral.wellFormed_of_read hc hread, rfl, hvalue⟩, Numeral.read_append hread⟩

/-- What is cut from a text stands at its beginning and makes a token of the kind. -/
theorem spelled_of_lexemeAt {c : Char} {cs chars : List Char} {kind : TokenKind}
    (hblank : Text.isBlank c = false) (h : lexemeAt c cs = .token kind chars) :
    kind.Spelled chars ∧ ∃ after, chars ++ after = c :: cs := by
  unfold lexemeAt at h
  split at h
  · next s hsymbol =>
    obtain ⟨rfl, rfl⟩ := Lexeme.token.inj h
    exact ⟨rfl, chars_append_of_symbolAt? hsymbol⟩
  · split at h
    · simp at h
    · split at h
      · next hc => exact spelled_of_numeralAt hc h
      · next hc =>
        split at h
        · next hstarts =>
          obtain ⟨rfl, rfl⟩ := Lexeme.token.inj h
          have hdigit : c.isDigit = false := by simpa using (not_or.1 hc).2
          have hcontinues : ∀ d ∈ cs.takeWhile continuesName, continuesName d = true :=
            List.all_eq_true.1 List.all_takeWhile
          refine ⟨⟨String.toList_ofList, .intro hstarts hblank hdigit hcontinues⟩,
            cs.dropWhile continuesName, ?_⟩
          rw [List.cons_append, List.takeWhile_append_dropWhile]
        · simp at h

/-- Texts are cut into proper tokens. -/
theorem proper_of_lexemeAt {c : Char} {cs chars : List Char} {kind : TokenKind}
    (hblank : Text.isBlank c = false) (h : lexemeAt c cs = .token kind chars) : kind.Proper :=
  (spelled_of_lexemeAt hblank h).1.proper

theorem length_le_of_lexemeAt {c : Char} {cs chars : List Char} {kind : TokenKind}
    (hblank : Text.isBlank c = false) (h : lexemeAt c cs = .token kind chars) :
    chars.length ≤ (c :: cs).length := by
  obtain ⟨-, after, hsplit⟩ := spelled_of_lexemeAt hblank h
  rw [← hsplit, List.length_append]
  exact Nat.le_add_right _ _

/-! ## Blanks -/

theorem not_isBlank_of_isLetter {c : Char} (h : Text.isLetter c = true) :
    Text.isBlank c = false :=
  Text.inRanges_of_apart (by decide +kernel) h

theorem not_isBlank_of_isNumber {c : Char} (h : Text.isNumber c = true) :
    Text.isBlank c = false :=
  Text.inRanges_of_apart (by decide +kernel) h

theorem not_isBlank_of_isDigit {c : Char} (h : c.isDigit = true) : Text.isBlank c = false :=
  not_isBlank_of_isNumber (Text.isNumber_of_isDigit h)

theorem not_isBlank_of_continuesName {c : Char} (h : continuesName c = true) :
    Text.isBlank c = false := by
  simp only [continuesName, Bool.or_eq_true, beq_iff_eq] at h
  rcases h with (hletter | hnumber) | rfl
  · exact not_isBlank_of_isLetter hletter
  · exact not_isBlank_of_isNumber hnumber
  · decide

theorem Numeral.WellFormed.not_isBlank {n : Numeral} (h : n.WellFormed) :
    ∀ c ∈ n.chars, Text.isBlank c = false := by
  obtain ⟨whole, fraction, exponent⟩ := n
  intro c hc
  rw [chars, List.append_assoc, List.mem_append, List.mem_append] at hc
  rcases hc with hc | hc | hc
  · exact not_isBlank_of_isDigit (h.isDigit_whole c hc)
  · cases fraction with
    | none => cases hc
    | some ds =>
      rcases List.mem_cons.1 hc with rfl | hc
      · decide
      · exact not_isBlank_of_isDigit ((h.fraction ds rfl).2 c hc)
  · cases exponent with
    | none => cases hc
    | some x =>
      obtain ⟨hmarker, hsign, -, hdigits⟩ := h.exponent x rfl
      simp only [Option.elim_some, Exponent.chars, List.mem_cons, List.mem_append,
        Option.mem_toList] at hc
      rcases hc with rfl | hc | hc
      · rcases hmarker with hmarker | hmarker <;> rw [hmarker] <;> decide
      · rcases hsign c hc with rfl | rfl <;> decide
      · exact not_isBlank_of_isDigit (hdigits c hc)

theorem Symbol.not_isBlank (s : Symbol) : ∀ c ∈ s.chars, Text.isBlank c = false := by
  have hchars : s.chars.all (fun c => !Text.isBlank c) = true := by
    cases s <;> decide
  intro c hc
  simpa using List.all_eq_true.1 hchars c hc

/-- No character of a token is blank. -/
theorem TokenKind.Spelled.not_isBlank {cs : List Char} {kind : TokenKind} (h : kind.Spelled cs) :
    ∀ c ∈ cs, Text.isBlank c = false := by
  cases kind with
  | number x =>
    obtain ⟨n, hn, rfl, -⟩ := h
    exact hn.not_isBlank
  | name text =>
    obtain ⟨-, hstarts, hblank, hdigit, hcontinues⟩ := h
    exact List.forall_mem_cons.2 ⟨hblank, fun d hd => not_isBlank_of_continuesName (hcontinues d hd)⟩
  | symbol s =>
    obtain rfl : s.chars = cs := h
    exact s.not_isBlank
  | stop => exact h.elim

/-! ## Where tokens end -/

/-- The token that `cs` makes does not go on with the text. -/
def TokenKind.EndsBefore (cs rest : List Char) : TokenKind → Prop
  | .number _ => ∀ n : Numeral, n.WellFormed → n.chars = cs → n.EndsBefore rest
  | .name _ => ∀ c ∈ rest.head?, continuesName c = false
  | .symbol s => s = .less ∨ s = .greater → ∀ c ∈ rest.head?, c ≠ '='
  | .stop => True

/-- No token goes on with the text. -/
def Breaks (rest : List Char) : Prop :=
  ∀ c ∈ rest.head?, c ≠ '.' ∧ c ≠ '=' ∧ continuesName c = false

theorem breaks_nil : Breaks [] := by
  rintro c ⟨⟩

/-- Digits and the letters of exponents are characters of names, too. -/
theorem Breaks.endsBefore_numeral {rest : List Char} (h : Breaks rest) (n : Numeral) :
    n.EndsBefore rest := by
  have hletter {e : Char} (he : continuesName e = true) : ∀ c ∈ rest.head?, c ≠ e := by
    rintro c hc rfl
    exact absurd he (Bool.not_eq_true _ ▸ (h c hc).2.2)
  refine ⟨fun c hc => ?_, fun _ _ c hc => (h c hc).1, fun _ c hc => ⟨?_, ?_⟩⟩
  · apply Bool.eq_false_iff.2
    intro hdigit
    refine hletter ?_ c hc rfl
    rw [continuesName, Text.isNumber_of_isDigit hdigit, Bool.or_true, Bool.true_or]
  · exact hletter (by decide) c hc
  · exact hletter (by decide) c hc

theorem Breaks.endsBefore {rest : List Char} (h : Breaks rest) (kind : TokenKind)
    (cs : List Char) : kind.EndsBefore cs rest := by
  cases kind with
  | number x => exact fun n _ _ => h.endsBefore_numeral n
  | name text => exact fun c hc => (h c hc).2.2
  | symbol s => exact fun _ c hc => (h c hc).2.1
  | stop => trivial

/-- The text ends here, or goes on with a blank, a parenthesis or a comma. -/
def Delimited (rest : List Char) : Prop := ∀ c ∈ rest.head?, c ∈ [' ', '(', ')', ',']

theorem Delimited.breaks {rest : List Char} (h : Delimited rest) : Breaks rest := by
  intro c hc
  have hmem := h c hc
  simp only [List.mem_cons, List.not_mem_nil, or_false] at hmem
  rcases hmem with rfl | rfl | rfl | rfl <;> decide

/-! ## Cutting tokens -/

theorem lexemeAt_symbol {c : Char} {cs : List Char} {s : Symbol}
    (h : symbolAt? (c :: cs) = some s) : lexemeAt c cs = .token (.symbol s) s.chars := by
  rw [lexemeAt, h]

theorem mem_chars_of_symbolAt? {c : Char} {cs : List Char} {s : Symbol}
    (h : symbolAt? (c :: cs) = some s) : c ∈ s.chars := by
  unfold symbolAt? at h
  split at h <;> cases h
  all_goals simp_all [Symbol.chars]

theorem mem_chars_of_halfOperator? {c : Char} {s : Symbol} (h : halfOperator? c = some s) :
    c ∈ s.chars := by
  grind [halfOperator?, Symbol.chars]

/-- A character of no symbol begins none. -/
theorem symbolAt?_eq_none {c : Char} (h : ∀ s : Symbol, c ∉ s.chars) (cs : List Char) :
    symbolAt? (c :: cs) = none ∧ halfOperator? c = none := by
  constructor
  · exact Option.eq_none_iff_forall_ne_some.2 fun s hs => h s (mem_chars_of_symbolAt? hs)
  · exact Option.eq_none_iff_forall_ne_some.2 fun s hs => h s (mem_chars_of_halfOperator? hs)

theorem Symbol.not_mem_chars {c : Char} (h : c.isDigit = true ∨ startsName c = true) (s : Symbol) :
    c ∉ s.chars := by
  have hchars : s.chars.all (fun d => !d.isDigit && !startsName d) = true := by
    cases s <;> decide
  intro hmem
  have hc := List.all_eq_true.1 hchars c hmem
  rw [Bool.and_eq_true, Bool.not_eq_true', Bool.not_eq_true'] at hc
  simp [hc] at h

theorem symbolAt?_chars_append (s : Symbol) {rest : List Char}
    (hrest : s = .less ∨ s = .greater → ∀ c ∈ rest.head?, c ≠ '=') :
    symbolAt? (s.chars ++ rest) = some s := by
  -- Only `<` and `>` begin a longer symbol, with `=`.
  cases s with
  | less =>
    cases rest with
    | nil => rfl
    | cons c rest => simp [Symbol.chars, symbolAt?, hrest (.inl rfl) c rfl]
  | greater =>
    cases rest with
    | nil => rfl
    | cons c rest => simp [Symbol.chars, symbolAt?, hrest (.inr rfl) c rfl]
  | _ => rfl

theorem lexemeAt_of_isName {c : Char} {cs rest : List Char} (h : IsName (c :: cs))
    (hrest : ∀ d ∈ rest.head?, continuesName d = false) :
    lexemeAt c (cs ++ rest) = .token (.name (String.ofList (c :: cs))) (c :: cs) := by
  obtain ⟨hstarts, -, hdigit, hcontinues⟩ := h
  obtain ⟨hsymbol, hhalf⟩ := symbolAt?_eq_none (Symbol.not_mem_chars (.inr hstarts)) (cs ++ rest)
  have hpoint : c ≠ '.' := by
    rintro rfl
    exact absurd hstarts (by decide)
  have htake : (cs ++ rest).takeWhile continuesName = cs := by
    rw [List.takeWhile_append_of_pos hcontinues]
    cases rest with
    | nil => simp
    | cons d rest => simp [hrest d rfl]
  simp only [lexemeAt, hsymbol, hhalf]
  rw [if_neg (by simp [hpoint, hdigit]), if_pos hstarts, htake]

/-- A digit or a point begins nothing but a numeral. -/
theorem lexemeAt_eq_numeralAt {c : Char} (hc : c = '.' ∨ c.isDigit = true) (cs : List Char) :
    lexemeAt c cs = numeralAt (c :: cs) := by
  have hnone : ∀ s : Symbol, c ∉ s.chars := by
    rcases hc with rfl | hdigit
    · intro s
      cases s <;> decide
    · exact Symbol.not_mem_chars (.inl hdigit)
  obtain ⟨hsymbol, hhalf⟩ := symbolAt?_eq_none hnone cs
  simp only [lexemeAt, hsymbol, hhalf]
  rw [if_pos hc]

theorem lexemeAt_of_wellFormed {n : Numeral} {x : Decimal} (h : n.WellFormed)
    (hvalue : n.value = .ok x) {c : Char} {cs rest : List Char} (hchars : n.chars = c :: cs)
    (hrest : n.EndsBefore rest) : lexemeAt c (cs ++ rest) = .token (.number x) (c :: cs) := by
  have hc : c = '.' ∨ c.isDigit = true := by
    obtain ⟨c', cs', hchars', hc'⟩ := h.head_chars
    rw [hchars, List.cons.injEq] at hchars'
    rwa [hchars'.1]
  have hread : Numeral.read (c :: (cs ++ rest)) = .ok n := by
    rw [← List.cons_append, ← hchars]
    exact Numeral.read_of_wellFormed h hrest
  rw [lexemeAt_eq_numeralAt hc]
  simp only [numeralAt, hread, hvalue, hchars]

/-- A token is cut where it ends. -/
theorem lexemeAt_of_endsBefore {kind : TokenKind} {c : Char} {cs rest : List Char}
    (h : kind.Spelled (c :: cs)) (hrest : kind.EndsBefore (c :: cs) rest) :
    lexemeAt c (cs ++ rest) = .token kind (c :: cs) := by
  cases kind with
  | number x =>
    obtain ⟨n, hn, hchars, hvalue⟩ := h
    exact lexemeAt_of_wellFormed hn hvalue hchars (hrest n hn hchars)
  | name text =>
    obtain ⟨htext, hname⟩ := h
    rw [lexemeAt_of_isName hname hrest, ← htext, String.ofList_toList]
  | symbol s =>
    have hchars : s.chars = c :: cs := h
    have hsymbol : symbolAt? (c :: (cs ++ rest)) = some s := by
      rw [← List.cons_append, ← hchars]
      exact symbolAt?_chars_append s hrest
    rw [lexemeAt_symbol hsymbol, hchars]
  | stop => exact h.elim

theorem head?_of_symbolAt? {s : Symbol} {rest : List Char}
    (h : symbolAt? (s.chars ++ rest) = some s) :
    s = .less ∨ s = .greater → ∀ c ∈ rest.head?, c ≠ '=' := by
  rintro hs c hc rfl
  obtain ⟨tail, rfl⟩ := List.head?_eq_some_iff.1 hc
  rcases hs with rfl | rfl <;> cases h

theorem head?_of_takeWhile {p : Char → Bool} {cs rest : List Char}
    (h : (cs ++ rest).takeWhile p = cs) : ∀ c ∈ rest.head?, p c = false := by
  intro c hc
  have hsplit : (cs ++ rest).takeWhile p ++ (cs ++ rest).dropWhile p = cs ++ rest :=
    List.takeWhile_append_dropWhile
  rw [h, List.append_cancel_left_eq] at hsplit
  have hhead := List.head?_dropWhile_not p (cs ++ rest)
  rw [hsplit, hc] at hhead
  exact hhead

/-- A token is cut only where it ends. -/
theorem endsBefore_of_lexemeAt {kind : TokenKind} {c : Char} {cs rest : List Char}
    (h : lexemeAt c (cs ++ rest) = .token kind (c :: cs)) : kind.EndsBefore (c :: cs) rest := by
  unfold lexemeAt at h
  split at h
  · next s hsymbol =>
    obtain ⟨rfl, hchars⟩ := Lexeme.token.inj h
    rw [← List.cons_append, ← hchars] at hsymbol
    exact head?_of_symbolAt? hsymbol
  · split at h
    · cases h
    · split at h
      · next hc =>
        unfold numeralAt at h
        split at h
        · cases h
        · next n hread =>
          split at h
          · cases h
          · obtain ⟨rfl, hchars⟩ := Lexeme.token.inj h
            intro n' hn' hchars'
            have hn := Numeral.wellFormed_of_read hc hread
            obtain rfl : n = n' := hn.unique hn' (hchars.trans hchars'.symm)
            rw [← List.cons_append, ← hchars] at hread
            exact Numeral.endsBefore_of_read hread
      · split at h
        · obtain ⟨rfl, hchars⟩ := Lexeme.token.inj h
          exact head?_of_takeWhile (List.cons.inj hchars).2
        · cases h

/-- A token is cut from a text if and only if it is written there and does not go on. -/
theorem lexemeAt_eq_token_iff {kind : TokenKind} {c : Char} {cs rest : List Char}
    (hblank : Text.isBlank c = false) :
    lexemeAt c (cs ++ rest) = .token kind (c :: cs) ↔
      kind.Spelled (c :: cs) ∧ kind.EndsBefore (c :: cs) rest :=
  ⟨fun h => ⟨(spelled_of_lexemeAt hblank h).1, endsBefore_of_lexemeAt h⟩,
    fun h => lexemeAt_of_endsBefore h.1 h.2⟩

theorem lexemeAt_of_spelled {kind : TokenKind} {c : Char} {cs rest : List Char}
    (h : kind.Spelled (c :: cs)) (hrest : Breaks rest) :
    lexemeAt c (cs ++ rest) = .token kind (c :: cs) :=
  lexemeAt_of_endsBefore h (hrest.endsBefore kind (c :: cs))

namespace TokenKind.Spelled

variable {cs : List Char} {kind kind' : TokenKind}

theorem ne_nil (h : kind.Spelled cs) : cs ≠ [] := by
  rintro rfl
  cases kind with
  | number x =>
    obtain ⟨n, hn, hchars, -⟩ := h
    obtain ⟨c, cs, hchars', -⟩ := hn.head_chars
    rw [hchars] at hchars'
    cases hchars'
  | name text => cases h.2
  | symbol s => exact s.chars_ne_nil h
  | stop => exact h

/-- The characters of a token determine its kind. -/
theorem unique (h : kind.Spelled cs) (h' : kind'.Spelled cs) : kind = kind' := by
  obtain ⟨c, cs, rfl⟩ := List.exists_cons_of_ne_nil h.ne_nil
  have hcut := lexemeAt_of_spelled h breaks_nil
  rw [lexemeAt_of_spelled h' breaks_nil] at hcut
  exact (Lexeme.token.inj hcut).1.symm

end TokenKind.Spelled

end Reckon
