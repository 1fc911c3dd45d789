import Mathlib.Data.List.TakeWhile
import Reckon.Proofs.Scanning.Faults
import Reckon.Proofs.Scanning.Spacing

/-!
# Texts with blanks between them

The scanner looks ahead within a token, and no token has a blank in it. What stands behind a blank
therefore has no influence on what is cut in front of it, and what is cut behind it depends on the
text there alone, up to the position.

* `BlankNext rest`: the text `rest` is empty or begins with a blank. `BlankNext.lexemeAt_append`:
  a token or a fault is cut from a text in the same way when such a `rest` follows.
* `Scanner.extend`, `Scanner.behind`: a scanner with more text behind what it has left, and that
  scanner when it gets there. `Scanner.Reads.tokens_extend`, `Scanner.Stops.extend`: what it does.
* `Token.moved`, `ScanError.moved`, `Scanner.moved`: so many characters farther on.
  `Scanner.Reads.moved`, `Scanner.Stops.moved`: a scanner does there what it does at the beginning.
* `scan_append`: two texts with blanks between them have the tokens of the first one and those of
  the second one, or the fault of the first one that has a fault.
-/

namespace Reckon

/-! ## What is cut in front of a blank -/

/-- The text ends here or goes on with a blank. -/
def BlankNext (rest : List Char) : Prop := ∀ c ∈ rest.head?, Text.isBlank c = true

theorem takeWhile_append_of_head {p : Char → Bool} {rest : List Char}
    (h : ∀ c ∈ rest.head?, p c = false) (cs : List Char) :
    (cs ++ rest).takeWhile p = cs.takeWhile p := by
  induction cs with
  | nil =>
    cases rest with
    | nil => rfl
    | cons c rest => simp [h c rfl]
  | cons c cs ih => simp only [List.cons_append, List.takeWhile_cons, ih]

theorem dropWhile_append_of_head {p : Char → Bool} {rest : List Char}
    (h : ∀ c ∈ rest.head?, p c = false) (cs : List Char) :
    (cs ++ rest).dropWhile p = cs.dropWhile p ++ rest := by
  induction cs with
  | nil =>
    cases rest with
    | nil => rfl
    | cons c rest => simp [h c rfl]
  | cons c cs ih =>
    simp only [List.cons_append, List.dropWhile_cons, ih]
    split <;> rfl

theorem symbolAt?_of_single {c d : Char} (cs : List Char) (hequal : d ≠ '=') (hand : d ≠ '&')
    (hor : d ≠ '|') : symbolAt? (c :: d :: cs) = symbolAt? [c] := by
  unfold symbolAt?
  grind

/-- A symbol has two characters at the most. -/
theorem symbolAt?_pair (c d : Char) (cs : List Char) :
    symbolAt? (c :: d :: cs) = symbolAt? [c, d] := by
  by_cases hd : d = '=' ∨ d = '&' ∨ d = '|'
  · rcases hd with rfl | rfl | rfl <;> unfold symbolAt? <;> grind
  · obtain ⟨hequal, hand, hor⟩ : d ≠ '=' ∧ d ≠ '&' ∧ d ≠ '|' := by simpa using hd
    rw [symbolAt?_of_single cs hequal hand hor, symbolAt?_of_single [] hequal hand hor]

namespace BlankNext

variable {rest : List Char} (h : BlankNext rest)

include h

theorem ne {d : Char} (hd : Text.isBlank d = false) : ∀ c ∈ rest.head?, c ≠ d := by
  rintro c hc rfl
  rw [h c hc] at hd
  cases hd

/-- A class without blanks does not go on with the text. -/
theorem eq_false {p : Char → Bool} (hp : ∀ c, p c = true → Text.isBlank c = false) :
    ∀ c ∈ rest.head?, p c = false := by
  intro c hc
  apply Bool.eq_false_iff.2
  intro hpc
  exact h.ne (hp c hpc) c hc rfl

theorem symbolAt?_append (c : Char) (cs : List Char) :
    symbolAt? (c :: (cs ++ rest)) = symbolAt? (c :: cs) := by
  cases cs with
  | cons d cs => rw [List.cons_append, symbolAt?_pair, symbolAt?_pair c d cs]
  | nil =>
    cases rest with
    | nil => rfl
    | cons d rest =>
      exact symbolAt?_of_single rest (h.ne (by decide) d rfl) (h.ne (by decide) d rfl)
        (h.ne (by decide) d rfl)

theorem spanDigits_append (cs : List Char) :
    Numeral.spanDigits (cs ++ rest) =
      ((Numeral.spanDigits cs).1, (Numeral.spanDigits cs).2 ++ rest) := by
  have hdigit := h.eq_false fun _ => not_isBlank_of_isDigit
  rw [Numeral.spanDigits, takeWhile_append_of_head hdigit, dropWhile_append_of_head hdigit]
  rfl

theorem readFraction_append (cs : List Char) :
    Numeral.readFraction (cs ++ rest) =
      (Numeral.readFraction cs).map fun (fraction, after) => (fraction, after ++ rest) := by
  cases cs with
  | nil => exact Numeral.readFraction_none (h.ne (by decide))
  | cons c cs =>
    by_cases hc : c = '.'
    · subst hc
      simp only [List.cons_append, Numeral.readFraction, h.spanDigits_append]
      split <;> rfl
    · have hpoint (tail : List Char) :
          Numeral.readFraction (c :: tail) = .ok (none, c :: tail) := by
        apply Numeral.readFraction_none
        rintro d ⟨⟩
        exact hc
      rw [List.cons_append, hpoint, hpoint]
      rfl

theorem readSign_append (cs : List Char) :
    Numeral.readSign (cs ++ rest) = ((Numeral.readSign cs).1, (Numeral.readSign cs).2 ++ rest) := by
  cases cs with
  | nil =>
    cases rest with
    | nil => rfl
    | cons c rest =>
      have hplus : c ≠ '+' := h.ne (by decide) c rfl
      have hminus : c ≠ '-' := h.ne (by decide) c rfl
      simp [Numeral.readSign, hplus, hminus]
  | cons c cs =>
    rw [List.cons_append]
    unfold Numeral.readSign
    grind

theorem readExponent_append (cs : List Char) :
    Numeral.readExponent (cs ++ rest) = Numeral.readExponent cs := by
  cases cs with
  | nil =>
    exact Numeral.readExponent_none fun c hc => ⟨h.ne (by decide) c hc, h.ne (by decide) c hc⟩
  | cons c cs =>
    simp only [List.cons_append, Numeral.readExponent, h.readSign_append, h.spanDigits_append]

theorem read_append (cs : List Char) : Numeral.read (cs ++ rest) = Numeral.read cs := by
  simp only [Numeral.read, h.spanDigits_append, h.readFraction_append]
  rcases Numeral.readFraction (Numeral.spanDigits cs).2 with _ | ⟨fraction, after⟩
  · rfl
  · simp only [Except.map, h.readExponent_append]

/-- What is cut from a text, a token or a fault, does not depend on what stands behind a blank. -/
theorem lexemeAt_append (c : Char) (cs : List Char) : lexemeAt c (cs ++ rest) = lexemeAt c cs := by
  have hnumeral : numeralAt (c :: (cs ++ rest)) = numeralAt (c :: cs) := by
    rw [numeralAt, ← List.cons_append, h.read_append]
    rfl
  have hname := takeWhile_append_of_head (h.eq_false fun _ => not_isBlank_of_continuesName) cs
  simp only [lexemeAt, h.symbolAt?_append, hnumeral, hname]

end BlankNext

/-! ## Longer texts -/

namespace Scanner

/-- The scanner with more text behind what it has left. -/
def extend (s : Scanner) (rest : List Char) : Scanner := ⟨s.rest ++ rest, s.position⟩

/-- The scanner that has read what was left, with more text behind. -/
def behind (s : Scanner) (rest : List Char) : Scanner := ⟨rest, s.position + s.rest.length⟩

variable {s : Scanner} {rest : List Char}

theorem extend_advance {count : Nat} (hcount : count ≤ s.rest.length) :
    (s.extend rest).advance count = (s.advance count).extend rest := by
  simp only [advance, extend, List.drop_append_of_le_length hcount]

theorem behind_advance {count : Nat} (hcount : count ≤ s.rest.length) :
    (s.advance count).behind rest = s.behind rest := by
  simp only [advance, behind, List.length_drop, mk.injEq, true_and]
  omega

theorem behind_skipBlanks : s.skipBlanks.behind rest = s.behind rest := by
  rw [skipBlanks_eq]
  exact behind_advance (List.takeWhile_prefix _).length_le

/-- The blanks that are skipped in front of a character. -/
theorem exists_blanks {c : Char} {cs : List Char} (h : s.skipBlanks.rest = c :: cs) :
    ∃ gap, (∀ d ∈ gap, Text.isBlank d = true) ∧ s.rest = gap ++ c :: cs ∧
      s.skipBlanks.position = s.position + gap.length := by
  refine ⟨s.rest.takeWhile Text.isBlank, List.all_eq_true.1 List.all_takeWhile, ?_, rfl⟩
  have hsplit : s.rest.takeWhile Text.isBlank ++ s.skipBlanks.rest = s.rest :=
    List.takeWhile_append_dropWhile
  rw [← h, hsplit]

theorem skipBlanks_extend {c : Char} {cs : List Char} (h : s.skipBlanks.rest = c :: cs)
    (rest : List Char) :
    (s.extend rest).skipBlanks = s.skipBlanks.extend rest ∧
      (s.extend rest).skipBlanks.rest = c :: (cs ++ rest) := by
  obtain ⟨gap, hgap, hsplit, hposition⟩ := exists_blanks h
  have hhead : ∀ d ∈ (c :: (cs ++ rest)).head?, Text.isBlank d = false := by
    rintro d ⟨⟩
    exact not_isBlank_of_skipBlanks h
  rw [extend, hsplit, List.append_assoc, List.cons_append, skipBlanks_append hgap hhead, extend, h,
    hposition]
  exact ⟨rfl, rfl⟩

theorem skipBlanks_extend_of_nil (h : s.skipBlanks.rest = []) (rest : List Char) :
    (s.extend rest).skipBlanks = (s.behind rest).skipBlanks :=
  skipBlanks_of_blanks (List.dropWhile_eq_nil_iff.1 h) rest s.position

/-- Where only blanks are left, the scanner goes on to the end. -/
theorem position_skipBlanks_of_nil (h : s.skipBlanks.rest = []) :
    s.skipBlanks.position = s.position + s.rest.length := by
  have hall : s.rest.takeWhile Text.isBlank = s.rest :=
    List.takeWhile_eq_self_iff.2 (List.dropWhile_eq_nil_iff.1 h)
  rw [skipBlanks, hall]

/-- The tokens in front of a blank are those of the text that ends there, and the scanner goes on
behind it. -/
theorem Reads.tokens_extend {all : List Token} (hs : s.Reads all) (hrest : BlankNext rest) :
    ∃ ts, all = ts ++ [.stopAt (s.position + s.rest.length)] ∧
      (s.extend rest).tokens = (s.behind rest).tokens.map (ts ++ ·) := by
  induction hs with
  | @stop s hnil =>
    refine ⟨[], by rw [position_skipBlanks_of_nil hnil]; rfl, ?_⟩
    rw [tokens_congr (skipBlanks_extend_of_nil hnil rest)]
    cases (s.behind rest).tokens <;> rfl
  | @token s c cs kind chars ts hleft hlex _ ih =>
    have hblank := not_isBlank_of_skipBlanks hleft
    have hcount : chars.length ≤ s.skipBlanks.rest.length :=
      hleft ▸ length_le_of_lexemeAt hblank hlex
    have hbehind : (s.skipBlanks.advance chars.length).behind rest = s.behind rest :=
      (behind_advance hcount).trans behind_skipBlanks
    obtain ⟨ts, rfl, htokens⟩ := ih
    rw [hbehind] at htokens
    have hstop : (s.skipBlanks.advance chars.length).position +
        (s.skipBlanks.advance chars.length).rest.length = s.position + s.rest.length :=
      congrArg position hbehind
    refine ⟨_ :: ts, by rw [hstop]; rfl, ?_⟩
    obtain ⟨hskip, hleft'⟩ := skipBlanks_extend hleft rest
    have hnext := next_of_token hleft' ((hrest.lexemeAt_append c cs).trans hlex)
    rw [tokens_of_token hnext (isStop_of_proper (proper_of_lexemeAt hblank hlex) _ _), hskip,
      extend_advance hcount, htokens]
    cases (s.behind rest).tokens <;> rfl

theorem Stops.extend {ts : List Token} {e : ScanError} (hs : s.Stops ts e)
    (hrest : BlankNext rest) : (s.extend rest).Stops ts e := by
  induction hs with
  | @fault s c cs cause read hleft hlex =>
    obtain ⟨hskip, hleft'⟩ := skipBlanks_extend hleft rest
    have hstops := Stops.fault hleft' ((hrest.lexemeAt_append c cs).trans hlex)
    rwa [hskip] at hstops
  | @token s c cs kind chars ts e hleft hlex _ ih =>
    obtain ⟨hskip, hleft'⟩ := skipBlanks_extend hleft rest
    have hcount : chars.length ≤ s.skipBlanks.rest.length :=
      hleft ▸ length_le_of_lexemeAt (not_isBlank_of_skipBlanks hleft) hlex
    rw [← extend_advance hcount, ← hskip] at ih
    have hstops := Stops.token hleft' ((hrest.lexemeAt_append c cs).trans hlex) ih
    rwa [hskip] at hstops

end Scanner

/-! ## Texts farther on -/

/-- The token with so many more characters in front of its text. -/
def Token.moved (count : Nat) (t : Token) : Token := { t with position := count + t.position }

/-- The error with so many more characters in front of its text. -/
def ScanError.moved (count : Nat) (e : ScanError) : ScanError :=
  { e with position := count + e.position }

namespace Scanner

/-- The scanner with so many more characters in front of its text. -/
def moved (count : Nat) (s : Scanner) : Scanner := ⟨s.rest, count + s.position⟩

variable {s : Scanner} {ts : List Token}

theorem moved_skipBlanks (count : Nat) (s : Scanner) :
    (s.moved count).skipBlanks = s.skipBlanks.moved count := by
  simp only [skipBlanks, moved, Nat.add_assoc]

theorem moved_advance (count read : Nat) (s : Scanner) :
    (s.moved count).advance read = (s.advance read).moved count := by
  simp only [advance, moved, Nat.add_assoc]

theorem Reads.moved (h : s.Reads ts) (count : Nat) :
    (s.moved count).Reads (ts.map (Token.moved count)) := by
  induction h with
  | @stop s hnil =>
    have hskip := moved_skipBlanks count s
    have hreads := Reads.stop ((congrArg rest hskip).trans hnil)
    rwa [hskip] at hreads
  | @token s c cs kind chars ts hleft hlex _ ih =>
    have hskip := moved_skipBlanks count s
    rw [← moved_advance, ← hskip] at ih
    have hreads := Reads.token ((congrArg rest hskip).trans hleft) hlex ih
    rwa [hskip] at hreads

theorem Stops.moved {e : ScanError} (h : s.Stops ts e) (count : Nat) :
    (s.moved count).Stops (ts.map (Token.moved count)) (e.moved count) := by
  induction h with
  | @fault s c cs cause read hleft hlex =>
    have hskip := moved_skipBlanks count s
    have hstops := Stops.fault ((congrArg rest hskip).trans hleft) hlex
    rwa [hskip] at hstops
  | @token s c cs kind chars ts e hleft hlex _ ih =>
    have hskip := moved_skipBlanks count s
    rw [← moved_advance, ← hskip] at ih
    have hstops := Stops.token ((congrArg rest hskip).trans hleft) hlex ih
    rwa [hskip] at hstops

/-- Behind blanks, a text is cut as it is on its own. -/
theorem tokens_behind_blanks {gap : String} (hgap : Blanks gap) (text : String) (position : Nat) :
    (mk (gap.toList ++ text.toList) position).tokens =
      ((ofText text).moved (position + gap.length)).tokens := by
  rw [tokens_congr (skipBlanks_of_blanks hgap text.toList position), String.length_toList]
  rfl

end Scanner

/-! ## Two texts -/

/-- Two texts with blanks between them: a fault of the first one is found, and otherwise its tokens
come first, and the tokens or the fault of the second one farther on. -/
theorem scan_append (first gap second : String) (hgap : Blanks gap) (hne : gap ≠ "") :
    (∀ e, scan first = .error e → scan (first ++ gap ++ second) = .error e) ∧
      ∀ all, scan first = .ok all → ∃ ts, all = ts ++ [.stopAt first.length] ∧
        (∀ others, scan second = .ok others → scan (first ++ gap ++ second) =
          .ok (ts ++ others.map (Token.moved (first ++ gap).length))) ∧
        ∀ e, scan second = .error e →
          scan (first ++ gap ++ second) = .error (e.moved (first ++ gap).length) := by
  have hnext : BlankNext (gap.toList ++ second.toList) := by
    obtain ⟨c, cs, hcs⟩ := List.exists_cons_of_ne_nil (mt String.toList_eq_nil_iff.1 hne)
    rw [hcs]
    rintro d ⟨⟩
    exact hgap c (hcs ▸ List.mem_cons_self)
  have hscan : scan (first ++ gap ++ second) =
      ((Scanner.ofText first).extend (gap.toList ++ second.toList)).tokens := by
    rw [scan, Scanner.ofText, String.toList_append, String.toList_append, List.append_assoc]
    rfl
  constructor
  · intro e hfirst
    obtain ⟨ts, hstops⟩ := Scanner.stops_of_tokens hfirst
    rw [hscan]
    exact (hstops.extend hnext).tokens_eq_error
  · intro all hfirst
    obtain ⟨ts, hall, htokens⟩ := (Scanner.reads_of_tokens hfirst).tokens_extend hnext
    have hstop : (Scanner.ofText first).position + (Scanner.ofText first).rest.length =
        first.length := by
      rw [Scanner.ofText, Nat.zero_add, String.length_toList]
    rw [hstop] at hall
    rw [Scanner.behind, hstop, Scanner.tokens_behind_blanks hgap, ← String.length_append]
      at htokens
    refine ⟨ts, hall, ?_, ?_⟩
    · intro others hsecond
      rw [hscan, htokens, ((Scanner.reads_of_tokens hsecond).moved _).tokens_eq_ok]
      rfl
    · intro e hsecond
      obtain ⟨ts', hstops⟩ := Scanner.stops_of_tokens hsecond
      rw [hscan, htokens, (hstops.moved _).tokens_eq_error]
      rfl

/-- A blank within `<=` leaves half an operator behind, and one within `1.5` half a numeral in
front. -/
theorem scan_append_halves :
    let gap := "\u3000\t"
    let before : List Token := [⟨.name "x", "x", 0⟩, ⟨.symbol .less, "<", 1⟩]
    let half : ScanError := ⟨.malformedNumber ['1', '.'] .noFractionDigit, 0⟩
    Blanks gap ∧ gap ≠ "" ∧
      scan "x<" = .ok (before ++ [.stopAt 2]) ∧
      scan "=1." = .error ⟨.incompleteOperator '=' .equal, 0⟩ ∧
      scan ("x<" ++ gap ++ "=1.") = .error ⟨.incompleteOperator '=' .equal, 4⟩ ∧
      scan "5" = .ok [⟨.number ⟨5, 0⟩, "5", 0⟩, .stopAt 1] ∧
      scan ("x<" ++ gap ++ "5") = .ok (before ++ [⟨.number ⟨5, 0⟩, "5", 4⟩, .stopAt 5]) ∧
      scan "1." = .error half ∧ scan ("1." ++ gap ++ "5") = .error half := by
  intro gap before half
  have hgap : Blanks gap := by decide
  have hne : gap ≠ "" := by decide
  have hless : scan "x<" = .ok (before ++ [.stopAt 2]) :=
    Scanner.Reads.tokens_eq_ok (.token rfl rfl <| .token rfl rfl <| .stop rfl)
  have hequal : scan "=1." = .error ⟨.incompleteOperator '=' .equal, 0⟩ :=
    Scanner.Stops.tokens_eq_error (.fault rfl rfl)
  have hfive : scan "5" = .ok [⟨.number ⟨5, 0⟩, "5", 0⟩, .stopAt 1] :=
    Scanner.Reads.tokens_eq_ok (.token rfl rfl <| .stop rfl)
  have hone : scan "1." = .error half := Scanner.Stops.tokens_eq_error (.fault rfl rfl)
  obtain ⟨_, -, -, herror⟩ := (scan_append "x<" gap "=1." hgap hne).2 _ hless
  obtain ⟨ts, hts, hok, -⟩ := (scan_append "x<" gap "5" hgap hne).2 _ hless
  obtain rfl : before = ts := List.append_cancel_right hts
  have hlength : ("x<" ++ gap).length = 4 := by decide
  rw [hlength] at herror hok
  exact ⟨hgap, hne, hless, hequal, herror _ hequal, hfive, hok _ hfive, hone,
    (scan_append "1." gap "5" hgap hne).1 _ hone⟩

end Reckon
