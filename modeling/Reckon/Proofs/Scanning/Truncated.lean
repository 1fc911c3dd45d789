import Mathlib.Data.List.Basic
import Reckon.Proofs.Scanning.Joined

/-!
# What stands in front of a fault

A token is cut with a look at the characters behind it. Where a text is cut off in front of a fault,
those characters may be missing, but none comes in their place.

* `TokenKind.EndsBefore.of_append`: a token that does not go on with a text does not go on with the
  beginning of that text, either.
* `Scanner.Stops.truncated`: so the tokens in front of a fault are read again from what stands in
  front of it.
* `Scanner.answers`: what the scanner answers when it is asked for a token so many times.
* `scan_before_fault`: a fault leaves all that stands in front of it valid.
-/

namespace Reckon

/-! ## The beginning of what follows -/

section Beginning

variable {before after : List Char}

theorem Numeral.EndsBefore.of_append {n : Numeral} (h : n.EndsBefore (before ++ after)) :
    n.EndsBefore before :=
  ⟨fun c hc => h.digit c (List.mem_head?_append_of_mem_head? hc),
    fun hfraction hexponent c hc =>
      h.point hfraction hexponent c (List.mem_head?_append_of_mem_head? hc),
    fun hexponent c hc => h.marker hexponent c (List.mem_head?_append_of_mem_head? hc)⟩

theorem TokenKind.EndsBefore.of_append {kind : TokenKind} {cs : List Char}
    (h : kind.EndsBefore cs (before ++ after)) : kind.EndsBefore cs before := by
  cases kind with
  | number x => exact fun n hn hchars => (h n hn hchars).of_append
  | name text => exact fun c hc => h c (List.mem_head?_append_of_mem_head? hc)
  | symbol s => exact fun hs c hc => h hs c (List.mem_head?_append_of_mem_head? hc)
  | stop => trivial

/-- A token is cut in the same way from a text that is cut off behind it. -/
theorem lexemeAt_of_append {kind : TokenKind} {c : Char} {cs : List Char}
    (hblank : Text.isBlank c = false)
    (h : lexemeAt c (cs ++ (before ++ after)) = .token kind (c :: cs)) :
    lexemeAt c (cs ++ before) = .token kind (c :: cs) := by
  obtain ⟨hspelled, hends⟩ := (lexemeAt_eq_token_iff hblank).1 h
  exact (lexemeAt_eq_token_iff hblank).2 ⟨hspelled, hends.of_append⟩

end Beginning

namespace Scanner

variable {s : Scanner} {ts : List Token} {e : ScanError}

/-- In front of a fault there is a text from which the same tokens are read. -/
theorem Stops.truncated (h : s.Stops ts e) :
    ∃ before c after, s.rest = before ++ c :: after ∧
      e.position = s.position + before.length ∧
      (mk before s.position).Reads (ts ++ [.stopAt e.position]) := by
  induction h with
  | @fault s c cs cause read left lexeme =>
    obtain ⟨gap, hgap, hrest, hposition⟩ := exists_blanks left
    refine ⟨gap, c, cs, hrest, hposition, ?_⟩
    have hskip : (mk gap s.position).skipBlanks = ⟨[], s.skipBlanks.position⟩ := by
      rw [hposition, ← skipBlanks_append hgap (by simp) s.position, List.append_nil]
    have hstop := Reads.stop (congrArg rest hskip)
    rwa [hskip] at hstop
  | @token s c cs kind chars ts e left lexeme _ ih =>
    obtain ⟨before, d, after, hleft, hposition, hreads⟩ := ih
    obtain ⟨gap, hgap, hrest, hstart⟩ := exists_blanks left
    have hblank := not_isBlank_of_skipBlanks left
    obtain ⟨hspelled, tail, htail⟩ := spelled_of_lexemeAt hblank lexeme
    -- What is left behind the token is what the rest of the scan was given.
    obtain rfl : tail = before ++ d :: after := by
      rw [← hleft, advance, left, ← htail, List.drop_left]
    obtain ⟨c', ds, rfl⟩ := List.exists_cons_of_ne_nil hspelled.ne_nil
    rw [List.cons_append, List.cons.injEq] at htail
    obtain ⟨rfl, rfl⟩ := htail
    refine ⟨gap ++ (c' :: (ds ++ before)), d, after, ?_, ?_, ?_⟩
    · rw [hrest, List.append_assoc, List.cons_append, List.append_assoc]
    · rw [hposition, advance, hstart]
      simp only [List.length_append, List.length_cons]
      omega
    · have hskip : (mk (gap ++ (c' :: (ds ++ before))) s.position).skipBlanks =
          ⟨c' :: (ds ++ before), s.skipBlanks.position⟩ := by
        rw [hstart]
        refine skipBlanks_append hgap ?_ s.position
        rintro x ⟨⟩
        exact hblank
      have hnext : (mk (c' :: (ds ++ before)) s.skipBlanks.position).advance (c' :: ds).length =
          ⟨before, (s.skipBlanks.advance (c' :: ds).length).position⟩ := by
        rw [advance, ← List.cons_append, List.drop_left]
        rfl
      rw [← hnext, ← hskip] at hreads
      have hread := Reads.token (congrArg rest hskip) (lexemeAt_of_append hblank lexeme) hreads
      rwa [hskip] at hread

/-! ## Answers -/

/-- What the scanner answers when it is asked for a token so many times. -/
def answers : Nat → Scanner → List (Except ScanError Token)
  | 0, _ => []
  | count + 1, s => s.next.1 :: answers count s.next.2

theorem next_of_fault {c : Char} {cs : List Char} {cause : ScanFault} {read : Nat}
    (h : s.skipBlanks.rest = c :: cs) (hlex : lexemeAt c cs = .fault cause read) :
    s.next = (.error ⟨cause, s.skipBlanks.position⟩, s.skipBlanks.advance read) := by
  unfold next
  simp only [h, hlex]

/-- A scan that stops has asked for the tokens and then for the fault. -/
theorem Stops.answers_eq (h : s.Stops ts e) :
    (∀ t ∈ ts, t.isStop = false) ∧ s.answers (ts.length + 1) = ts.map .ok ++ [.error e] := by
  induction h with
  | fault left lexeme =>
    refine ⟨fun t ht => absurd ht List.not_mem_nil, ?_⟩
    simp only [List.length_nil, answers, next_of_fault left lexeme]
    rfl
  | token left lexeme _ ih =>
    obtain ⟨hstop, hanswers⟩ := ih
    have hproper := proper_of_lexemeAt (not_isBlank_of_skipBlanks left) lexeme
    refine ⟨List.forall_mem_cons.2 ⟨isStop_of_proper hproper _ _, hstop⟩, ?_⟩
    rw [List.length_cons, answers, next_of_token left lexeme, hanswers]
    rfl

end Scanner

/-- A fault leaves all that stands in front of it valid: it is found at a character of the text, and
what stands in front of that character is scanned to the tokens that were read before the fault. -/
theorem scan_before_fault {text : String} {e : ScanError} (h : scan text = .error e) :
    e.position < text.length ∧
      ∃ ts : List Token, (∀ t ∈ ts, t.isStop = false) ∧
        (Scanner.ofText text).answers (ts.length + 1) = ts.map .ok ++ [.error e] ∧
        scan (String.ofList (text.toList.take e.position)) = .ok (ts ++ [.stopAt e.position]) := by
  obtain ⟨ts, hstops⟩ := Scanner.stops_of_tokens h
  obtain ⟨before, c, after, hrest, hposition, hreads⟩ := hstops.truncated
  obtain ⟨hstop, hanswers⟩ := hstops.answers_eq
  have htext : text.toList = before ++ c :: after := hrest
  have hposition : e.position = before.length := hposition.trans (Nat.zero_add _)
  refine ⟨?_, ts, hstop, hanswers, ?_⟩
  · rw [← String.length_toList, htext, hposition, List.length_append, List.length_cons]
    omega
  · rw [htext, hposition, List.take_left, ← hposition, scan, Scanner.ofText,
      String.toList_ofList]
    exact hreads.tokens_eq_ok

/-- The point that ends the exponent and the equality sign that `<` is without are cut off. -/
theorem scan_before_fault_point :
    let e : ScanError := ⟨.malformedNumber ['.'] .noFractionDigit, 6⟩
    scan " x<1e1.=" = .error e ∧
      e.position < " x<1e1.=".length ∧
        ∃ ts : List Token, (∀ t ∈ ts, t.isStop = false) ∧
          (Scanner.ofText " x<1e1.=").answers (ts.length + 1) = ts.map .ok ++ [.error e] ∧
          scan (String.ofList (" x<1e1.=".toList.take e.position)) =
            .ok (ts ++ [.stopAt e.position]) := by
  intro e
  have hscan : scan " x<1e1.=" = .error e :=
    Scanner.Stops.tokens_eq_error (.token rfl rfl <| .token rfl rfl <| .token rfl rfl <|
      .fault rfl rfl)
  exact ⟨hscan, scan_before_fault hscan⟩

end Reckon
