import Mathlib.Tactic.SplitIfs
import Reckon.Proofs.Scanning.Tokens
import Reckon.Proofs.Text.OneLine

/-!
# Faults of a scan

* `Numeral.read_error_append`: what is read of a malformed numeral stands in the text.
* `oneLine_of_lexemeAt`: so the message of a fault quotes nothing but characters of the text.
* `Scanner.Stops`, `Scanner.stops_of_tokens`, `Scanner.Stops.tokens_eq_error`: what a scanner does
  that meets a fault.
* `oneLine_of_scan`: the message for a text of one line is of one line.
-/

namespace Reckon

/-! ## Malformed numerals -/

namespace Numeral

theorem readFraction_error {cs : List Char} (h : readFraction cs = .error ()) :
    ∃ rest, cs = '.' :: rest := by
  unfold readFraction at h
  split at h
  · exact ⟨_, rfl⟩
  · cases h

theorem readExponent_error {cs read : List Char} (h : readExponent cs = .error read) :
    ∃ rest, read ++ rest = cs := by
  unfold readExponent at h
  split at h
  · next c cs =>
    split at h
    · simp only at h
      split at h
      · obtain rfl := Except.error.inj h
        exact ⟨(readSign cs).2, congrArg (c :: ·) (readSign_append cs)⟩
      · cases h
    · cases h
  · cases h

/-- What is read before a fault stands at the beginning of the text. -/
theorem read_error_append {cs read : List Char} {fault : Fault}
    (h : Numeral.read cs = .error (fault, read)) :
    (fault = .noFractionDigit ∨ fault = .noExponentDigit) ∧ ∃ rest, read ++ rest = cs := by
  have hwhole := takeWhile_append_dropWhile_digits cs
  unfold Numeral.read at h
  simp only at h
  split at h
  · next hfraction =>
    obtain ⟨rfl, rfl⟩ := Prod.mk.inj (Except.error.inj h)
    obtain ⟨rest, hrest⟩ := readFraction_error hfraction
    refine ⟨.inl rfl, rest, ?_⟩
    rw [List.append_assoc, List.singleton_append, ← hrest, hwhole]
  · next fraction afterFraction hfraction =>
    split at h
    · next read hexponent =>
      obtain ⟨rfl, rfl⟩ := Prod.mk.inj (Except.error.inj h)
      obtain ⟨rest, hrest⟩ := readExponent_error hexponent
      refine ⟨.inr rfl, rest, ?_⟩
      simp only [chars, Option.elim_none, List.append_nil, List.append_assoc, hrest,
        readFraction_append hfraction, hwhole]
    · cases h

theorem lineFeed_fullChars {n : Numeral} (h : '\n' ∉ n.chars) : '\n' ∉ n.fullChars := by
  unfold fullChars
  split
  · rw [List.mem_cons, not_or]
    exact ⟨by decide, h⟩
  · exact h

theorem Fault.oneLine_scaleOverflow {text : List Char} (h : '\n' ∉ text) :
    Text.OneLine (scaleOverflow text).reason := by
  show Text.OneLine s!"Exponent overflow when parsing '{String.ofList text}'"
  simp +decide only [Text.oneLine_append, Text.oneLine_toString, Text.oneLine_ofList, h]

theorem oneLine_reason {n : Numeral} {fault : Fault} (hfault : n.value = .error fault)
    (h : '\n' ∉ n.chars) : Text.OneLine fault.reason := by
  rw [value] at hfault
  split_ifs at hfault <;> cases hfault
  · decide
  · decide
  · exact Fault.oneLine_scaleOverflow (lineFeed_fullChars h)
  · decide

end Numeral

/-! ## Faults -/

theorem ScanError.oneLine_malformedNumber {lexeme : List Char} {fault : Numeral.Fault}
    (hlexeme : '\n' ∉ lexeme) (hreason : Text.OneLine fault.reason) (position : Nat) :
    Text.OneLine (ScanError.mk (.malformedNumber lexeme fault) position).message := by
  show Text.OneLine s!"Malformed number '{String.ofList lexeme}' at position {position}: {fault.reason}"
  simp +decide only [Text.oneLine_append, Text.oneLine_toString, Text.oneLine_ofList,
    Text.oneLine_toString_nat, hlexeme, hreason]

/-- The message of a fault quotes characters of the text. -/
theorem oneLine_of_lexemeAt {c : Char} {cs : List Char} {cause : ScanFault} {read : Nat}
    (hlex : lexemeAt c cs = .fault cause read) (h : '\n' ∉ c :: cs) (position : Nat) :
    Text.OneLine (ScanError.mk cause position).message := by
  have hc : Text.OneLine (toString c) := by
    apply Text.oneLine_toString_char
    rintro rfl
    exact h List.mem_cons_self
  unfold lexemeAt at hlex
  split at hlex
  · cases hlex
  · split at hlex
    · next expected _ =>
      cases hlex
      show Text.OneLine
        s!"Unexpected '{c}' at position {position} (did you mean '{expected.text}'?)"
      have hexpected : Text.OneLine expected.text := by cases expected <;> decide
      simp +decide only [Text.oneLine_append, Text.oneLine_toString, Text.oneLine_toString_nat, hc,
        hexpected]
    · split at hlex
      · unfold numeralAt at hlex
        split at hlex
        · next fault chars hread =>
          cases hlex
          obtain ⟨hfault, rest, hrest⟩ := Numeral.read_error_append hread
          refine ScanError.oneLine_malformedNumber (fun hmem => h ?_) ?_ position
          · rw [← hrest]
            exact List.mem_append_left _ hmem
          · rcases hfault with rfl | rfl <;> decide
        · next n hread =>
          obtain ⟨rest, hrest⟩ := Numeral.read_append hread
          have hchars : '\n' ∉ n.chars := fun hmem => h (hrest ▸ List.mem_append_left _ hmem)
          split at hlex
          · next fault hvalue =>
            cases hlex
            exact ScanError.oneLine_malformedNumber hchars (Numeral.oneLine_reason hvalue hchars)
              position
          · cases hlex
      · split at hlex
        · cases hlex
        · cases hlex
          show Text.OneLine s!"Unexpected character '{c}' at position {position}"
          simp +decide only [Text.oneLine_append, Text.oneLine_toString_nat, hc]

/-! ## Scans that stop -/

/-- The scanner reads these tokens, one after the other, and then meets a fault. -/
inductive Scanner.Stops : Scanner → List Token → ScanError → Prop where
  | fault {s : Scanner} {c cs cause read} (left : s.skipBlanks.rest = c :: cs)
      (lexeme : lexemeAt c cs = .fault cause read) : Stops s [] ⟨cause, s.skipBlanks.position⟩
  | token {s : Scanner} {c cs kind chars ts e} (left : s.skipBlanks.rest = c :: cs)
      (lexeme : lexemeAt c cs = .token kind chars)
      (stops : Stops (s.skipBlanks.advance chars.length) ts e) :
      Stops s (⟨kind, String.ofList chars, s.skipBlanks.position⟩ :: ts) e

theorem Scanner.stops_of_tokens {s : Scanner} {e : ScanError} (h : s.tokens = .error e) :
    ∃ ts, s.Stops ts e := by
  induction hn : s.rest.length using Nat.strongRecOn generalizing s with
  | ind n ih =>
    cases hrest : s.skipBlanks.rest with
    | nil =>
      rw [Scanner.tokens_eq, Scanner.next_of_nil hrest] at h
      cases h
    | cons c cs =>
      cases hlex : lexemeAt c cs with
      | fault cause read =>
        rw [Scanner.tokens_eq] at h
        simp only [Scanner.next, hrest, hlex] at h
        obtain rfl := Except.error.inj h
        exact ⟨[], .fault hrest hlex⟩
      | token kind chars =>
        have hproper := proper_of_lexemeAt (Scanner.not_isBlank_of_skipBlanks hrest) hlex
        have hnext := Scanner.next_of_token hrest hlex
        have hstop := isStop_of_proper hproper (String.ofList chars) s.skipBlanks.position
        have hlength := Scanner.length_rest_next hnext hstop
        rw [Scanner.tokens_of_token hnext hstop] at h
        cases htokens : (s.skipBlanks.advance chars.length).tokens with
        | ok ts =>
          rw [htokens] at h
          cases h
        | error e' =>
          rw [htokens] at h
          obtain rfl := Except.error.inj h
          obtain ⟨ts, hstops⟩ := ih _ (hn ▸ hlength) htokens rfl
          exact ⟨_, .token hrest hlex hstops⟩

theorem Scanner.Stops.tokens_eq_error {s : Scanner} {ts : List Token} {e : ScanError}
    (h : s.Stops ts e) : s.tokens = .error e := by
  induction h with
  | fault hrest hlex =>
    rw [Scanner.tokens_eq]
    simp only [Scanner.next, hrest, hlex]
  | token hrest hlex _ ih =>
    have hproper := proper_of_lexemeAt (Scanner.not_isBlank_of_skipBlanks hrest) hlex
    rw [Scanner.tokens_of_token (Scanner.next_of_token hrest hlex)
      (isStop_of_proper hproper _ _), ih]
    rfl

theorem Scanner.Stops.oneLine {s : Scanner} {ts : List Token} {e : ScanError} (h : s.Stops ts e)
    (hs : '\n' ∉ s.rest) : Text.OneLine e.message := by
  induction h with
  | @fault s c cs cause read left lexeme =>
    refine oneLine_of_lexemeAt lexeme (fun hmem => hs ?_) _
    have hleft : '\n' ∈ s.skipBlanks.rest := left ▸ hmem
    exact (List.dropWhile_sublist Text.isBlank).mem hleft
  | @token s c cs kind chars ts e left lexeme _ ih =>
    refine ih fun hmem => hs ?_
    exact (List.dropWhile_sublist Text.isBlank).mem (List.mem_of_mem_drop hmem)

/-- The message for a text of one line is of one line. -/
theorem oneLine_of_scan {text : String} {e : ScanError} (h : scan text = .error e)
    (htext : Text.OneLine text) : Text.OneLine e.message := by
  obtain ⟨ts, hstops⟩ := Scanner.stops_of_tokens h
  exact hstops.oneLine htext

end Reckon
