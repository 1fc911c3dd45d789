import Mathlib.Logic.Function.Iterate
import Reckon.Proofs.Scanning.Truncated

/-!
# A scanner that is asked time and again

A scanner may be used after an error, and then it goes on where the error left it: in front of the
character that it cannot make anything of, or behind the characters of a numeral that is broken off.

* `ScanFault.Blocks`: the faults that the scanner does not get past. `blocks_iff_of_lexemeAt`: it has
  read nothing of these and something of all others, and no more than there is.
* `Scanner.Call`, `Scanner.call_next`: what a call comes to. `Scanner.At.next`: the scanner stays in
  the text.
* `Scanner.Settled`: a call takes nothing but blanks away. `Settled.answers_eq`: then it is answered
  in the same way from there on. `At.settled_after`: so it is after as many calls as there are
  characters.
* `Scanner.calls_settle`: the cursor and the answers, over any use.
-/

namespace Reckon

/-! ## Faults -/

/-- The scanner stays in front of the fault: at a character that begins no token, at half an
operator, or at a point on its own. -/
def ScanFault.Blocks : ScanFault → Prop
  | .malformedNumber lexeme _ => lexeme = ['.']
  | _ => True

namespace Numeral

/-- A point needs digits behind it. -/
theorem WellFormed.chars_ne_point {n : Numeral} (h : n.WellFormed) : n.chars ≠ ['.'] := by
  obtain ⟨whole, fraction, exponent⟩ := n
  intro hchars
  cases whole with
  | cons d ds =>
    obtain ⟨rfl, -⟩ := List.cons.inj hchars
    exact absurd (h.isDigit_whole '.' List.mem_cons_self) (by decide)
  | nil =>
    cases fraction with
    | none => exact absurd rfl (h.mantissa.resolve_left fun hne => hne rfl)
    | some ds =>
      obtain ⟨-, hrest⟩ := List.cons.inj hchars
      exact (h.fraction ds rfl).1 (List.append_eq_nil_iff.1 hrest).1

theorem readExponent_error_ne_nil {cs read : List Char} (h : readExponent cs = .error read) :
    read ≠ [] := by
  unfold readExponent at h
  split at h
  · split at h
    · simp only at h
      split at h
      · obtain rfl := Except.error.inj h
        exact List.cons_ne_nil _ _
      · cases h
    · cases h
  · cases h

theorem read_error_ne_nil {cs read : List Char} {fault : Fault}
    (h : Numeral.read cs = .error (fault, read)) : read ≠ [] := by
  unfold Numeral.read at h
  simp only at h
  split at h
  · obtain ⟨-, rfl⟩ := Prod.mk.inj (Except.error.inj h)
    exact List.append_ne_nil_of_right_ne_nil _ (List.cons_ne_nil _ _)
  · split at h
    · next hexponent =>
      obtain ⟨-, rfl⟩ := Prod.mk.inj (Except.error.inj h)
      exact List.append_ne_nil_of_right_ne_nil _ (readExponent_error_ne_nil hexponent)
    · cases h

end Numeral

section Faults

variable {c : Char} {cs : List Char} {cause : ScanFault} {read : Nat}

theorem blocks_iff_of_numeralAt (hc : c = '.' ∨ c.isDigit = true)
    (h : numeralAt (c :: cs) = .fault cause read) :
    (cause.Blocks ↔ read = 0) ∧ read ≤ (c :: cs).length := by
  unfold numeralAt at h
  split at h
  · next fault chars hread =>
    obtain ⟨rfl, rfl⟩ := Lexeme.fault.inj h
    obtain ⟨-, rest, hrest⟩ := Numeral.read_error_append hread
    have hpos := List.length_pos_iff.2 (Numeral.read_error_ne_nil hread)
    have hle : chars.length ≤ (c :: cs).length := List.IsPrefix.length_le ⟨rest, hrest⟩
    show (chars = ['.'] ↔ _) ∧ _
    split
    · next hpoint => exact ⟨⟨fun _ => rfl, fun _ => hpoint⟩, Nat.zero_le _⟩
    · next hpoint => exact ⟨⟨fun h => absurd h hpoint, fun h => by omega⟩, hle⟩
  · next n hread =>
    split at h
    · obtain ⟨rfl, rfl⟩ := Lexeme.fault.inj h
      obtain ⟨rest, hrest⟩ := Numeral.read_append hread
      have hpoint := (Numeral.wellFormed_of_read hc hread).chars_ne_point
      have hpos := List.length_pos_iff.2 (Numeral.chars_ne_nil hc hread)
      have hle : n.chars.length ≤ (c :: cs).length := List.IsPrefix.length_le ⟨rest, hrest⟩
      show (n.chars = ['.'] ↔ _) ∧ _
      exact ⟨⟨fun h => absurd h hpoint, fun h => by omega⟩, hle⟩
    · cases h

/-- Nothing is read of a fault that blocks the scanner, and something of all others. -/
theorem blocks_iff_of_lexemeAt (h : lexemeAt c cs = .fault cause read) :
    (cause.Blocks ↔ read = 0) ∧ read ≤ (c :: cs).length := by
  unfold lexemeAt at h
  split at h
  · cases h
  · split at h
    · obtain ⟨rfl, rfl⟩ := Lexeme.fault.inj h
      exact ⟨⟨fun _ => rfl, fun _ => trivial⟩, Nat.zero_le _⟩
    · split at h
      · next hc => exact blocks_iff_of_numeralAt hc h
      · split at h
        · cases h
        · obtain ⟨rfl, rfl⟩ := Lexeme.fault.inj h
          exact ⟨⟨fun _ => rfl, fun _ => trivial⟩, Nat.zero_le _⟩

end Faults

namespace Scanner

variable {text : List Char} {s t : Scanner}

/-! ## One call -/

/-- What a call comes to: the end, a token, a fault that blocks the scanner, or one that it gets
past. The scanner that is left has skipped blanks, and behind a token or a fault of the last kind
some characters, too. -/
inductive Call (s : Scanner) : Except ScanError Token → Scanner → Prop where
  | stop (left : s.skipBlanks.rest = []) :
      Call s (.ok (.stopAt s.skipBlanks.position)) s.skipBlanks
  | token {token : Token} {count : Nat} (proper : token.isStop = false) (pos : 0 < count)
      (le : count ≤ s.skipBlanks.rest.length) : Call s (.ok token) (s.skipBlanks.advance count)
  | blocked {cause : ScanFault} (blocks : cause.Blocks) :
      Call s (.error ⟨cause, s.skipBlanks.position⟩) s.skipBlanks
  | passed {cause : ScanFault} {count : Nat} (passes : ¬ cause.Blocks) (pos : 0 < count)
      (le : count ≤ s.skipBlanks.rest.length) :
      Call s (.error ⟨cause, s.skipBlanks.position⟩) (s.skipBlanks.advance count)

theorem call_next (s : Scanner) : s.Call s.next.1 s.next.2 := by
  cases hleft : s.skipBlanks.rest with
  | nil =>
    rw [next_of_nil hleft]
    exact .stop hleft
  | cons c cs =>
    have hblank := not_isBlank_of_skipBlanks hleft
    cases hlex : lexemeAt c cs with
    | token kind chars =>
      rw [next_of_token hleft hlex]
      have hproper := isStop_of_proper (proper_of_lexemeAt hblank hlex)
      have hpos := List.length_pos_iff.2 (lexemeAt_ne_nil hlex)
      exact .token (hproper _ _) hpos (hleft ▸ length_le_of_lexemeAt hblank hlex)
    | fault cause read =>
      rw [next_of_fault hleft hlex]
      obtain ⟨hblocks, hle⟩ := blocks_iff_of_lexemeAt hlex
      by_cases hcause : cause.Blocks
      · rw [hblocks.1 hcause]
        exact .blocked hcause
      · exact .passed hcause (Nat.pos_of_ne_zero (mt hblocks.2 hcause)) (hleft ▸ hle)

namespace Call

variable {answer : Except ScanError Token} {token : Token} {e : ScanError}

theorem at_text (h : s.Call answer t) (hs : s.At text) : t.At text := by
  cases h with
  | stop _ => exact hs.skipBlanks
  | token _ _ hle => exact hs.skipBlanks.advance hle
  | blocked _ => exact hs.skipBlanks
  | passed _ _ hle => exact hs.skipBlanks.advance hle

theorem eq_or_lt (h : s.Call answer t) : t = s.skipBlanks ∨ s.skipBlanks.position < t.position := by
  cases h with
  | stop _ => exact .inl rfl
  | token _ hpos _ => exact .inr (Nat.lt_add_of_pos_right hpos)
  | blocked _ => exact .inl rfl
  | passed _ hpos _ => exact .inr (Nat.lt_add_of_pos_right hpos)

theorem eq_of_stop (h : s.Call (.ok token) t) (hstop : token.isStop = true) :
    t = s.skipBlanks := by
  cases h with
  | stop _ => rfl
  | token hproper _ _ => exact absurd hstop (Bool.eq_false_iff.1 hproper)

theorem lt_of_proper (h : s.Call (.ok token) t) (hproper : token.isStop = false) :
    s.skipBlanks.position < t.position := by
  cases h with
  | stop _ => cases hproper
  | token _ hpos _ => exact Nat.lt_add_of_pos_right hpos

theorem eq_of_blocks (h : s.Call (.error e) t) (hblocks : e.fault.Blocks) : t = s.skipBlanks := by
  cases h with
  | blocked _ => rfl
  | passed hpasses _ _ => exact absurd hblocks hpasses

theorem lt_of_passes (h : s.Call (.error e) t) (hpasses : ¬ e.fault.Blocks) :
    e.position < t.position := by
  cases h with
  | blocked hblocks => exact absurd hblocks hpasses
  | passed _ hpos _ => exact Nat.lt_add_of_pos_right hpos

end Call

theorem At.next (h : s.At text) : s.next.2.At text := s.call_next.at_text h

theorem position_le_skipBlanks (s : Scanner) : s.position ≤ s.skipBlanks.position :=
  Nat.le_add_right _ _

theorem position_le_next (s : Scanner) : s.position ≤ s.next.2.position := by
  refine Nat.le_trans s.position_le_skipBlanks ?_
  rcases s.call_next.eq_or_lt with heq | hlt
  · exact Nat.le_of_eq (congrArg position heq.symm)
  · exact Nat.le_of_lt hlt

/-! ## Answers that stay the same -/

/-- A call takes nothing but blanks away. -/
def Settled (s : Scanner) : Prop := s.next.2 = s.skipBlanks

theorem settled_or_lt_next (s : Scanner) : s.Settled ∨ s.position < s.next.2.position :=
  s.call_next.eq_or_lt.imp_right (Nat.lt_of_le_of_lt s.position_le_skipBlanks)

theorem skipBlanks_skipBlanks (s : Scanner) : s.skipBlanks.skipBlanks = s.skipBlanks := by
  refine skipBlanks_append (List.forall_mem_nil _) ?_ s.skipBlanks.position
  intro c hc
  obtain ⟨cs, hleft⟩ := List.head?_eq_some_iff.1 hc
  exact not_isBlank_of_skipBlanks hleft

theorem next_skipBlanks (s : Scanner) : s.skipBlanks.next = s.next := by
  rw [next, skipBlanks_skipBlanks, next]

namespace Settled

variable (h : s.Settled)

include h

/-- Without its blanks, the scanner is asked the same thing again. -/
theorem next_next : s.next.2.next = s.next := by
  rw [show s.next.2 = s.skipBlanks from h, next_skipBlanks]

theorem next : s.next.2.Settled := by
  have hskip : s.next.2 = s.skipBlanks := h
  rw [Settled, h.next_next, hskip, skipBlanks_skipBlanks]

theorem answers_eq (count : Nat) : s.answers count = List.replicate count s.next.1 := by
  induction count generalizing s with
  | zero => rfl
  | succ count ih => rw [answers, ih h.next, h.next_next, List.replicate_succ]

/-- Of all tokens, only the end is answered again and again. -/
theorem isStop {token : Token} (htoken : s.next.1 = .ok token) : token.isStop = true := by
  cases hproper : token.isStop with
  | true => rfl
  | false =>
    have hlt := Call.lt_of_proper (htoken ▸ s.call_next) hproper
    exact absurd (congrArg position h) (Nat.ne_of_gt hlt)

end Settled

/-! ## Many calls -/

/-- The scanner that was asked for a token so many times. -/
def after (count : Nat) (s : Scanner) : Scanner := (fun s => s.next.2)^[count] s

theorem after_succ (count : Nat) (s : Scanner) : s.after (count + 1) = s.next.2.after count :=
  Function.iterate_succ_apply _ count s

theorem answers_append (first later : Nat) (s : Scanner) :
    s.answers (first + later) = s.answers first ++ (s.after first).answers later := by
  induction first generalizing s with
  | zero =>
    rw [Nat.zero_add]
    rfl
  | succ first ih =>
    rw [Nat.add_right_comm, answers, ih, answers, after_succ, List.cons_append]

theorem At.after (h : s.At text) (count : Nat) : (s.after count).At text := by
  induction count generalizing s with
  | zero => exact h
  | succ count ih =>
    rw [after_succ]
    exact ih h.next

theorem Settled.after (h : s.Settled) (count : Nat) : (s.after count).Settled := by
  induction count generalizing s with
  | zero => exact h
  | succ count ih =>
    rw [after_succ]
    exact ih h.next

/-- Each call that does not settle the scanner takes a character away. -/
theorem At.settled_after (h : s.At text) {count : Nat} (hcount : s.rest.length ≤ count) :
    (s.after count).Settled := by
  induction count generalizing s with
  | zero =>
    refine s.settled_or_lt_next.resolve_right fun hlt => ?_
    have hlength := h.length
    have hlength' := h.next.length
    omega
  | succ count ih =>
    rcases s.settled_or_lt_next with hsettled | hlt
    · exact hsettled.after (count + 1)
    · rw [after_succ]
      apply ih h.next
      have hlength := h.length
      have hlength' := h.next.length
      omega

/-- A scanner of any text that is asked time and again, whatever it answers. The cursor stays in
the text and never goes back. A token takes characters away, and so does a fault that the scanner
gets past; the end and all other faults are answered again from there on. After as many calls as the
text has characters, the answer is always the same one, the end or a fault. -/
theorem calls_settle (text : String) (count : Nat) :
    let s := (ofText text).after count
    s.rest = text.toList.drop s.position ∧ s.position ≤ text.length ∧
      s.position ≤ s.next.2.position ∧
      (∀ token, s.next.1 = .ok token → token.isStop = false → s.position < s.next.2.position) ∧
      (∀ token, s.next.1 = .ok token → token.isStop = true →
        ∀ later, s.answers later = List.replicate later (.ok token)) ∧
      (∀ e, s.next.1 = .error e → e.fault.Blocks →
        ∀ later, s.answers later = List.replicate later (.error e)) ∧
      (∀ e, s.next.1 = .error e → ¬ e.fault.Blocks → e.position < s.next.2.position) ∧
      ∃ answer, (∀ token, answer = .ok token → token.isStop = true) ∧
        ∀ later, (ofText text).answers (text.length + later) =
          (ofText text).answers text.length ++ List.replicate later answer := by
  intro s
  have hs : s.At text.toList := (at_ofText text).after count
  have hlast : ((ofText text).after text.length).Settled :=
    (at_ofText text).settled_after (Nat.le_of_eq String.length_toList)
  refine ⟨hs.rest.symm, ?_, s.position_le_next, ?_, ?_, ?_, ?_, _, fun token => hlast.isStop,
    fun later => ?_⟩
  · have hlength := hs.length
    rw [String.length_toList] at hlength
    omega
  · intro token htoken hproper
    have hlt := Call.lt_of_proper (htoken ▸ s.call_next) hproper
    exact Nat.lt_of_le_of_lt s.position_le_skipBlanks hlt
  · intro token htoken hstop later
    have hsettled : s.Settled := Call.eq_of_stop (htoken ▸ s.call_next) hstop
    rw [hsettled.answers_eq, htoken]
  · intro e he hblocks later
    have hsettled : s.Settled := Call.eq_of_blocks (he ▸ s.call_next) hblocks
    rw [hsettled.answers_eq, he]
  · intro e he
    exact Call.lt_of_passes (he ▸ s.call_next)
  · rw [answers_append, hlast.answers_eq]

/-- A numeral that breaks off in its exponent is left behind, and half an operator is not; what
stands behind the half operator is never read. -/
theorem calls_settle_half_exponent :
    let broken : ScanError := ⟨.malformedNumber ['1', 'e', '+'] .noExponentDigit, 1⟩
    let half : ScanError := ⟨.incompleteOperator '&' .and, 6⟩
    let s := ofText " 1e+x &|2"
    s.answers 3 = [.error broken, .ok ⟨.name "x", "x", 4⟩, .error half] ∧
      broken.position < s.next.2.position ∧ (s.after 1).position < (s.after 1).next.2.position ∧
      (∀ later, (s.after 2).answers later = List.replicate later (.error half)) ∧
      ((ofText "5 ").after 1).next.1 = .ok (.stopAt 2) ∧
      ∀ later, ((ofText "5 ").after 1).answers later = List.replicate later (.ok (.stopAt 2)) := by
  intro broken half s
  have hanswers : s.answers 3 = [.error broken, .ok ⟨.name "x", "x", 4⟩, .error half] := rfl
  obtain ⟨-, -, -, -, -, -, hpassed, -⟩ := calls_settle " 1e+x &|2" 0
  obtain ⟨-, -, -, htoken, -⟩ := calls_settle " 1e+x &|2" 1
  obtain ⟨-, -, -, -, -, hblocked, -⟩ := calls_settle " 1e+x &|2" 2
  obtain ⟨-, -, -, -, hstop, -⟩ := calls_settle "5 " 1
  have hpasses : ¬ broken.fault.Blocks := show ['1', 'e', '+'] ≠ ['.'] by decide
  exact ⟨hanswers, hpassed broken rfl hpasses, htoken _ rfl rfl, hblocked half rfl trivial,
    rfl, hstop _ rfl rfl⟩

end Scanner

end Reckon
