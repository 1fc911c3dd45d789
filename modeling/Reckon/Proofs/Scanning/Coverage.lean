import Reckon.Proofs.Scanning.Tokens

/-!
# Scanning loses nothing

* `Token.StandsIn`: a token has characters, none of them blank, and they stand in the text at its
  position. `Token.Covers`: a character of the text belongs to a token.
* `Covering`: tokens that stand in a text one behind the other, with blanks between them.
* `Scanner.At`: a scanner that has read a text up to its position. Skipping blanks and cutting a
  token keep it, `Scanner.At.skipBlanks` and `Scanner.At.advance`.
* `Scanner.Reads.covering`, `covering_of_scan`: so the tokens that it reads from there on cover the
  text.
* `scan_covers`: the tokens of a text cover it, and each has the one kind that its characters make.
-/

namespace Reckon

/-! ## Tokens in a text -/

namespace Token

/-- The position behind the token. -/
def finish (t : Token) : Nat := t.position + t.lexeme.length

/-- The character at the position `i` belongs to the token. -/
def Covers (t : Token) (i : Nat) : Prop := t.position ≤ i ∧ i < t.finish

/-- The token is cut from the text at its position, and is neither empty nor blank anywhere. -/
structure StandsIn (text : List Char) (t : Token) : Prop where
  ne_nil : t.lexeme.toList ≠ []
  not_isBlank : ∀ c ∈ t.lexeme.toList, Text.isBlank c = false
  there : t.lexeme.toList <+: text.drop t.position

end Token

/-- From the position `start` on, the tokens stand in the text one behind the other, and whatever
belongs to none of them is blank. -/
structure Covering (text : List Char) (start : Nat) (ts : List Token) : Prop where
  standsIn : ∀ t ∈ ts, t.StandsIn text
  starts : ∀ t ∈ ts, start ≤ t.position
  ordered : ts.Pairwise fun t u => t.finish ≤ u.position
  blank : ∀ i c, start ≤ i → text[i]? = some c → (∀ t ∈ ts, ¬ t.Covers i) →
    Text.isBlank c = true

namespace Covering

variable {text : List Char} {start : Nat} {t : Token} {ts : List Token}

theorem nil (hblank : ∀ i c, start ≤ i → text[i]? = some c → Text.isBlank c = true) :
    Covering text start [] := by
  refine ⟨?_, ?_, .nil, fun i c hi hc _ => hblank i c hi hc⟩
  · intro t ht
    cases ht
  · intro t ht
    cases ht

/-- A token in front of the others, behind nothing but blanks. -/
theorem cons (ht : t.StandsIn text) (hstart : start ≤ t.position)
    (hblank : ∀ i c, start ≤ i → i < t.position → text[i]? = some c → Text.isBlank c = true)
    (hts : Covering text t.finish ts) : Covering text start (t :: ts) := by
  refine ⟨List.forall_mem_cons.2 ⟨ht, hts.standsIn⟩, ?_, List.pairwise_cons.2
    ⟨hts.starts, hts.ordered⟩, ?_⟩
  · intro u hu
    rcases List.mem_cons.1 hu with rfl | hu
    · exact hstart
    · have hfinish := hts.starts u hu
      rw [Token.finish] at hfinish
      omega
  · intro i c hi hc hcovers
    obtain ⟨hnot, hcovers⟩ := List.forall_mem_cons.1 hcovers
    by_cases hbefore : i < t.position
    · exact hblank i c hi hbefore hc
    · apply hts.blank i c _ hc hcovers
      rw [Token.Covers] at hnot
      omega

end Covering

/-! ## The scanner in a text -/

namespace Scanner

/-- What is left of the text at the scanner's position is what the scanner has left. -/
structure At (text : List Char) (s : Scanner) : Prop where
  rest : text.drop s.position = s.rest
  length : s.position + s.rest.length = text.length

variable {text : List Char} {s : Scanner}

theorem at_ofText (text : String) : (ofText text).At text.toList := by
  refine ⟨rfl, ?_⟩
  rw [ofText, Nat.zero_add]

theorem At.advance (h : s.At text) {count : Nat} (hcount : count ≤ s.rest.length) :
    (s.advance count).At text := by
  have hlength := h.length
  constructor
  · show text.drop (s.position + count) = s.rest.drop count
    rw [← List.drop_drop, h.rest]
  · show s.position + count + (s.rest.drop count).length = text.length
    rw [List.length_drop]
    omega

theorem skipBlanks_eq (s : Scanner) :
    s.skipBlanks = s.advance (s.rest.takeWhile Text.isBlank).length := by
  have hdrop : (s.rest.takeWhile Text.isBlank ++ s.rest.dropWhile Text.isBlank).drop
      (s.rest.takeWhile Text.isBlank).length = s.rest.dropWhile Text.isBlank := List.drop_left
  rw [List.takeWhile_append_dropWhile] at hdrop
  rw [skipBlanks, advance, hdrop]

theorem At.skipBlanks (h : s.At text) : s.skipBlanks.At text := by
  rw [skipBlanks_eq]
  exact h.advance (List.takeWhile_prefix _).length_le

/-- The characters that are skipped are blanks. -/
theorem At.isBlank (h : s.At text) {i : Nat} {c : Char} (hlow : s.position ≤ i)
    (hhigh : i < s.skipBlanks.position) (hc : text[i]? = some c) : Text.isBlank c = true := by
  obtain ⟨j, rfl⟩ : ∃ j, i = s.position + j := ⟨i - s.position, by omega⟩
  have hj : j < (s.rest.takeWhile Text.isBlank).length := by
    have hhigh : s.position + j < s.position + (s.rest.takeWhile Text.isBlank).length := hhigh
    omega
  rw [← List.getElem?_drop, h.rest,
    ← List.takeWhile_append_dropWhile (p := Text.isBlank) (l := s.rest),
    List.getElem?_append_left hj] at hc
  exact List.all_eq_true.1 List.all_takeWhile c (List.mem_of_getElem? hc)

/-- The characters of the token are those at the scanner's position. -/
theorem At.standsIn (h : s.At text) {kind : TokenKind} {chars : List Char}
    (hspelled : kind.Spelled chars) (hsplit : ∃ after, chars ++ after = s.rest) :
    (Token.mk kind (String.ofList chars) s.position).StandsIn text := by
  constructor
  · rw [String.toList_ofList]
    exact hspelled.ne_nil
  · rw [String.toList_ofList]
    exact hspelled.not_isBlank
  · rw [String.toList_ofList, h.rest]
    exact hsplit

/-- The tokens that are read cover the text from the scanner's position on, up to its end. -/
theorem Reads.covering {all : List Token} (h : s.Reads all) (hs : s.At text) :
    ∃ ts, all = ts ++ [.stopAt text.length] ∧ Covering text s.position ts ∧
      ∀ t ∈ ts, t.kind.Spelled t.lexeme.toList := by
  induction h with
  | @stop s hrest =>
    have hend := hs.skipBlanks.length
    rw [hrest, List.length_nil, Nat.add_zero] at hend
    refine ⟨[], by rw [hend]; rfl, .nil fun i c hi hc => ?_, fun t ht => absurd ht List.not_mem_nil⟩
    apply hs.isBlank hi _ hc
    rw [hend]
    exact (List.getElem?_eq_some_iff.1 hc).1
  | @token s c cs kind chars ts hrest hlex _ ih =>
    have hskip := hs.skipBlanks
    have hblank := not_isBlank_of_skipBlanks hrest
    obtain ⟨hspelled, hsplit⟩ := spelled_of_lexemeAt hblank hlex
    rw [← hrest] at hsplit
    have hcount : chars.length ≤ s.skipBlanks.rest.length :=
      hrest ▸ length_le_of_lexemeAt hblank hlex
    obtain ⟨ts, rfl, hcovering, hts⟩ := ih (hskip.advance hcount)
    have hfinish : (Token.mk kind (String.ofList chars) s.skipBlanks.position).finish =
        (s.skipBlanks.advance chars.length).position := by
      rw [Token.finish, String.length_ofList]
      rfl
    rw [← hfinish] at hcovering
    refine ⟨_ :: ts, rfl, .cons (hskip.standsIn hspelled hsplit) ?_ ?_ hcovering,
      List.forall_mem_cons.2 ⟨?_, hts⟩⟩
    · rw [skipBlanks_eq]
      exact Nat.le_add_right _ _
    · intro i c hlow hhigh hc
      exact hs.isBlank hlow hhigh hc
    · rw [String.toList_ofList]
      exact hspelled

end Scanner

/-! ## The tokens of a text -/

theorem covering_of_scan {text : String} {all : List Token} (h : scan text = .ok all) :
    ∃ ts, all = ts ++ [.stopAt text.length] ∧ Covering text.toList 0 ts ∧
      ∀ t ∈ ts, t.kind.Spelled t.lexeme.toList := by
  obtain ⟨ts, rfl, hcovering, hspelled⟩ :=
    (Scanner.reads_of_tokens h).covering (Scanner.at_ofText text)
  exact ⟨ts, by rw [String.length_toList], hcovering, hspelled⟩

/-- The tokens of a text stand in it one behind the other, with nothing but blanks around them, and
its end comes last. Each has the one kind that its characters make. -/
theorem scan_covers {text : String} {all : List Token} (h : scan text = .ok all) :
    ∃ ts, all = ts ++ [.stopAt text.length] ∧ Covering text.toList 0 ts ∧
      ∀ t ∈ ts, t.isStop = false ∧
        ∀ kind : TokenKind, kind.Spelled t.lexeme.toList ↔ kind = t.kind := by
  obtain ⟨ts, rfl, hcovering, hspelled⟩ := covering_of_scan h
  refine ⟨ts, rfl, hcovering, fun t ht => ⟨?_, fun kind => ⟨?_, ?_⟩⟩⟩
  · exact isStop_of_proper (hspelled t ht).proper t.lexeme t.position
  · intro hkind
    exact hkind.unique (hspelled t ht)
  · rintro rfl
    exact hspelled t ht

/-- A name that is a symbol beyond ASCII, an operator of two characters, and a numeral that begins
with its point. -/
theorem scan_covers_leading_point :
    let all : List Token := [⟨.name "π", "π", 1⟩, ⟨.symbol .lessEqual, "<=", 2⟩,
      ⟨.number ⟨5, 0⟩, ".5e1", 4⟩, .stopAt 9]
    scan " π<=.5e1 " = .ok all ∧
      ∃ ts, all = ts ++ [.stopAt " π<=.5e1 ".length] ∧ Covering " π<=.5e1 ".toList 0 ts ∧
        ∀ t ∈ ts, t.isStop = false ∧
          ∀ kind : TokenKind, kind.Spelled t.lexeme.toList ↔ kind = t.kind := by
  intro all
  have hreads : (Scanner.ofText " π<=.5e1 ").Reads all :=
    .token rfl rfl <| .token rfl rfl <| .token rfl rfl <| .stop rfl
  have hscan := hreads.tokens_eq_ok
  exact ⟨hscan, scan_covers hscan⟩

end Reckon
