import Reckon.Numeral

/-!
# The grammar of numerals

* `Exponent.WellFormed`, `Numeral.WellFormed`: digits, then perhaps a point and digits, then
  perhaps a letter, a sign and digits. The digits before the point may be missing.
* `wellFormed_of_read`: what is read at a digit or at a point is of this grammar.
* `Numeral.EndsBefore`: a text with which a numeral does not go on. `read_of_wellFormed`: the numeral
  is read in front of such a text. `endsBefore_of_read`: and in front of no other.
-/

namespace Reckon

/-- A letter, perhaps a sign, and digits. -/
structure Exponent.WellFormed (x : Exponent) : Prop where
  marker : x.marker = 'e' ∨ x.marker = 'E'
  sign : ∀ s ∈ x.sign, s = '+' ∨ s = '-'
  digits_ne_nil : x.digits ≠ []
  isDigit : ∀ d ∈ x.digits, d.isDigit = true

namespace Numeral

/-- Digits on one side of the point at least, all parts of digits, and a well-formed exponent. -/
structure WellFormed (n : Numeral) : Prop where
  mantissa : n.whole ≠ [] ∨ n.fraction ≠ none
  isDigit_whole : ∀ d ∈ n.whole, d.isDigit = true
  fraction : ∀ ds ∈ n.fraction, ds ≠ [] ∧ ∀ d ∈ ds, d.isDigit = true
  exponent : ∀ x ∈ n.exponent, x.WellFormed

/-! ## What is read -/

theorem isDigit_of_mem_spanDigits {cs : List Char} {d : Char} (h : d ∈ (spanDigits cs).1) :
    d.isDigit = true := List.all_eq_true.1 List.all_takeWhile d h

theorem isDigit_of_readFraction {cs rest : List Char} {fraction : Option (List Char)}
    (h : readFraction cs = .ok (fraction, rest)) :
    ∀ ds ∈ fraction, ds ≠ [] ∧ ∀ d ∈ ds, d.isDigit = true := by
  unfold readFraction at h
  split at h
  · next after =>
    simp only at h
    split at h
    · simp at h
    · next hempty =>
      obtain ⟨rfl, -⟩ := Prod.mk.inj (Except.ok.inj h)
      rintro ds ⟨⟩
      exact ⟨by simpa using hempty, fun d hd => isDigit_of_mem_spanDigits hd⟩
  · obtain ⟨rfl, -⟩ := Prod.mk.inj (Except.ok.inj h)
    rintro ds ⟨⟩

theorem readSign_eq_or (cs : List Char) : ∀ s ∈ (readSign cs).1, s = '+' ∨ s = '-' := by
  unfold readSign
  split
  · rintro s ⟨⟩
    exact .inl rfl
  · rintro s ⟨⟩
    exact .inr rfl
  · rintro s ⟨⟩

theorem wellFormed_of_readExponent {cs : List Char} {exponent : Option Exponent}
    (h : readExponent cs = .ok exponent) : ∀ x ∈ exponent, x.WellFormed := by
  unfold readExponent at h
  split at h
  · next c after =>
    split at h
    · next hmarker =>
      simp only at h
      split at h
      · simp at h
      · next hempty =>
        obtain rfl := Except.ok.inj h
        rintro x ⟨⟩
        exact ⟨hmarker, readSign_eq_or after, by simpa using hempty,
          fun d hd => isDigit_of_mem_spanDigits hd⟩
    · obtain rfl := Except.ok.inj h
      rintro x ⟨⟩
  · obtain rfl := Except.ok.inj h
    rintro x ⟨⟩

/-- A numeral that is read at a digit or at a point is of the grammar. -/
theorem wellFormed_of_read {c : Char} {cs : List Char} {n : Numeral}
    (hc : c = '.' ∨ c.isDigit = true) (h : read (c :: cs) = .ok n) : n.WellFormed := by
  unfold read at h
  simp only at h
  split at h
  · simp at h
  · next fraction after hfraction =>
    split at h
    · simp at h
    · next exponent hexponent =>
      obtain rfl := Except.ok.inj h
      refine ⟨?_, fun d hd => isDigit_of_mem_spanDigits hd, isDigit_of_readFraction hfraction,
        wellFormed_of_readExponent hexponent⟩
      rcases hc with rfl | hdigit
      · -- A point that is read has a fraction behind it.
        right
        rintro rfl
        have hspan : (spanDigits ('.' :: cs)).2 = '.' :: cs := rfl
        rw [hspan] at hfraction
        simp only [readFraction] at hfraction
        split at hfraction
        · simp at hfraction
        · simp at hfraction
      · left
        simp [spanDigits, hdigit]

/-! ## Reading the grammar -/

/-- The numeral does not go on with the text. It has one point and one exponent at the most, so
another of them belongs to what follows. -/
structure EndsBefore (n : Numeral) (rest : List Char) : Prop where
  digit : ∀ c ∈ rest.head?, c.isDigit = false
  point : n.fraction = none → n.exponent = none → ∀ c ∈ rest.head?, c ≠ '.'
  marker : n.exponent = none → ∀ c ∈ rest.head?, c ≠ 'e' ∧ c ≠ 'E'

theorem spanDigits_append {ds rest : List Char} (hds : ∀ c ∈ ds, c.isDigit = true)
    (hrest : ∀ c ∈ rest.head?, c.isDigit = false) : spanDigits (ds ++ rest) = (ds, rest) := by
  rw [spanDigits, List.takeWhile_append_of_pos hds, List.dropWhile_append_of_pos hds]
  cases rest with
  | nil => simp
  | cons c rest => simp [hrest c rfl]

theorem readFraction_none {rest : List Char} (hrest : ∀ c ∈ rest.head?, c ≠ '.') :
    readFraction rest = .ok (none, rest) := by
  cases rest with
  | nil => rfl
  | cons c rest =>
    unfold readFraction
    split
    · next heq => exact absurd (List.cons.inj heq).1 (hrest c rfl)
    · rfl

theorem readFraction_some {ds rest : List Char} (hne : ds ≠ [])
    (hds : ∀ d ∈ ds, d.isDigit = true) (hrest : ∀ c ∈ rest.head?, c.isDigit = false) :
    readFraction ('.' :: (ds ++ rest)) = .ok (some ds, rest) := by
  have hempty : ds.isEmpty = false := by simpa using hne
  simp only [readFraction, spanDigits_append hds hrest, hempty]
  rfl

theorem readExponent_none {rest : List Char} (hrest : ∀ c ∈ rest.head?, c ≠ 'e' ∧ c ≠ 'E') :
    readExponent rest = .ok none := by
  cases rest with
  | nil => rfl
  | cons c rest => exact if_neg (not_or.2 (hrest c rfl))

theorem readSign_append_digits {sign : Option Char} (hsign : ∀ s ∈ sign, s = '+' ∨ s = '-')
    {ds rest : List Char} (hne : ds ≠ []) (hds : ∀ d ∈ ds, d.isDigit = true) :
    readSign (sign.toList ++ (ds ++ rest)) = (sign, ds ++ rest) := by
  obtain ⟨d, ds, rfl⟩ := List.exists_cons_of_ne_nil hne
  have hd : d.isDigit = true := hds d List.mem_cons_self
  cases sign with
  | none =>
    show readSign (d :: (ds ++ rest)) = _
    unfold readSign
    split
    · next heq =>
      rw [(List.cons.inj heq).1] at hd
      exact absurd hd (by decide)
    · next heq =>
      rw [(List.cons.inj heq).1] at hd
      exact absurd hd (by decide)
    · rfl
  | some s =>
    rcases hsign s rfl with rfl | rfl
    · rfl
    · rfl

theorem readExponent_some {x : Exponent} (hx : x.WellFormed) {rest : List Char}
    (hrest : ∀ c ∈ rest.head?, c.isDigit = false) :
    readExponent (x.chars ++ rest) = .ok (some x) := by
  obtain ⟨marker, sign, ds⟩ := x
  obtain ⟨hmarker, hsign, hne, hds⟩ := hx
  have hempty : ds.isEmpty = false := by simpa using hne
  have hread : readSign (sign.toList ++ (ds ++ rest)) = (sign, ds ++ rest) :=
    readSign_append_digits hsign hne hds
  simp only [Exponent.chars, List.cons_append, List.append_assoc, readExponent, if_pos hmarker,
    hread, spanDigits_append hds hrest, hempty]
  rfl

/-- What follows the fraction is an exponent or the rest. -/
theorem head?_exponent {exponent : Option Exponent} (h : ∀ x ∈ exponent, x.WellFormed)
    {rest : List Char} {c : Char}
    (hc : c ∈ (exponent.elim [] Exponent.chars ++ rest).head?) :
    c = 'e' ∨ c = 'E' ∨ c ∈ rest.head? := by
  cases exponent with
  | none => exact .inr (.inr hc)
  | some x =>
    obtain rfl : x.marker = c := Option.some.inj hc
    rcases (h x rfl).marker with hmarker | hmarker
    · exact .inl hmarker
    · exact .inr (.inl hmarker)

/-- A numeral of the grammar is read where its writing ends. -/
theorem read_of_wellFormed {n : Numeral} (h : n.WellFormed) {rest : List Char}
    (hrest : n.EndsBefore rest) : read (n.chars ++ rest) = .ok n := by
  obtain ⟨whole, fraction, exponent⟩ := n
  obtain ⟨-, hwhole, hfraction, hexponent⟩ := h
  obtain ⟨hdigit, hpoint, hmarker⟩ := hrest
  -- The digits do not go on behind the fraction, and no point comes where there is none.
  have hafter : ∀ c ∈ (exponent.elim [] Exponent.chars ++ rest).head?, c.isDigit = false := by
    intro c hc
    rcases head?_exponent hexponent hc with rfl | rfl | hc
    · decide
    · decide
    · exact hdigit c hc
  have hafterPoint (hnone : fraction = none) :
      ∀ c ∈ (exponent.elim [] Exponent.chars ++ rest).head?, c ≠ '.' := by
    intro c hc
    cases exponent with
    | none => exact hpoint hnone rfl c hc
    | some x =>
      obtain rfl : x.marker = c := Option.some.inj hc
      rcases (hexponent x rfl).marker with hmarker | hmarker <;> rw [hmarker] <;> decide
  have hreadExponent : readExponent (exponent.elim [] Exponent.chars ++ rest) = .ok exponent := by
    cases exponent with
    | none => exact readExponent_none (hmarker rfl)
    | some x => exact readExponent_some (hexponent x rfl) hdigit
  have hreadFraction : readFraction (fraction.elim [] ('.' :: ·) ++
      (exponent.elim [] Exponent.chars ++ rest)) =
      .ok (fraction, exponent.elim [] Exponent.chars ++ rest) := by
    cases fraction with
    | none => exact readFraction_none (hafterPoint rfl)
    | some ds =>
      obtain ⟨hne, hds⟩ := hfraction ds rfl
      exact readFraction_some hne hds hafter
  have hspan : spanDigits (whole ++ (fraction.elim [] ('.' :: ·) ++
      (exponent.elim [] Exponent.chars ++ rest))) =
      (whole, fraction.elim [] ('.' :: ·) ++ (exponent.elim [] Exponent.chars ++ rest)) := by
    apply spanDigits_append hwhole
    intro c hc
    cases fraction with
    | none => exact hafter c hc
    | some ds =>
      obtain rfl := Option.some.inj hc
      decide
  simp only [read, chars, List.append_assoc, hspan, hreadFraction, hreadExponent]

theorem endsBefore_nil (n : Numeral) : n.EndsBefore [] := by
  constructor <;> simp

/-- The writing of a numeral determines it. -/
theorem WellFormed.unique {n n' : Numeral} (h : n.WellFormed) (h' : n'.WellFormed)
    (hchars : n.chars = n'.chars) : n = n' := by
  have hread := read_of_wellFormed h n.endsBefore_nil
  rw [hchars, read_of_wellFormed h' n'.endsBefore_nil] at hread
  exact (Except.ok.inj hread).symm

/-! ## Where a numeral that is read ends -/

theorem head?_spanDigits (cs : List Char) : ∀ c ∈ (spanDigits cs).2.head?, c.isDigit = false := by
  intro c hc
  have hhead := List.head?_dropWhile_not Char.isDigit cs
  have hc : (cs.dropWhile Char.isDigit).head? = some c := hc
  rw [hc] at hhead
  exact hhead

theorem head?_readFraction {cs rest : List Char} {fraction : Option (List Char)}
    (h : readFraction cs = .ok (fraction, rest)) :
    (fraction = none → ∀ c ∈ rest.head?, c ≠ '.') ∧
      (fraction ≠ none → ∀ c ∈ rest.head?, c.isDigit = false) := by
  unfold readFraction at h
  split at h
  · next after =>
    simp only at h
    split at h
    · simp at h
    · obtain ⟨rfl, rfl⟩ := Prod.mk.inj (Except.ok.inj h)
      exact ⟨fun hnone => absurd hnone (by simp), fun _ => head?_spanDigits after⟩
  · next hpoint =>
    obtain ⟨rfl, rfl⟩ := Prod.mk.inj (Except.ok.inj h)
    refine ⟨fun _ c hc => ?_, fun hnone => absurd rfl hnone⟩
    rintro rfl
    obtain ⟨tail, rfl⟩ := List.head?_eq_some_iff.1 hc
    exact hpoint tail rfl

theorem head?_readExponent {exponent : Option Exponent} {rest : List Char}
    (h : readExponent (exponent.elim [] Exponent.chars ++ rest) = .ok exponent) :
    (exponent = none → ∀ c ∈ rest.head?, c ≠ 'e' ∧ c ≠ 'E') ∧
      (exponent ≠ none → ∀ c ∈ rest.head?, c.isDigit = false) := by
  cases exponent with
  | none =>
    refine ⟨fun _ c hc => not_or.1 fun hmarker => ?_, fun hnone => absurd rfl hnone⟩
    obtain ⟨tail, rfl⟩ := List.head?_eq_some_iff.1 hc
    simp only [Option.elim_none, List.nil_append, readExponent, if_pos hmarker] at h
    split at h <;> cases h
  | some x =>
    obtain ⟨marker, sign, ds⟩ := x
    refine ⟨fun hnone => absurd hnone (by simp), fun _ => ?_⟩
    simp only [Option.elim_some, Exponent.chars, List.cons_append, readExponent] at h
    split at h
    · split at h
      · cases h
      · -- The sign and the digits that are read are those in front of the rest.
        simp only [Except.ok.injEq, Option.some.injEq, Exponent.mk.injEq, true_and] at h
        obtain ⟨hsign, hdigits⟩ := h
        have hsplit := readSign_append (sign.toList ++ ds ++ rest)
        rw [hsign, List.append_assoc, List.append_cancel_left_eq] at hsplit
        rw [List.append_assoc, hsplit] at hdigits
        have hafter := takeWhile_append_dropWhile_digits (ds ++ rest)
        rw [hdigits, List.append_cancel_left_eq] at hafter
        exact hafter ▸ head?_spanDigits (ds ++ rest)
    · cases h

/-- A numeral is read only where it does not go on. -/
theorem endsBefore_of_read {n : Numeral} {rest : List Char}
    (h : read (n.chars ++ rest) = .ok n) : n.EndsBefore rest := by
  obtain ⟨whole, fraction, exponent⟩ := n
  unfold read at h
  simp only at h
  split at h
  · cases h
  · next fraction' afterFraction hfraction =>
    split at h
    · cases h
    · next exponent' hexponent =>
      simp only [Except.ok.injEq, Numeral.mk.injEq] at h
      obtain ⟨hwhole, rfl, rfl⟩ := h
      have hspan := takeWhile_append_dropWhile_digits
        ((Numeral.mk whole fraction' exponent').chars ++ rest)
      have hdigit := head?_spanDigits ((Numeral.mk whole fraction' exponent').chars ++ rest)
      have hsplit := readFraction_append hfraction
      obtain ⟨hpoint, hdigitFraction⟩ := head?_readFraction hfraction
      rw [hwhole, ← hsplit] at hspan
      rw [← hsplit] at hdigit
      simp only [chars, List.append_assoc, List.append_cancel_left_eq] at hspan
      subst hspan
      obtain ⟨hmarker, hdigitExponent⟩ := head?_readExponent hexponent
      refine ⟨?_, ?_, hmarker⟩
      · cases exponent' with
        | some x => exact hdigitExponent (by simp)
        | none =>
          cases fraction' with
          | some ds => exact hdigitFraction (by simp)
          | none => exact hdigit
      · rintro rfl rfl
        exact hpoint rfl

/-- Digits, perhaps with a point before or among them, begin a numeral. -/
theorem WellFormed.head_chars {n : Numeral} (h : n.WellFormed) :
    ∃ c cs, n.chars = c :: cs ∧ (c = '.' ∨ c.isDigit = true) := by
  obtain ⟨whole, fraction, exponent⟩ := n
  cases whole with
  | cons d ds => exact ⟨d, _, rfl, .inr (h.isDigit_whole d List.mem_cons_self)⟩
  | nil =>
    cases fraction with
    | some ds => exact ⟨'.', _, rfl, .inl rfl⟩
    | none => exact absurd rfl (h.mantissa.resolve_left fun hne => hne rfl)

end Numeral

end Reckon
