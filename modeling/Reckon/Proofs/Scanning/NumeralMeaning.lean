import Mathlib.Data.List.Induction
import Mathlib.Data.Nat.Digits.Defs
import Reckon.Proofs.Scanning.Coverage

/-!
# What numerals say

* `written`: the number that digits write. `Numeral.places`, `Numeral.power`: the fraction digits of
  a numeral, and the power of ten that its exponent stands for.
* `Numeral.value_eq_ok`, `Numeral.eq_of_value`: a numeral has a value just where the places less the
  power are at most `maxPrecision` either way, however large both are.
* `Numeral.scan_chars`: a numeral on its own is one token or one fault.
* `scan_numeral`: the token says what is written, and no other token is a number.
-/

namespace Reckon

/-! ## Digits -/

/-- The number that decimal digits write. The last one counts units. -/
def written (ds : List Char) : ℕ := Nat.ofDigits 10 (ds.reverse.map fun d => d.toNat - '0'.toNat)

theorem digitsValue_eq_written (ds : List Char) : digitsValue ds = written ds := by
  induction ds using List.reverseRecOn with
  | nil => rfl
  | append_singleton ds d ih =>
    have hlast : written (ds ++ [d]) = (d.toNat - '0'.toNat) + 10 * written ds := by
      rw [written, List.reverse_append, List.reverse_singleton, List.singleton_append,
        List.map_cons, Nat.ofDigits_cons]
      rfl
    rw [hlast, digitsValue_append, ih, Nat.add_comm, Nat.mul_comm]
    rfl

/-! ## Numerals -/

namespace Numeral

variable {n : Numeral}

/-- The number of fraction digits. -/
def places (n : Numeral) : ℕ := (n.fraction.getD []).length

/-- The power of ten that the exponent stands for. -/
def power (n : Numeral) : ℤ :=
  match n.exponent with
  | none => 0
  | some x => if x.sign = some '-' then -(written x.digits : ℤ) else written x.digits

theorem elim_exponent (n : Numeral) : n.exponent.elim 0 Exponent.value = n.power := by
  unfold power
  split
  · next hnone => rw [hnone, Option.elim_none]
  · next x hsome => rw [hsome, Option.elim_some, Exponent.value, digitsValue_eq_written]

theorem scale_eq (n : Numeral) : n.scale = n.places - n.power := by
  rw [scale, elim_exponent, places]

theorem places_le_length (n : Numeral) : n.places ≤ n.chars.length := by
  obtain ⟨whole, fraction, exponent⟩ := n
  cases fraction with
  | none => exact Nat.zero_le _
  | some ds =>
    simp only [places, chars, Option.getD_some, Option.elim_some, List.length_append,
      List.length_cons]
    omega

/-- A fraction of fewer than `2 ^ 63` digits makes up for no exponent beyond 128 bits. -/
theorem value_eq_ok (hlength : n.places < 2 ^ 63)
    (h : |(n.places : ℤ) - n.power| ≤ maxPrecision) :
    n.value = .ok ⟨written n.mantissa, n.places - n.power⟩ := by
  obtain ⟨hlow, hhigh⟩ := abs_le.1 h
  have hmax : (maxPrecision : ℤ) = 100000 := rfl
  simp only [value, elim_exponent, scale_eq, digitsValue_eq_written]
  rw [if_neg (by omega), if_neg (by omega), if_neg (by omega), if_neg (by omega)]

/-- A value is what the numeral says. -/
theorem eq_of_value {x : Decimal} (h : n.value = .ok x) :
    x = ⟨written n.mantissa, n.places - n.power⟩ ∧
      |(n.places : ℤ) - n.power| ≤ maxPrecision := by
  simp only [value, elim_exponent, scale_eq, digitsValue_eq_written] at h
  split at h
  · cases h
  · split at h
    · cases h
    · split at h
      · cases h
      · split at h
        · cases h
        · next hnear =>
          obtain rfl := Except.ok.inj h
          rw [Int.abs_eq_natAbs]
          exact ⟨rfl, by exact_mod_cast not_lt.1 hnear⟩

theorem value_eq_error (h : maxPrecision < |(n.places : ℤ) - n.power|) :
    ∃ fault, n.value = .error fault := by
  cases hvalue : n.value with
  | error fault => exact ⟨fault, rfl⟩
  | ok x => exact absurd (eq_of_value hvalue).2 (not_le.2 h)

/-! ## Scanning a numeral -/

/-- A numeral on its own is a token if it has a value, and else a fault. -/
theorem scan_chars (h : n.WellFormed) :
    scan (String.ofList n.chars) =
      match n.value with
      | .ok x => .ok [⟨.number x, String.ofList n.chars, 0⟩, .stopAt n.chars.length]
      | .error fault => .error ⟨.malformedNumber n.chars fault, 0⟩ := by
  obtain ⟨c, cs, hchars, hc⟩ := h.head_chars
  have hread : Numeral.read (c :: cs) = .ok n := by
    have hread : Numeral.read (n.chars ++ []) = .ok n :=
      read_of_wellFormed h (breaks_nil.endsBefore_numeral n)
    rwa [List.append_nil, hchars] at hread
  have hlex : lexemeAt c cs = numeralAt (c :: cs) := lexemeAt_eq_numeralAt hc cs
  have hblank : Text.isBlank c = false := h.not_isBlank c (hchars ▸ List.mem_cons_self)
  have hskip : (Scanner.ofText (String.ofList n.chars)).skipBlanks = ⟨c :: cs, 0⟩ := by
    simp [Scanner.ofText, Scanner.skipBlanks, hchars, hblank]
  have hrest : (Scanner.ofText (String.ofList n.chars)).skipBlanks.rest = c :: cs := by rw [hskip]
  unfold numeralAt at hlex
  rw [scan]
  cases hvalue : n.value with
  | error fault =>
    simp only [hread, hvalue] at hlex
    rw [Scanner.tokens_eq, Scanner.next]
    simp only [hskip, hlex]
  | ok x =>
    simp only [hread, hvalue] at hlex
    have hend : (Scanner.advance ⟨c :: cs, 0⟩ n.chars.length).skipBlanks =
        ⟨[], n.chars.length⟩ := by
      simp [Scanner.advance, Scanner.skipBlanks, hchars]
    have hreads := Scanner.Reads.token hrest hlex (.stop (by rw [hskip, hend]))
    rw [hskip, hend] at hreads
    exact hreads.tokens_eq_ok

end Numeral

/-- A text that is a numeral is one number, the one that is written with as many places, if the
places less the power of ten are at most `maxPrecision` either way, and is malformed as a whole if
not. Wherever a text is scanned to its end, a number comes from a numeral that says so. -/
theorem scan_numeral :
    (∀ (text : String) (n : Numeral), n.WellFormed → n.chars = text.toList →
      text.length < 2 ^ 63 →
      (scan text = .ok [⟨.number ⟨written n.mantissa, n.places - n.power⟩, text, 0⟩,
          .stopAt text.length] ↔ |(n.places : ℤ) - n.power| ≤ maxPrecision) ∧
      (maxPrecision < |(n.places : ℤ) - n.power| →
        ∃ fault, scan text = .error ⟨.malformedNumber text.toList fault, 0⟩)) ∧
    (∀ (text : String) (all : List Token), scan text = .ok all →
      ∀ t ∈ all, ∀ x, t.kind = .number x →
        ∃ n : Numeral, n.WellFormed ∧ n.chars = t.lexeme.toList ∧
          x = ⟨written n.mantissa, n.places - n.power⟩ ∧
          |(n.places : ℤ) - n.power| ≤ maxPrecision) := by
  refine ⟨fun text n hn hchars hlength => ?_, fun text all hscan t ht x hx => ?_⟩
  · obtain rfl : text = String.ofList n.chars := by rw [hchars, String.ofList_toList]
    rw [String.length_ofList] at hlength ⊢
    rw [String.toList_ofList]
    have hfault : maxPrecision < |(n.places : ℤ) - n.power| →
        ∃ fault, scan (String.ofList n.chars) = .error ⟨.malformedNumber n.chars fault, 0⟩ := by
      intro h
      obtain ⟨fault, hvalue⟩ := Numeral.value_eq_error h
      exact ⟨fault, by rw [Numeral.scan_chars hn, hvalue]⟩
    refine ⟨⟨fun hok => ?_, fun h => ?_⟩, hfault⟩
    · by_contra hfar
      obtain ⟨fault, herror⟩ := hfault (not_le.1 hfar)
      rw [hok] at herror
      cases herror
    · rw [Numeral.scan_chars hn,
        Numeral.value_eq_ok (n.places_le_length.trans_lt hlength) h]
  · obtain ⟨ts, rfl, -, hspelled⟩ :=
      (Scanner.reads_of_tokens hscan).covering (Scanner.at_ofText text)
    rcases List.mem_append.1 ht with ht | ht
    · have hnumber := hspelled t ht
      rw [hx] at hnumber
      obtain ⟨n, hn, hchars, hvalue⟩ := hnumber
      exact ⟨n, hn, hchars, Numeral.eq_of_value hvalue⟩
    · obtain rfl := List.mem_singleton.1 ht
      cases hx

/-- Two fraction digits bring the first scale to the limit. The second exponent is beyond 128
bits. -/
theorem scan_numeral_limit :
    scan ".05e+100002" = .ok [⟨.number ⟨5, -100000⟩, ".05e+100002", 0⟩, .stopAt 11] ∧
      (∃ fault, scan "7E200000000000000000000000000000000000000" =
        .error ⟨.malformedNumber "7E200000000000000000000000000000000000000".toList fault, 0⟩) ∧
      ∃ n : Numeral, n.WellFormed ∧ n.chars = ".05e+100002".toList ∧
        Decimal.mk 5 (-100000) = ⟨written n.mantissa, n.places - n.power⟩ := by
  let long : Numeral := ⟨[], some ['0', '5'], some ⟨'e', some '+', "100002".toList⟩⟩
  let huge : Numeral := ⟨['7'], none, some ⟨'E', none, '2' :: List.replicate 38 '0'⟩⟩
  have hreadLong : Numeral.read ('.' :: "05e+100002".toList) = .ok long := rfl
  have hreadHuge : Numeral.read ('7' :: 'E' :: '2' :: List.replicate 38 '0') = .ok huge := rfl
  have hlong : long.WellFormed := Numeral.wellFormed_of_read (.inl rfl) hreadLong
  have hhuge : huge.WellFormed := Numeral.wellFormed_of_read (.inr rfl) hreadHuge
  obtain ⟨hnumerals, hnumbers⟩ := scan_numeral
  have hscan := (hnumerals ".05e+100002" long hlong (by decide) (by decide)).1.2 (by decide)
  obtain ⟨n, hn, hchars, hx, -⟩ := hnumbers _ _ hscan _ List.mem_cons_self _ rfl
  refine ⟨hscan, ?_, n, hn, hchars, hx⟩
  exact (hnumerals _ huge hhuge (by decide) (by decide)).2 (by decide)

end Reckon
