import Reckon.Proofs.Scanning.NumeralMeaning
import Reckon.Proofs.Session.Reread

/-!
# Canonical results

* `Numeral.Canonical`: digits, perhaps with a point among them, and no superfluous zero in front.
  `Canonical`: such a numeral, with a sign only if it is not zero.
* `head?_digits`: the digits of a positive number do not begin with a zero.
* `Decimal.canonical_plainChars_iff`: plain notation is canonical unless a zero has a negative
  scale, for then the zeros of the scale stand behind it.
* `Session.evalText_canonical_iff`: so is a printed value. `Session.evalText_padded_zero`: a zero
  may have a negative scale.
-/

namespace Reckon

/-! ## Canonical texts -/

/-- A numeral without exponent, in which no zero stands in front of another whole digit. -/
structure Numeral.Canonical (n : Numeral) : Prop where
  plain : n.Plain
  whole : n.whole = ['0'] ∨ n.whole.head? ≠ some '0'

/-- A canonical numeral, in front of which a sign may stand unless it says zero. -/
def Canonical (cs : List Char) : Prop :=
  ∃ n : Numeral, n.Canonical ∧ (cs = n.chars ∨ written n.mantissa ≠ 0 ∧ cs = '-' :: n.chars)

/-- No other digit stands behind a zero in front. -/
theorem not_canonical_zeros (cs : List Char) : ¬ Canonical ('0' :: '0' :: cs) := by
  rintro ⟨⟨whole, fraction, exponent⟩, ⟨hplain, hwhole⟩, hchars | ⟨-, hchars⟩⟩
  · obtain rfl : exponent = none := hplain.exponent
    obtain ⟨c, ds, rfl⟩ := List.exists_cons_of_ne_nil hplain.whole_ne_nil
    simp only [Numeral.chars, Option.elim_none, List.append_nil, List.cons_append,
      List.cons.injEq] at hchars
    obtain ⟨rfl, hchars⟩ := hchars
    obtain rfl : ds = [] := by simpa using hwhole
    cases fraction <;> simp at hchars
  · cases hchars

/-! ## Digits -/

theorem digitChar_ne_zero {d : ℕ} (hd : d < 10) (hne : d ≠ 0) : Nat.digitChar d ≠ '0' := by
  revert d
  decide

/-- The digits of a positive number do not begin with a zero. -/
theorem head?_digits {n : ℕ} (hn : n ≠ 0) : (digits n).head? ≠ some '0' := by
  have hpos := Nat.pos_of_ne_zero hn
  have hcount := digitCount_pos n
  obtain ⟨w, hw⟩ : ∃ w, digitCount n = 1 + w := ⟨digitCount n - 1, by omega⟩
  have hlow := pow_le_of_digitCount hpos
  have hhigh := lt_pow_digitCount n
  rw [hw, Nat.add_sub_cancel_left] at hlow
  rw [hw, pow_add, pow_one] at hhigh
  have hfirst : n / 10 ^ w < 10 := (Nat.div_lt_iff_lt_mul (by positivity)).2 hhigh
  have hne : n / 10 ^ w ≠ 0 := (Nat.div_pos hlow (by positivity)).ne'
  rw [digits, appendDigits_eq, hw, putDigits_add]
  simp only [putDigits, List.head?_cons, Nat.mod_eq_of_lt hfirst]
  exact mt Option.some.inj (digitChar_ne_zero hfirst hne)

theorem digits_zero : digits 0 = ['0'] := by
  rw [digits, digitCount_zero, appendDigits_eq]
  rfl

/-! ## Plain notation -/

namespace Decimal

variable {x : Decimal}

/-- A number is written without a superfluous zero, and so is zero at a scale that is not
negative. -/
theorem canonical_plainNumeral (h : x.coeff ≠ 0 ∨ 0 ≤ x.scale) : x.plainNumeral.Canonical := by
  refine ⟨x.plain_plainNumeral, ?_⟩
  have hhead : x.coeff ≠ 0 → (Reckon.digits x.coeff.natAbs).head? ≠ some '0' := fun hne =>
    head?_digits (Int.natAbs_ne_zero.2 hne)
  have hlength : x.coeff = 0 → (Reckon.digits x.coeff.natAbs).length = 1 := by
    intro hzero
    rw [hzero, Int.natAbs_zero, digits_zero]
    rfl
  unfold plainNumeral
  dsimp only
  split
  · next hscale =>
    by_cases hzero : x.coeff = 0
    · have hplaces : (-x.scale).toNat = 0 := by omega
      left
      rw [hzero, hplaces, Int.natAbs_zero, digits_zero]
      rfl
    · right
      rw [List.head?_append_of_ne_nil _ (digits_ne_nil _)]
      exact hhead hzero
  · next hscale =>
    split
    · next hplaces =>
      right
      by_cases hzero : x.coeff = 0
      · omega
      · rw [List.head?_take, if_neg (by omega)]
        exact hhead hzero
    · exact .inl rfl

theorem written_plainNumeral_ne_zero (h : 0 < x.coeff) : written x.plainNumeral.mantissa ≠ 0 := by
  have hvalue := digitsValue_plainNumeral h.le
  rw [digitsValue_eq_written, coeffAt, if_neg h.ne'] at hvalue
  have hpos : 0 < x.coeff * 10 ^ (max x.scale 0 - x.scale).toNat := mul_pos h (by positivity)
  omega

/-- The zeros of a negative scale stand behind that of a zero. -/
theorem plainChars_of_zero {s : ℤ} (hs : s ≤ 0) :
    (Decimal.mk 0 s).plainChars = '0' :: List.replicate (-s).toNat '0' := by
  simp only [plainChars, Int.natAbs_zero, digits_zero, if_neg (lt_irrefl (0 : ℤ)), if_pos hs]
  rfl

/-- Plain notation is canonical, unless it is that of a zero with a negative scale. -/
theorem canonical_plainChars_iff (x : Decimal) :
    Canonical x.plainChars ↔ x.coeff ≠ 0 ∨ 0 ≤ x.scale := by
  constructor
  · intro h
    by_contra hzero
    rw [not_or, not_not, not_le] at hzero
    obtain ⟨m, s⟩ := x
    obtain ⟨rfl, hs⟩ : m = 0 ∧ s < 0 := hzero
    obtain ⟨k, hk⟩ : ∃ k, (-s).toNat = k + 1 := ⟨(-s).toNat - 1, by omega⟩
    rw [plainChars_of_zero hs.le, hk, List.replicate_succ] at h
    exact not_canonical_zeros _ h
  · intro h
    rcases lt_or_ge x.coeff 0 with hneg | hnonneg
    · have hpos : 0 < x.neg.coeff := neg_pos.2 hneg
      refine ⟨x.neg.plainNumeral, canonical_plainNumeral (.inl hpos.ne'), .inr ⟨?_, ?_⟩⟩
      · exact written_plainNumeral_ne_zero hpos
      · rw [plainChars_of_neg hneg, plainChars_eq hpos.le]
    · exact ⟨x.plainNumeral, canonical_plainNumeral h, .inl (plainChars_eq hnonneg)⟩

end Decimal

/-! ## Printed results -/

/-- The printed value of a text is canonical, unless a zero with a negative scale is printed: then
so many zeros stand behind it, and no sign in front. -/
theorem Session.evalText_canonical_iff {σ : Type} {s : Session σ} {text : String} {state : σ}
    {v : Decimal} (h : (s.eval text state).1 = .ok v) :
    (Canonical (s.evalText text state).1.toList ↔
      (s.context.round v).coeff ≠ 0 ∨ 0 ≤ (s.context.round v).scale) ∧
    ((s.context.round v).coeff = 0 → (s.context.round v).scale < 0 →
      (s.evalText text state).1.toList =
        '0' :: List.replicate (-(s.context.round v).scale).toNat '0') := by
  have htext : (s.evalText text state).1.toList = (s.context.round v).plainChars := by
    show (s.formatResult (s.eval text state).1).toList = _
    rw [h]
    exact String.toList_ofList
  rw [htext]
  refine ⟨Decimal.canonical_plainChars_iff _, fun hzero hscale => ?_⟩
  rcases hround : s.context.round v with ⟨m, k⟩
  rw [hround] at hzero hscale
  obtain rfl : m = 0 := hzero
  exact Decimal.plainChars_of_zero hscale.le

/-- A negative number with zeros behind the point, which is rounded with a carry. -/
theorem Session.evalText_canonical_carry :
    let s : Session Unit := ⟨Session.new.env.withContext ⟨2, .halfUp, by decide, by decide⟩⟩
    (s.eval "-0.00996" ()).1 = .ok ⟨-996, 5⟩ ∧ s.context.round ⟨-996, 5⟩ = ⟨-10, 3⟩ ∧
      (s.evalText "-0.00996" ()).1 = "-0.010" ∧ Canonical "-0.010".toList := by
  intro s
  have hplain : (Decimal.mk (-996) 5).plain = "-0.00996" := by decide +kernel
  have heval : s.eval "-0.00996" () = (.ok ⟨-996, 5⟩, ()) := by
    rw [← hplain, s.eval_plain (show (5 : ℤ) ≤ maxPrecision by decide),
      Decimal.plainForm_of_nonneg (show (0 : ℤ) ≤ 5 by decide)]
  have hround : s.context.round ⟨-996, 5⟩ = ⟨-10, 3⟩ := by decide +kernel
  have htext : (s.evalText "-0.00996" ()).1 = "-0.010" := by
    rw [evalText, heval]
    show (s.context.round ⟨-996, 5⟩).plain = _
    rw [hround]
    decide +kernel
  obtain ⟨hcanonical, -⟩ := evalText_canonical_iff (congrArg Prod.fst heval)
  rw [htext, hround] at hcanonical
  exact ⟨congrArg Prod.fst heval, hround, htext, hcanonical.2 (.inl (by decide))⟩

/-- A zero that is written with an exponent has a negative scale. -/
theorem Session.evalText_padded_zero :
    let s : Session Unit := .new
    (s.eval "0e5" ()).1 = .ok ⟨0, -5⟩ ∧ (s.evalText "0e5" ()).1 = "000000" ∧
      ¬ Canonical (s.evalText "0e5" ()).1.toList := by
  intro s
  have hparse : parseText "0e5" = .ok (.literal ⟨0, -5⟩) :=
    parseText_of_kinds (by decide) (by decide) (by decide)
  have heval : s.eval "0e5" () = (.ok ⟨0, -5⟩, ()) := by
    rw [eval, hparse]
    rfl
  have htext : (s.evalText "0e5" ()).1 = "000000" := by
    rw [evalText, heval]
    decide +kernel
  refine ⟨congrArg Prod.fst heval, htext, ?_⟩
  rw [htext]
  exact not_canonical_zeros ['0', '0', '0', '0']

end Reckon
