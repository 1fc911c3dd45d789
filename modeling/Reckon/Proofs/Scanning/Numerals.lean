import Reckon.Decimal.Plain
import Reckon.Proofs.Scanning.NumeralGrammar

/-!
# Numbers in plain notation are numerals

* `digitsValue_digits`, `isDigit_of_mem_digits`: the digits of a number are digits, with the number
  as their value.
* `Numeral.Plain`: a numeral without exponent. `Numeral.value_of_plain`: its value has as many
  places as are written.
* `Decimal.plainNumeral`, `Decimal.plainChars_eq`: plain notation is the writing of such a numeral.
  `Decimal.value_plainNumeral`: its value is the number at a scale that is not negative.
-/

namespace Reckon

-- A power means the same thing here whatever other powers are in scope.
attribute [local instance (20000)] instPowNat

/-! ## Digits -/

theorem toNat_digitChar {d : Nat} (hd : d < 10) : (Nat.digitChar d).toNat - 48 = d := by
  revert d
  decide

theorem isDigit_digitChar {d : Nat} (hd : d < 10) : (Nat.digitChar d).isDigit = true := by
  revert d
  decide

/-- The value of digits that stand after others with the value `n`. -/
def valueFrom (n : Nat) (ds : List Char) : Nat :=
  ds.foldl (fun n d => n * 10 + (d.toNat - 48)) n

theorem valueFrom_append (n : Nat) (ds es : List Char) :
    valueFrom n (ds ++ es) = valueFrom (valueFrom n ds) es := List.foldl_append

theorem valueFrom_putDigits (w m n : Nat) (rest : List Char) :
    valueFrom m (putDigits w n rest) = valueFrom (m * 10 ^ w + n % 10 ^ w) rest := by
  induction w generalizing n rest with
  | zero => rw [putDigits, Nat.pow_zero, Nat.mul_one, Nat.mod_one, Nat.add_zero]
  | succ w ih =>
    have hsplit : n % 10 ^ (w + 1) = n / 10 % 10 ^ w * 10 + n % 10 := by
      rw [Nat.pow_succ', Nat.mod_mul, Nat.add_comm, Nat.mul_comm]
    have hdigit : (Nat.digitChar (n % 10)).toNat - 48 = n % 10 :=
      toNat_digitChar (Nat.mod_lt _ (by decide))
    rw [putDigits, ih, hsplit]
    show valueFrom ((m * 10 ^ w + n / 10 % 10 ^ w) * 10 + _) rest = _
    rw [hdigit, Nat.add_mul, Nat.mul_assoc, ← Nat.pow_succ, Nat.add_assoc]

theorem digitsValue_digits (n : Nat) : digitsValue (digits n) = n := by
  show valueFrom 0 (digits n) = n
  rw [digits, appendDigits_eq, valueFrom_putDigits, Nat.zero_mul, Nat.zero_add,
    Nat.mod_eq_of_lt (lt_pow_digitCount n)]
  rfl

theorem valueFrom_zeros (n k : Nat) : valueFrom n (List.replicate k '0') = n * 10 ^ k := by
  induction k generalizing n with
  | zero => rw [List.replicate_zero, Nat.pow_zero, Nat.mul_one]; rfl
  | succ k ih =>
    rw [List.replicate_succ]
    show valueFrom (n * 10) (List.replicate k '0') = _
    rw [ih, Nat.mul_assoc, ← Nat.pow_succ']

theorem digitsValue_append (ds es : List Char) :
    digitsValue (ds ++ es) = valueFrom (digitsValue ds) es := valueFrom_append 0 ds es

theorem mem_putDigits {w n : Nat} {rest : List Char} {c : Char} (h : c ∈ putDigits w n rest) :
    c.isDigit = true ∨ c ∈ rest := by
  induction w generalizing n rest with
  | zero => exact .inr h
  | succ w ih =>
    rcases ih h with hdigit | hmem
    · exact .inl hdigit
    · rcases List.mem_cons.1 hmem with rfl | hmem
      · exact .inl (isDigit_digitChar (Nat.mod_lt _ (by decide)))
      · exact .inr hmem

theorem isDigit_of_mem_digits {n : Nat} {c : Char} (h : c ∈ digits n) : c.isDigit = true := by
  rw [digits, appendDigits_eq] at h
  exact (mem_putDigits h).resolve_right List.not_mem_nil

theorem digits_ne_nil (n : Nat) : digits n ≠ [] := by
  intro h
  have hlength := length_digits n
  have hpos := digitCount_pos n
  rw [h, List.length_nil] at hlength
  omega

theorem isDigit_of_mem_zeros {k : Nat} {c : Char} (h : c ∈ List.replicate k '0') :
    c.isDigit = true := by
  rw [List.eq_of_mem_replicate h]
  decide

/-! ## Numerals without exponent -/

namespace Numeral

/-- Digits, perhaps with a point among them, and no exponent. -/
structure Plain (n : Numeral) : Prop where
  whole_ne_nil : n.whole ≠ []
  isDigit_whole : ∀ c ∈ n.whole, c.isDigit = true
  fraction (ds : List Char) (h : n.fraction = some ds) : ds ≠ [] ∧ ∀ c ∈ ds, c.isDigit = true
  exponent : n.exponent = none

theorem Plain.wellFormed {n : Numeral} (h : n.Plain) : n.WellFormed := by
  refine ⟨.inl h.whole_ne_nil, h.isDigit_whole, fun ds hds => h.fraction ds hds, ?_⟩
  intro x hx
  rw [h.exponent] at hx
  cases hx

/-- The value of a numeral without exponent has as many places as are written. -/
theorem value_of_plain {n : Numeral} (h : n.Plain)
    (hlength : (n.fraction.getD []).length ≤ maxPrecision) :
    n.value = .ok ⟨digitsValue n.mantissa, (n.fraction.getD []).length⟩ := by
  obtain ⟨whole, fraction, exponent⟩ := n
  obtain rfl : exponent = none := h.exponent
  have hmax : maxPrecision = 100000 := rfl
  simp only [value, scale, Option.elim_none, Int.sub_zero]
  simp only at hlength
  rw [if_neg (by decide), if_neg (by decide), if_neg (by omega), if_neg (by omega)]

end Numeral

/-! ## Plain notation -/

namespace Decimal

/-- The form of `x` that plain notation writes, with a scale that is not negative. -/
def plainForm (x : Decimal) : Decimal := ⟨x.coeffAt (max x.scale 0), max x.scale 0⟩

/-- Plain notation as a numeral. -/
def plainNumeral (x : Decimal) : Numeral :=
  let ds := Reckon.digits x.coeff.natAbs
  let places := x.scale.toNat
  if x.scale ≤ 0 then ⟨ds ++ List.replicate (-x.scale).toNat '0', none, none⟩
  else if places < ds.length then
    ⟨ds.take (ds.length - places), some (ds.drop (ds.length - places)), none⟩
  else ⟨['0'], some (List.replicate (places - ds.length) '0' ++ ds), none⟩

variable {x : Decimal}

theorem plainChars_eq (h : 0 ≤ x.coeff) : x.plainChars = x.plainNumeral.chars := by
  unfold plainChars plainNumeral
  rw [if_neg (Int.not_lt.2 h)]
  by_cases hscale : x.scale ≤ 0
  · simp [hscale, Numeral.chars]
  · simp only [if_neg hscale, List.nil_append, pointed]
    split
    · simp [Numeral.chars]
    · simp [Numeral.chars]

theorem plain_plainNumeral (x : Decimal) : x.plainNumeral.Plain := by
  unfold plainNumeral
  simp only
  split
  · refine ⟨?_, ?_, nofun, rfl⟩
    · exact List.append_ne_nil_of_left_ne_nil (digits_ne_nil _) _
    · intro c hc
      rcases List.mem_append.1 hc with hc | hc
      · exact isDigit_of_mem_digits hc
      · exact isDigit_of_mem_zeros hc
  · next hscale =>
    split
    · next hplaces =>
      refine ⟨?_, fun c hc => isDigit_of_mem_digits (List.mem_of_mem_take hc), ?_, rfl⟩
      · intro hnil
        have hlength := congrArg List.length hnil
        rw [List.length_take, List.length_nil] at hlength
        omega
      · rintro ds ⟨⟩
        refine ⟨?_, fun c hc => isDigit_of_mem_digits (List.mem_of_mem_drop hc)⟩
        intro hnil
        have hlength := congrArg List.length hnil
        rw [List.length_drop, List.length_nil] at hlength
        omega
    · refine ⟨List.cons_ne_nil _ _, ?_, ?_, rfl⟩
      · intro c hc
        rw [List.mem_singleton.1 hc]
        decide
      · rintro ds ⟨⟩
        refine ⟨List.append_ne_nil_of_right_ne_nil _ (digits_ne_nil _), ?_⟩
        intro c hc
        rcases List.mem_append.1 hc with hc | hc
        · exact isDigit_of_mem_zeros hc
        · exact isDigit_of_mem_digits hc

theorem length_fraction_plainNumeral (x : Decimal) :
    (x.plainNumeral.fraction.getD []).length = x.scale.toNat := by
  unfold plainNumeral
  simp only
  split
  · next hscale => rw [Int.toNat_of_nonpos hscale]; rfl
  · split
    · next hplaces =>
      rw [Option.getD_some, List.length_drop]
      omega
    · next hplaces =>
      rw [Option.getD_some, List.length_append, List.length_replicate]
      omega

theorem digitsValue_plainNumeral (h : 0 ≤ x.coeff) :
    (digitsValue x.plainNumeral.mantissa : Int) = x.coeffAt (max x.scale 0) := by
  have hcoeff : (x.coeff.natAbs : Int) = x.coeff := Int.natAbs_of_nonneg h
  have hat : x.coeffAt (max x.scale 0) = x.coeff * 10 ^ (-x.scale).toNat := by
    have hplaces : (max x.scale 0 - x.scale).toNat = (-x.scale).toNat := by omega
    unfold coeffAt
    split
    · next hzero => rw [hzero, Int.zero_mul]
    · rw [hplaces]
  have hdigits : (digitsValue (Reckon.digits x.coeff.natAbs) : Int) = x.coeff := by
    rw [digitsValue_digits, hcoeff]
  rw [hat]
  unfold plainNumeral
  simp only
  split
  · rw [Numeral.mantissa, Option.getD_none, List.append_nil, digitsValue_append, valueFrom_zeros,
      Int.natCast_mul, hdigits]
    rfl
  · next hscale =>
    have hone : (-x.scale).toNat = 0 := by omega
    rw [hone, Int.pow_zero, Int.mul_one]
    split
    · rw [Numeral.mantissa, Option.getD_some, List.take_append_drop, hdigits]
    · have hzero : valueFrom (digitsValue ['0'])
          (List.replicate (x.scale.toNat - (Reckon.digits x.coeff.natAbs).length) '0') = 0 :=
        (valueFrom_zeros 0 _).trans (Nat.zero_mul _)
      rw [Numeral.mantissa, Option.getD_some, digitsValue_append, valueFrom_append, hzero]
      exact hdigits

/-- The value of plain notation is the number, at a scale that is not negative. -/
theorem value_plainNumeral (h : 0 ≤ x.coeff) (hscale : x.scale ≤ maxPrecision) :
    x.plainNumeral.value = .ok x.plainForm := by
  have hlength := length_fraction_plainNumeral x
  rw [Numeral.value_of_plain (plain_plainNumeral x) (by omega), digitsValue_plainNumeral h, hlength,
    plainForm]
  have hmax : (x.scale.toNat : Int) = max x.scale 0 := by omega
  rw [hmax]

end Decimal

end Reckon
