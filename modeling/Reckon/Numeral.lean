import Reckon.Context

/-!
# Numerals

* `Numeral`: the parts of a numeral: digits, fraction, exponent.
* `Numeral.chars`: the numeral as it is written.
* `Numeral.Fault`, `Numeral.Fault.reason`: what can be wrong with one.
* `Numeral.read`: the longest numeral at the beginning of a text, or what is wrong with it and
  the characters read until then.
* `Numeral.value`: its number, exactly as written, if the scale is within `maxPrecision`.
-/

namespace Reckon

-- A power means the same thing here whatever other powers are in scope.
attribute [local instance (20000)] instPowNat

/-- The exponent part: its letter, its sign if there is one, its digits. -/
structure Exponent where
  marker : Char
  sign : Option Char
  digits : List Char
deriving DecidableEq

/-- `whole` digits, then perhaps a point and `fraction` digits, then perhaps an exponent. -/
structure Numeral where
  whole : List Char
  fraction : Option (List Char)
  exponent : Option Exponent
deriving DecidableEq

/-- The value of a string of digits. -/
def digitsValue (ds : List Char) : Nat := ds.foldl (fun n d => n * 10 + (d.toNat - 48)) 0

namespace Exponent

def chars (x : Exponent) : List Char := x.marker :: (x.sign.toList ++ x.digits)

def value (x : Exponent) : Int :=
  if x.sign = some '-' then -(digitsValue x.digits : Int) else digitsValue x.digits

end Exponent

namespace Numeral

def chars (n : Numeral) : List Char :=
  n.whole ++ (n.fraction.elim [] ('.' :: ·)) ++ (n.exponent.elim [] Exponent.chars)

/-- The digits of the mantissa without its point. -/
def mantissa (n : Numeral) : List Char := n.whole ++ n.fraction.getD []

/-- The number of fraction digits less the exponent. -/
def scale (n : Numeral) : Int :=
  (n.fraction.getD []).length - (n.exponent.elim 0 Exponent.value)

/-! ## Faults -/

/-- What can be wrong with a numeral. -/
inductive Fault where
  /-- No digit follows the point. -/
  | noFractionDigit
  /-- No digit follows the exponent's letter and sign. -/
  | noExponentDigit
  /-- The exponent is above the words of 128 bits. -/
  | exponentTooLarge
  /-- The exponent is below the words of 128 bits. -/
  | exponentTooSmall
  /-- The scale does not fit 64 bits; `text` is the numeral with a digit before its point. -/
  | scaleOverflow (text : List Char)
  /-- The scale is beyond `maxPrecision` in magnitude. -/
  | outOfRange
deriving DecidableEq

def Fault.reason : Fault → String
  | noFractionDigit => "expected digit after '.'"
  | noExponentDigit => "expected digit in exponent"
  | exponentTooLarge => "number too large to fit in target type"
  | exponentTooSmall => "number too small to fit in target type"
  | scaleOverflow text => s!"Exponent overflow when parsing '{String.ofList text}'"
  | outOfRange => "exponent out of range"

/-! ## Reading -/

/-- Digits and the text after them. -/
def spanDigits (cs : List Char) : List Char × List Char :=
  (cs.takeWhile Char.isDigit, cs.dropWhile Char.isDigit)

/-- The fraction that begins at `cs`, if there is one, and the text after it; an error for a
point that no digit follows. -/
def readFraction : List Char → Except Unit (Option (List Char) × List Char)
  | '.' :: cs =>
    let (ds, rest) := spanDigits cs
    if ds.isEmpty then .error () else .ok (some ds, rest)
  | cs => .ok (none, cs)

/-- A sign at the beginning of `cs`, and the text after it. -/
def readSign : List Char → Option Char × List Char
  | '+' :: cs => (some '+', cs)
  | '-' :: cs => (some '-', cs)
  | cs => (none, cs)

/-- The exponent that begins at `cs`, if there is one; an error carries the letter and the sign
that no digit follows. -/
def readExponent : List Char → Except (List Char) (Option Exponent)
  | c :: cs =>
    if c = 'e' ∨ c = 'E' then
      let (sign, rest) := readSign cs
      let ds := (spanDigits rest).1
      if ds.isEmpty then .error (c :: sign.toList) else .ok (some ⟨c, sign, ds⟩)
    else .ok none
  | [] => .ok none

/-- The longest numeral at the beginning of `cs`. An error carries the characters read. -/
def read (cs : List Char) : Except (Fault × List Char) Numeral :=
  let (whole, afterWhole) := spanDigits cs
  match readFraction afterWhole with
  | .error () => .error (.noFractionDigit, whole ++ ['.'])
  | .ok (fraction, afterFraction) =>
    match readExponent afterFraction with
    | .error read => .error (.noExponentDigit, (Numeral.mk whole fraction none).chars ++ read)
    | .ok exponent => .ok ⟨whole, fraction, exponent⟩

theorem takeWhile_append_dropWhile_digits (cs : List Char) :
    (spanDigits cs).1 ++ (spanDigits cs).2 = cs := List.takeWhile_append_dropWhile

theorem readFraction_append {cs rest : List Char} {fraction : Option (List Char)}
    (h : readFraction cs = .ok (fraction, rest)) :
    fraction.elim [] ('.' :: ·) ++ rest = cs := by
  unfold readFraction at h
  split at h
  · next cs =>
    simp only at h
    split at h
    · simp at h
    · obtain ⟨rfl, rfl⟩ := Prod.mk.inj (Except.ok.inj h)
      simp [takeWhile_append_dropWhile_digits]
  · obtain ⟨rfl, rfl⟩ := Prod.mk.inj (Except.ok.inj h)
    rfl

theorem readSign_append (cs : List Char) : (readSign cs).1.toList ++ (readSign cs).2 = cs := by
  unfold readSign
  split <;> rfl

theorem readExponent_append {cs : List Char} {exponent : Option Exponent}
    (h : readExponent cs = .ok exponent) :
    ∃ rest, exponent.elim [] Exponent.chars ++ rest = cs := by
  unfold readExponent at h
  split at h
  · next c cs =>
    split at h
    · simp only at h
      split at h
      · simp at h
      · obtain rfl := Except.ok.inj h
        refine ⟨(spanDigits (readSign cs).2).2, ?_⟩
        simp [Exponent.chars, takeWhile_append_dropWhile_digits, readSign_append]
    · obtain rfl := Except.ok.inj h
      exact ⟨c :: cs, rfl⟩
  · obtain rfl := Except.ok.inj h
    exact ⟨[], rfl⟩

/-- A numeral that is read stands at the beginning of the text. -/
theorem read_append {cs : List Char} {n : Numeral} (h : read cs = .ok n) :
    ∃ rest, n.chars ++ rest = cs := by
  unfold read at h
  simp only at h
  split at h
  · simp at h
  · next fraction afterFraction hfraction =>
    split at h
    · simp at h
    · next exponent hexponent =>
      obtain rfl := Except.ok.inj h
      obtain ⟨rest, hrest⟩ := readExponent_append hexponent
      refine ⟨rest, ?_⟩
      simp only [chars, List.append_assoc, hrest, readFraction_append hfraction]
      exact takeWhile_append_dropWhile_digits cs

/-- A text that begins with a digit or a point has no empty numeral at its beginning. -/
theorem chars_ne_nil {c : Char} {cs : List Char} {n : Numeral}
    (hc : c = '.' ∨ c.isDigit = true) (h : read (c :: cs) = .ok n) : n.chars ≠ [] := by
  unfold read at h
  simp only at h
  split at h
  · simp at h
  · next fraction afterFraction hfraction =>
    split at h
    · simp at h
    · obtain rfl := Except.ok.inj h
      by_cases hd : c.isDigit = true
      · simp [chars, spanDigits, hd]
      · obtain rfl : c = '.' := by simpa [hd] using hc
        have hdrop : (spanDigits ('.' :: cs)).2 = '.' :: cs := by
          simp [spanDigits, hd]
        rw [hdrop] at hfraction
        unfold readFraction at hfraction
        simp only at hfraction
        split at hfraction
        · simp at hfraction
        · obtain ⟨rfl, -⟩ := Prod.mk.inj (Except.ok.inj hfraction)
          simp [chars]

/-! ## Value -/

/-- The numeral with a digit before its point. -/
def fullChars (n : Numeral) : List Char :=
  if n.whole.isEmpty then '0' :: n.chars else n.chars

/-- The number that the numeral stands for, with all of its digits. -/
def value (n : Numeral) : Except Fault Decimal :=
  let exponent := n.exponent.elim 0 Exponent.value
  if 2 ^ (127 : Nat) ≤ exponent then .error .exponentTooLarge
  else if exponent < -2 ^ (127 : Nat) then .error .exponentTooSmall
  else if n.scale < -2 ^ (63 : Nat) ∨ 2 ^ (63 : Nat) ≤ n.scale then
    .error (.scaleOverflow n.fullChars)
  else if maxPrecision < n.scale.natAbs then .error .outOfRange
  else .ok ⟨digitsValue n.mantissa, n.scale⟩

end Numeral

end Reckon
