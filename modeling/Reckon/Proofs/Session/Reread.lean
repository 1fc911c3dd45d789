import Reckon.Proofs.Decimal.Zeros
import Reckon.Proofs.Grammar.Printed

/-!
# Printed values are read back

* `Decimal.spelling`: the tree that plain notation spells out; a sign is a negation.
  `parseText_plain`, `Session.eval_plain`: plain notation is parsed to it, and its value is the form
  that plain notation writes.
* `Context.roundFits_zeros`, `Context.plain_round_plainForm`: that form may have more digits than
  the precision, but these are zeros, and it is printed as before.
* `Session.eval_format`: so a printed value is evaluated to the rounded number, which is printed as
  the same text.
-/

namespace Reckon

/-! ## The tree of a number -/

namespace Decimal

variable {x : Decimal}

/-- The tree that plain notation spells out. -/
def spelling (x : Decimal) : Expr :=
  if x.coeff < 0 then .negation (.literal x.neg.plainForm) else .literal x.plainForm

theorem plainChars_of_neg (h : x.coeff < 0) : x.plainChars = '-' :: x.neg.plainChars := by
  have hneg : ¬ x.neg.coeff < 0 := not_lt.2 (neg_pos.2 h).le
  have habs : x.neg.coeff.natAbs = x.coeff.natAbs := Int.natAbs_neg _
  have hscale : x.neg.scale = x.scale := rfl
  simp only [plainChars, habs, hscale, if_pos h, if_neg hneg, List.nil_append]
  split <;> rfl

theorem coeffAt_neg (x : Decimal) (s : Int) : x.neg.coeffAt s = -x.coeffAt s := by
  unfold coeffAt neg
  by_cases hzero : x.coeff = 0
  · rw [if_pos hzero, if_pos (neg_eq_zero.2 hzero), neg_zero]
  · rw [if_neg hzero, if_neg (neg_ne_zero.2 hzero), neg_mul]

theorem neg_plainForm_neg (x : Decimal) : x.neg.plainForm.neg = x.plainForm := by
  have hscale : x.neg.scale = x.scale := rfl
  rw [plainForm, hscale, coeffAt_neg, neg, neg_neg, plainForm]

theorem plainForm_of_nonneg (h : 0 ≤ x.scale) : x.plainForm = x := by
  rw [plainForm, max_eq_left h, coeffAt_self]

theorem plainForm_zeros {m : Int} (hm : m ≠ 0) (k : ℕ) :
    (Decimal.mk m (-k)).plainForm = ⟨m * 10 ^ k, 0⟩ := by
  have hmax : max (-(k : Int)) 0 = 0 := by omega
  have hcount : (0 - (-(k : Int))).toNat = k := by omega
  rw [plainForm, hmax, coeffAt, if_neg hm, hcount]

theorem scans_plainChars (h : x.scale ≤ maxPrecision) :
    Scans x.plainChars x.spelling.kinds [] := by
  have hscans : ∀ {y : Decimal}, 0 ≤ y.coeff → y.scale ≤ maxPrecision →
      Scans y.plainChars [.number y.plainForm] [] := by
    intro y hcoeff hscale
    have hspelled := TokenKind.spelled_plainChars hcoeff hscale
    have htoken := Scans.spelled hspelled breaks_nil (.done [])
    rwa [List.append_nil] at htoken
  unfold spelling
  split
  · next hneg =>
    rw [plainChars_of_neg hneg]
    have hcoeff : 0 ≤ x.neg.coeff := (neg_pos.2 hneg).le
    exact .symbol rfl rfl (hscans hcoeff h)
  · next hneg => exact hscans (not_lt.1 hneg) h

theorem leveled_spelling (x : Decimal) : x.spelling.Leveled := by
  unfold spelling
  split
  · exact ⟨Nat.le_succ _, trivial⟩
  · trivial

theorem nesting_spelling_le (x : Decimal) : x.spelling.nesting ≤ maxNesting := by
  unfold spelling
  split
  · exact show 1 ≤ maxNesting by decide
  · exact Nat.zero_le _

end Decimal

theorem parseText_plain {x : Decimal} (h : x.scale ≤ maxPrecision) :
    parseText x.plain = .ok x.spelling := by
  have hscans : Scans x.plain.toList x.spelling.kinds [] := by
    rw [Decimal.plain, String.toList_ofList]
    exact Decimal.scans_plainChars h
  rw [parseText_of_scans hscans x.leveled_spelling, if_pos x.nesting_spelling_le]

theorem Environment.run_eval_spelling {σ : Type} (env : Environment σ) (x : Decimal) (state : σ) :
    (env.eval x.spelling).run state = (.ok x.plainForm, state) := by
  unfold Decimal.spelling
  split
  · rw [← x.neg_plainForm_neg]
    rfl
  · rfl

/-- Plain notation is evaluated to the form that it writes. -/
theorem Session.eval_plain {σ : Type} (s : Session σ) {x : Decimal} (h : x.scale ≤ maxPrecision)
    (state : σ) : s.eval x.plain state = (.ok x.plainForm, state) := by
  rw [Session.eval, parseText_plain h]
  simp only [s.env.run_eval_spelling x state]
  rfl

/-! ## Rounding what plain notation writes -/

namespace Context

variable {c : Context} {x : Decimal}

/-- Where the dropped digits are zeros, the scales fit as soon as the digits can be counted. -/
theorem roundFits_zeros {m : Int} {k : ℕ} (hm : m ≠ 0)
    (hdigits : digitCount m.natAbs ≤ c.precision)
    (hfits : FitsScale (Decimal.mk (m * 10 ^ k) 0).digits) :
    c.RoundFits ⟨m * 10 ^ k, 0⟩ := by
  intro hlong target rounded
  have hpos := c.precision_pos
  have hcount := Decimal.digits_zeros hm 0 k
  obtain ⟨-, hhigh⟩ := hfits
  have hlead : (Decimal.mk (m * 10 ^ k) 0).lead = (Decimal.mk (m * 10 ^ k) 0).digits := sub_zero _
  have htarget : target = -((Decimal.mk (m * 10 ^ k) 0).digits - c.precision : ℕ) := zero_sub _
  have hround : (Decimal.mk (m * 10 ^ k) 0).RoundFits target :=
    .inr ⟨⟨by omega, by omega⟩, ⟨by omega, by omega⟩⟩
  refine ⟨⟨by omega, by omega⟩, hround, ?_⟩
  intro hcarried
  have hrounded : rounded = _ := Decimal.roundAt_zeros c.rounding hm (by omega) hround
  rw [hrounded, Decimal.digits_zeros hm] at hcarried
  omega

/-- What plain notation writes is printed again as it was, though it may be longer than the
precision. -/
theorem plain_round_plainForm (hx : x.coeff ≠ 0 ∨ 0 ≤ x.scale) (hdigits : x.digits ≤ c.precision)
    (hfits : FitsScale x.plainForm.digits) : (c.round x.plainForm).plain = x.plain := by
  rcases le_or_gt 0 x.scale with hscale | hscale
  · rw [Decimal.plainForm_of_nonneg hscale, round_of_digits_le hdigits]
  · have hne : x.coeff ≠ 0 := hx.resolve_right (not_le.2 hscale)
    obtain ⟨m, s⟩ := x
    replace hscale : s < 0 := hscale
    obtain ⟨k, rfl⟩ : ∃ k : ℕ, s = -k := ⟨(-s).toNat, by omega⟩
    rw [Decimal.plainForm_zeros hne] at hfits ⊢
    obtain ⟨j, hj, hround⟩ := round_zeros hne hdigits (roundFits_zeros hne hdigits hfits)
    have hzeros := Decimal.plainChars_zeros hne (show 0 - (j : Int) ≤ 0 by omega) (k - j)
    have hplaces : 0 - (j : Int) - (k - j : ℕ) = -k := by omega
    rw [hround, Decimal.plain, hzeros, hplaces, Decimal.plain]

end Context

/-! ## Printed values -/

/-- A printed value is evaluated to the number that it was rounded to, in any session with the same
context, and this number is printed as the same text. -/
theorem Session.eval_format {σ : Type} {s s' : Session σ} (hcontext : s'.context = s.context)
    {v : Decimal} (hv : v.coeff ≠ 0 ∨ 0 ≤ v.scale) (hfits : s.context.RoundFits v)
    (hscale : (s.context.round v).scale ≤ maxPrecision)
    (hdigits : FitsScale (s.context.round v).plainForm.digits) (state : σ) :
    ∃ w, s'.eval (s.format v) state = (.ok w, state) ∧
      w.toRat = (s.context.round v).toRat ∧ s'.format w = s.format v := by
  have hround : (s.context.round v).coeff ≠ 0 ∨ 0 ≤ (s.context.round v).scale := by
    by_cases hzero : v.coeff = 0
    · have hone : v.digits = 1 := by
        rw [Decimal.digits, hzero, Int.natAbs_zero, digitCount_zero]
      right
      rw [Context.round_of_digits_le (hone.trans_le s.context.precision_pos)]
      exact hv.resolve_left (not_not.2 hzero)
    · exact .inl (Context.round_ne_zero hfits hzero)
  refine ⟨(s.context.round v).plainForm, ?_, ?_, ?_⟩
  · exact s'.eval_plain hscale state
  · exact Decimal.toRat_plainForm _
  · rw [Session.format, hcontext]
    exact Context.plain_round_plainForm hround (Context.digits_round_le hfits) hdigits

/-- Three digits of a negative number, with zeros up to the point. -/
theorem Session.eval_format_padded :
    let c : Context := ⟨3, .up, by decide, by decide⟩
    let s : Session Unit := ⟨Session.new.env.withContext c⟩
    let v : Decimal := ⟨-123456, -2⟩
    (s.defineValue "x" v).format v = "-12400000" ∧
      ∃ w, s.eval "-12400000" () = (.ok w, ()) ∧ w.toRat = (c.round v).toRat ∧
        s.format w = "-12400000" := by
  intro c s v
  have hround : c.round v = ⟨-124, -5⟩ := by decide +kernel
  have htext : (s.defineValue "x" v).format v = "-12400000" := by
    show (c.round v).plain = _
    rw [hround]
    decide +kernel
  have hfits : c.RoundFits v := by
    intro _
    have htarget : v.scale - (v.digits - c.precision : ℕ) = -5 := by decide +kernel
    have hlead : v.lead = 8 := by decide +kernel
    have hdigits : (v.roundAt c.rounding (-5)).digits = 3 := by decide +kernel
    rw [htarget]
    refine ⟨⟨by decide, by decide⟩, .inr ?_, ?_⟩
    · rw [hlead]
      exact ⟨⟨by decide, by decide⟩, ⟨by decide, by decide⟩⟩
    · intro hcarried
      exact absurd hdigits (ne_of_gt hcarried)
  have hzeros : FitsScale (c.round v).plainForm.digits := by
    have hdigits : (c.round v).plainForm.digits = 8 := by decide +kernel
    rw [hdigits]
    exact ⟨by decide, by decide⟩
  have hscale : (c.round v).scale ≤ maxPrecision := by
    rw [hround]
    decide
  have hne : v.coeff ≠ 0 := by decide
  have hused : c = (s.defineValue "x" v).context := rfl
  have hcontext : s.context = (s.defineValue "x" v).context := hused
  rw [hused] at hfits hscale hzeros
  have hreread := Session.eval_format hcontext (.inl hne) hfits hscale hzeros ()
  rw [htext] at hreread
  exact ⟨htext, hreread⟩

end Reckon
