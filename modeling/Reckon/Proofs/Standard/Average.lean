import Mathlib.Algebra.Order.BigOperators.Group.List
import Reckon.Proofs.Context.CorrectRounding
import Reckon.Proofs.Standard.Aggregates
import Reckon.Proofs.Standard.Extent

/-!
# Averages

`avg` adds exactly and rounds once, when it divides. Rounding keeps the order of numbers, so an
average lies between the rounded extremes, though it may lie outside the extremes themselves.

* `mean`: the exact mean. `le_mean`, `mean_le`: it lies between any bounds of the numbers.
* `avg_eq_rounded_mean`: an average is the mean, rounded to the precision.
* `average_between`: so it has no more digits than that and lies between the rounded extremes, and
  the average of equal numbers is the number, rounded.
-/

namespace Reckon.Standard

variable {c : Context} {args : List Decimal} {q : ℚ}

/-- The exact mean of some numbers. -/
def mean (args : List Decimal) : ℚ := (args.map Decimal.toRat).sum / args.length

theorem length_cast_pos (h : args ≠ []) : (0 : ℚ) < args.length :=
  Nat.cast_pos.2 (List.length_pos_iff.2 h)

theorem le_mean (hargs : args ≠ []) (h : ∀ x ∈ args, q ≤ x.toRat) : q ≤ mean args := by
  have hsum := List.card_nsmul_le_sum (args.map Decimal.toRat) q (List.forall_mem_map.2 h)
  rw [List.length_map, nsmul_eq_mul] at hsum
  rwa [mean, le_div_iff₀ (length_cast_pos hargs), mul_comm]

theorem mean_le (hargs : args ≠ []) (h : ∀ x ∈ args, x.toRat ≤ q) : mean args ≤ q := by
  have hsum := List.sum_le_card_nsmul (args.map Decimal.toRat) q (List.forall_mem_map.2 h)
  rw [List.length_map, nsmul_eq_mul] at hsum
  rwa [mean, div_le_iff₀ (length_cast_pos hargs), mul_comm]

/-- The mean is rounded once, and to no more digits than the precision. -/
theorem avg_eq_rounded_mean (hargs : args ≠ [])
    (h : c.DivideFits (sum args) (.ofInt args.length)) {v : Decimal} (hv : avg c args = .ok v) :
    v.digits ≤ c.precision ∧ v.toRat = c.rounding.toDigits c.precision (mean args) := by
  have hcount : (Decimal.ofInt args.length).toRat = args.length := by
    rw [Decimal.toRat_ofInt, Int.cast_natCast]
  have hne : (Decimal.ofInt args.length).toRat ≠ 0 := hcount ▸ (length_cast_pos hargs).ne'
  obtain ⟨u, hu, hvalue⟩ := Context.toRat_divide? hne h
  have hdigits := Context.digits_divide?_le hne h.scalesFit hu
  rw [avg, Context.divide, hu] at hv
  obtain rfl := Except.ok.inj hv
  rw [toRat_sum, hcount] at hvalue
  exact ⟨hdigits, hvalue⟩

/-- Some numbers have an average. It is their exact mean, rounded once to the precision, and lies
between their extremes when these are rounded as well. The average of copies of a number is the
rounded number. Where the scales fit, so does the number of zeros that the division takes, because
the numbers are counted in 64 bits. -/
theorem average_between (c : Context) :
    (∃ b ∈ functions, b.name = "avg" ∧ ∀ x xs, b.call c (x :: xs) = avg c (x :: xs)) ∧
      (∃ b ∈ functions, b.name = "min" ∧ ∀ x xs, b.call c (x :: xs) = .ok (least x xs)) ∧
      (∃ b ∈ functions, b.name = "max" ∧ ∀ x xs, b.call c (x :: xs) = .ok (greatest x xs)) ∧
      ∀ x xs, ∃ v, avg c (x :: xs) = .ok v ∧
        ((x :: xs).length < 2 ^ 64 →
          c.DivideScalesFit (sum (x :: xs)) (.ofInt (x :: xs).length) →
          c.DivideFits (sum (x :: xs)) (.ofInt (x :: xs).length)) ∧
        (c.DivideFits (sum (x :: xs)) (.ofInt (x :: xs).length) →
          v.digits ≤ c.precision ∧
          (∀ q, c.rounding.Rounds c.precision (mean (x :: xs)) q ↔ q = v.toRat) ∧
          (c.RoundFits (least x xs) → (c.round (least x xs)).toRat ≤ v.toRat) ∧
          (c.RoundFits (greatest x xs) → v.toRat ≤ (c.round (greatest x xs)).toRat) ∧
          ∀ y n, x :: xs = List.replicate n y → c.RoundFits y → v.toRat = (c.round y).toRat) := by
  refine ⟨⟨⟨"avg", .many fun c x xs => avg c (x :: xs)⟩, by simp [functions], rfl, fun _ _ => rfl⟩,
    ⟨⟨"min", .many fun _ x xs => .ok (least x xs)⟩, by simp [functions], rfl, fun _ _ => rfl⟩,
    ⟨⟨"max", .many fun _ x xs => .ok (greatest x xs)⟩, by simp [functions], rfl, fun _ _ => rfl⟩,
    fun x xs => ?_⟩
  have hargs : x :: xs ≠ [] := List.cons_ne_nil x xs
  obtain ⟨v, hv⟩ := exists_avg c hargs
  refine ⟨v, hv, divideFits_of_length, fun hfits => ?_⟩
  obtain ⟨hdigits, hvalue⟩ := avg_eq_rounded_mean hargs hfits hv
  have hround {q r : ℚ} (hle : q ≤ r) := c.rounding.toDigits_mono c.precision_pos hle
  refine ⟨hdigits, fun q => ?_, fun hlow => ?_, fun hhigh => ?_, fun y n hcopies hy => ?_⟩
  · rw [hvalue]
    exact Rounding.rounds_iff c.precision_pos
  · rw [Context.toRat_round hlow, hvalue]
    exact hround (le_mean hargs (isFirst_least x xs).extreme)
  · rw [Context.toRat_round hhigh, hvalue]
    exact hround (mean_le hargs (isFirst_greatest x xs).extreme)
  · have hequal : ∀ z ∈ x :: xs, z = y := by
      rw [hcopies]
      exact fun z hz => List.eq_of_mem_replicate hz
    have hmean : mean (x :: xs) = y.toRat :=
      le_antisymm (mean_le hargs fun z hz => (congrArg Decimal.toRat (hequal z hz)).le)
        (le_mean hargs fun z hz => (congrArg Decimal.toRat (hequal z hz)).ge)
    rw [Context.toRat_round hy, hvalue, hmean]

/-- The mean of two numbers with more digits than the precision is rounded below both of them, as
the lesser one is. -/
theorem average_between_outside :
    let c : Context := ⟨3, .up, by decide, by decide⟩
    let x : Decimal := ⟨-12345, 2⟩
    let y : Decimal := ⟨-12355, 2⟩
    c.DivideFits (sum [x, y]) (.ofInt [x, y].length) ∧ c.RoundFits y ∧ c.RoundFits x ∧
      least x [y] = y ∧ greatest x [y] = x ∧ avg c [x, y] = .ok ⟨-124, 0⟩ ∧
      c.rounding.Rounds 3 (mean [x, y]) (-124) ∧ (c.round y).toRat ≤ -124 ∧
      -124 ≤ (c.round x).toRat := by
  intro c x y
  have hextents : ∀ z ∈ [x, y], z.extent ≤ 5 := by decide +kernel
  have hwithin : ∀ z ∈ [x, y], z.Within 5 := fun z hz => z.within_extent.mono (hextents z hz)
  have hy : c.RoundFits y := Context.roundFits_of_within y.within_extent (by decide +kernel)
  have hx : c.RoundFits x := Context.roundFits_of_within x.within_extent (by decide +kernel)
  have havg : avg c [x, y] = .ok ⟨-124, 0⟩ := by decide +kernel
  have hleast : least x [y] = y := by decide +kernel
  have hgreatest : greatest x [y] = x := by decide +kernel
  obtain ⟨-, -, -, hall⟩ := average_between c
  obtain ⟨v, hv, hfew, hbetween⟩ := hall x [y]
  have hfits : c.DivideFits (sum [x, y]) (.ofInt [x, y].length) :=
    hfew (by decide) (within_avg hwithin (by decide +kernel)).1
  obtain ⟨-, hrounds, hlow, hhigh, -⟩ := hbetween hfits
  rw [havg] at hv
  obtain rfl := Except.ok.inj hv
  have hvalue : (Decimal.mk (-124) 0).toRat = -124 := by
    rw [Decimal.toRat_mk]
    norm_num
  rw [hleast, hvalue] at hlow
  rw [hgreatest, hvalue] at hhigh
  exact ⟨hfits, hy, hx, hleast, hgreatest, havg, (hrounds _).2 hvalue.symm, hlow hy, hhigh hx⟩

end Reckon.Standard
