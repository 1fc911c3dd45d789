import Reckon.Proofs.Decimal.WholeNumbers
import Reckon.Proofs.Standard.Extent

/-!
# Floors and ceilings

`floor` and `ceil` round twice in their own direction, to a whole number and to the precision,
whatever the direction of the context.

* `Decimal.WholeFits`: the digits in front of the point can be written out.
  `within_integral_of_wholeFits`, `integralFits_integral`: then no scale leaves its 64 bits, nor
  does one when the result is rounded again.
* `isGreatest_integral`, `isLeast_integral`: the result is the tightest whole number with as few
  digits as the precision asks for.
* `integral_tightest`: so neither function crosses its argument, they are mirror images of each
  other, keep the order of numbers and leave their own results as they are.
-/

namespace Reckon

/-- The scale fits its word, and the digits in front of the point are few enough to be written
out. -/
structure Decimal.WholeFits (x : Decimal) : Prop where
  scale : FitsScale x.scale
  lead : x.lead < 2 ^ 62

namespace Decimal

variable {x : Decimal}

theorem WholeFits.neg (h : x.WholeFits) : x.neg.WholeFits := by
  have hlead : x.neg.lead = x.lead := by
    rw [Decimal.lead, digits, Decimal.neg, Int.natAbs_neg]
    rfl
  exact ⟨h.scale, hlead.trans_lt h.lead⟩

theorem WholeFits.roundFits (h : x.WholeFits) : x.RoundFits 0 := by
  refine .inr ⟨?_, by decide, by decide⟩
  obtain ⟨⟨-, hhigh⟩, hlead⟩ := h
  have hlow := x.one_sub_scale_le_lead
  constructor <;> omega

/-- A whole number next to `x` reaches one place farther than the digits in front of the point. -/
theorem WholeFits.within_roundAt (r : Rounding) (h : x.WholeFits) :
    (x.roundAt r 0).Within (x.lead.toNat + 1) := by
  refine ⟨?_, ?_, ?_⟩
  · rw [scale_roundAt]
    omega
  · rw [scale_roundAt]
    omega
  · have hsize : |x.toRat| < 10 ^ x.lead.toNat := abs_toRat_lt_of_lead_le (Int.self_le_toNat _)
    rw [toRat_roundAt r h.roundFits]
    exact (abs_atScale_le r (by omega) hsize).trans_lt
      (pow_lt_pow_right₀ (by norm_num) (Nat.lt_succ_self _))

end Decimal

namespace Standard

open Rounding

variable {c : Context} {x : Decimal}

/-! ## Scales -/

theorem within_integral_of_wholeFits (r : Rounding) (c : Context) (hx : x.WholeFits) :
    IntegralFits r c x ∧ (integral r c x).Within (x.lead.toNat + 2) := by
  have hlead := hx.lead
  obtain ⟨hround, hwithin⟩ :=
    Context.within_round (c := c.withRounding r) (hx.within_roundAt r) (by omega)
  exact ⟨⟨hx.roundFits, hround⟩, hwithin⟩

/-- The result can be rounded again. -/
theorem integralFits_integral (r : Rounding) (c : Context) (hx : x.WholeFits) :
    IntegralFits r c (integral r c x) := by
  have hlead := hx.lead
  exact (within_integral r (within_integral_of_wholeFits r c hx).2 (by omega)).1

/-! ## The tightest whole numbers -/

theorem isGreatest_integral (h : IntegralFits .floor c x) :
    IsGreatest {z | z ∈ ShortWhole c.precision ∧ z ≤ x.toRat} (integral .floor c x).toRat := by
  rw [toRat_integral h]
  exact isGreatest_floor c.precision_pos x.toRat

theorem isLeast_integral (h : IntegralFits .ceiling c x) :
    IsLeast {z | z ∈ ShortWhole c.precision ∧ x.toRat ≤ z} (integral .ceiling c x).toRat := by
  rw [toRat_integral h]
  exact isLeast_ceiling c.precision_pos x.toRat

theorem floor_mem_functions : ⟨"floor", .one fun c x => .ok (integral .floor c x)⟩ ∈ functions := by
  simp [functions]

theorem ceil_mem_functions : ⟨"ceil", .one fun c x => .ok (integral .ceiling c x)⟩ ∈ functions := by
  simp [functions]

/-- `floor` gives the greatest whole number with as few digits as the precision asks for that is
not above its argument, and `ceil` the least one that is not below it. -/
theorem integral_tightest (c : Context) :
    (∃ b ∈ functions, b.name = "floor" ∧ ∀ x, b.call c [x] = .ok (integral .floor c x)) ∧
      (∃ b ∈ functions, b.name = "ceil" ∧ ∀ x, b.call c [x] = .ok (integral .ceiling c x)) ∧
      ∀ x : Decimal, x.WholeFits →
        IsGreatest {z | z ∈ ShortWhole c.precision ∧ z ≤ x.toRat} (integral .floor c x).toRat ∧
        IsLeast {z | z ∈ ShortWhole c.precision ∧ x.toRat ≤ z} (integral .ceiling c x).toRat ∧
        (integral .floor c x).toRat ≤ x.toRat ∧ x.toRat ≤ (integral .ceiling c x).toRat ∧
        (integral .ceiling c x).toRat = -(integral .floor c x.neg).toRat ∧
        (∀ y : Decimal, y.WholeFits → x.toRat ≤ y.toRat →
          (integral .floor c x).toRat ≤ (integral .floor c y).toRat ∧
          (integral .ceiling c x).toRat ≤ (integral .ceiling c y).toRat) ∧
        (integral .floor c (integral .floor c x)).toRat = (integral .floor c x).toRat ∧
        (integral .ceiling c (integral .ceiling c x)).toRat = (integral .ceiling c x).toRat := by
  refine ⟨⟨_, floor_mem_functions, rfl, fun x => rfl⟩, ⟨_, ceil_mem_functions, rfl, fun x => rfl⟩,
    fun x hx => ?_⟩
  have hfloor {x : Decimal} (hx : x.WholeFits) :=
    isGreatest_integral (within_integral_of_wholeFits .floor c hx).1
  have hceil {x : Decimal} (hx : x.WholeFits) :=
    isLeast_integral (within_integral_of_wholeFits .ceiling c hx).1
  refine ⟨hfloor hx, hceil hx, (hfloor hx).1.2, (hceil hx).1.2, ?_, ?_, ?_, ?_⟩
  · rw [toRat_integral (within_integral_of_wholeFits .ceiling c hx).1,
      toRat_integral (within_integral_of_wholeFits .floor c hx.neg).1, Decimal.toRat_neg]
    exact toDigits_ceiling c.precision x.toRat
  · intro y hy hxy
    refine ⟨(hfloor hy).2 ⟨(hfloor hx).1.1, (hfloor hx).1.2.trans hxy⟩, ?_⟩
    exact (hceil hx).2 ⟨(hceil hy).1.1, hxy.trans (hceil hy).1.2⟩
  · have hself := isGreatest_integral (integralFits_integral .floor c hx)
    exact le_antisymm hself.1.2 (hself.2 ⟨(hfloor hx).1.1, le_rfl⟩)
  · have hself := isLeast_integral (integralFits_integral .ceiling c hx)
    exact le_antisymm (hself.2 ⟨(hceil hx).1.1, le_rfl⟩) hself.1.2

/-- Of two digits the last one stands for tens here, and the ceiling carries. -/
theorem integral_tightest_negative :
    let c : Context := ⟨2, .halfEven, by decide, by decide⟩
    let x : Decimal := ⟨-9950001, 4⟩
    x.WholeFits ∧ integral .floor c x = ⟨-10, -2⟩ ∧ integral .ceiling c x = ⟨-99, -1⟩ ∧
      IsGreatest {z | z ∈ ShortWhole 2 ∧ z ≤ x.toRat} (-1000) ∧
      IsLeast {z | z ∈ ShortWhole 2 ∧ x.toRat ≤ z} (-990) := by
  intro c x
  have hx : x.WholeFits := ⟨⟨by decide, by decide⟩, by decide +kernel⟩
  have hfloor : integral .floor c x = ⟨-10, -2⟩ := by decide +kernel
  have hceil : integral .ceiling c x = ⟨-99, -1⟩ := by decide +kernel
  obtain ⟨-, -, hall⟩ := integral_tightest c
  obtain ⟨hgreatest, hleast, -⟩ := hall x hx
  have hlow : (Decimal.mk (-10) (-2)).toRat = -1000 := by
    rw [Decimal.toRat_mk]
    norm_num
  have hhigh : (Decimal.mk (-99) (-1)).toRat = -990 := by
    rw [Decimal.toRat_mk]
    norm_num
  rw [hfloor, hlow] at hgreatest
  rw [hceil, hhigh] at hleast
  exact ⟨hx, hfloor, hceil, hgreatest, hleast⟩

end Standard

end Reckon
