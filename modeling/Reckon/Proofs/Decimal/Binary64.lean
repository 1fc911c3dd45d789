import Reckon.Decimal.Binary64
import Reckon.Proofs.Decimal.Extent

/-!
# Decimals that come from doubles

A finite double has 53 significant bits between the places `2 ^ (-1074)` and `2 ^ 1023`, so its
shortest digits stand between the places `10 ^ (-341)` and `10 ^ 309`.

* `Binary64.parts_bounds`: significand and exponent of a finite double.
* `Binary64.Interval.search_bounds`, `Binary64.shortest_bounds`: the digits that are found, and
  their place.
* `Decimal.within_of_ofFloat?`: so much for the decimal of a double.
-/

namespace Reckon

namespace Binary64

theorem parts_bounds {bits : ℕ} (h : isFiniteBits bits = true) :
    (parts bits).1 < 2 ^ 53 ∧ -1074 ≤ (parts bits).2 ∧ (parts bits).2 ≤ 971 := by
  rw [isFiniteBits, bne_iff_ne] at h
  have hfield : bits / 2 ^ 52 % 2 ^ 11 < 2 ^ 11 := Nat.mod_lt _ (by decide)
  have hlow : bits % 2 ^ 52 < 2 ^ 52 := Nat.mod_lt _ (by decide)
  unfold parts
  generalize bits / 2 ^ 52 % 2 ^ 11 = field at *
  generalize bits % 2 ^ 52 = low at *
  dsimp only
  split <;> dsimp only <;> omega

namespace Interval

variable {i : Interval}

theorem onGrid?_le {k : ℤ} {a : ℕ} (h : i.onGrid? k = some a) : a ≤ i.value * i.unit k + 1 := by
  have hbelow : i.value * i.unit k / i.gridStep k ≤ i.value * i.unit k := Nat.div_le_self _ _
  unfold onGrid? at h
  dsimp only at h
  split at h
  · split at h <;> cases h <;> omega
  · split at h
    · cases h
      omega
    · split at h
      · cases h
        omega
      · cases h

/-- The grid that holds a number is one of those that are tried. -/
theorem search_bounds (i : Interval) (tries : ℕ) (k : ℤ) :
    k - tries ≤ (i.search tries k).2 ∧ (i.search tries k).2 ≤ k ∧
      (i.search tries k).1 ≤ i.value * i.unit (i.search tries k).2 + 1 := by
  induction tries generalizing k with
  | zero =>
    refine ⟨by simp [search], le_rfl, ?_⟩
    exact (Nat.div_le_self _ _).trans (Nat.le_succ _)
  | succ tries ih =>
    unfold search
    split
    · next a ha => exact ⟨by dsimp only; omega, le_rfl, onGrid?_le ha⟩
    · obtain ⟨hlow, hhigh, hdigits⟩ := ih (k - 1)
      exact ⟨by omega, by omega, hdigits⟩

end Interval

variable {m : ℕ} {e : ℤ}

theorem unit_interval_le {places bound : ℕ} {k : ℤ} (hk : -k ≤ places) (he : e ≤ bound + 2) :
    (interval m e).unit k ≤ 10 ^ places * 2 ^ bound := by
  have hexponent : (e - 2).toNat ≤ bound := by omega
  have hplaces : (-k).toNat ≤ places := by omega
  exact Nat.mul_le_mul (Nat.pow_le_pow_right (by decide) hplaces)
    (Nat.pow_le_pow_right (by decide) hexponent)

theorem decimalExponent_bounds (hpos : 0 < m) (hm : m < 2 ^ 53) (he : -1074 ≤ e)
    (he' : e ≤ 971) :
    -324 ≤ (interval m e).decimalExponent ∧ (interval m e).decimalExponent ≤ 308 := by
  have hnum : digitCount (4 * m * 2 ^ (e - 2).toNat) ≤ 309 := by
    refine digitCount_le (by positivity) ?_
    calc 4 * m * 2 ^ (e - 2).toNat
        < 2 ^ 55 * 2 ^ (e - 2).toNat := Nat.mul_lt_mul_of_pos_right (by omega) (by positivity)
      _ ≤ 2 ^ 55 * 2 ^ 969 :=
          Nat.mul_le_mul_left _ (Nat.pow_le_pow_right (by decide) (by omega))
      _ < 10 ^ 309 := by decide +kernel
  have hden : digitCount (2 ^ (-(e - 2)).toNat) ≤ 324 := by
    refine digitCount_le (by positivity) ?_
    calc 2 ^ (-(e - 2)).toNat
        ≤ 2 ^ 1076 := Nat.pow_le_pow_right (by decide) (by omega)
      _ < 10 ^ 324 := by decide +kernel
  have hnumpos := digitCount_pos (4 * m * 2 ^ (e - 2).toNat)
  have hdenpos := digitCount_pos (2 ^ (-(e - 2)).toNat)
  have hcases : (interval m e).decimalExponent =
        (digitCount (4 * m * 2 ^ (e - 2).toNat) : ℤ) - digitCount (2 ^ (-(e - 2)).toNat) ∨
      (interval m e).decimalExponent =
        (digitCount (4 * m * 2 ^ (e - 2).toNat) : ℤ) - digitCount (2 ^ (-(e - 2)).toNat) - 1 := by
    unfold Interval.decimalExponent
    dsimp only
    split
    · exact .inl rfl
    · exact .inr rfl
  omega

/-- The shortest digits of a double and their place. -/
theorem shortest_bounds (hpos : 0 < m) (hm : m < 2 ^ 53) (he : -1074 ≤ e) (he' : e ≤ 971) :
    (shortest m e).1 ≤ 10 ^ 651 ∧ -341 ≤ (shortest m e).2 ∧ (shortest m e).2 ≤ 309 := by
  obtain ⟨hlow, hhigh⟩ := decimalExponent_bounds hpos hm he he'
  obtain ⟨hfrom, hto, hdigits⟩ :=
    (interval m e).search_bounds 18 ((interval m e).decimalExponent + 1)
  rw [shortest]
  generalize (interval m e).search 18 ((interval m e).decimalExponent + 1) = found at *
  refine ⟨hdigits.trans ?_, by omega, by omega⟩
  have hvalue : (interval m e).value ≤ 2 ^ 55 := by
    show 4 * m ≤ 2 ^ 55
    omega
  calc (interval m e).value * (interval m e).unit found.2 + 1
      ≤ 2 ^ 55 * (10 ^ 341 * 2 ^ 969) + 1 :=
        Nat.succ_le_succ (Nat.mul_le_mul hvalue (unit_interval_le (by omega) (by omega)))
    _ ≤ 10 ^ 651 := by decide +kernel

end Binary64

namespace Decimal

variable {x : Decimal}

theorem within_of_natAbs_lt {w : ℕ} (hscale : 0 ≤ x.scale) (hw : x.scale ≤ w)
    (h : x.coeff.natAbs < 10 ^ w) : x.Within w := by
  refine ⟨by omega, hw, ?_⟩
  by_cases hx : x.coeff = 0
  · rw [toRat_eq_zero_iff.2 hx, abs_zero]
    positivity
  · refine abs_toRat_lt_of_lead_le ?_
    have hdigits : x.digits ≤ w := digitCount_le (Int.natAbs_pos.2 hx) h
    rw [lead]
    omega

theorem within_of_ofBits? {bits : ℕ} (h : ofBits? bits = some x) : x.Within 1000 := by
  unfold ofBits? at h
  split at h
  · next hfinite =>
    obtain ⟨hm, he, he'⟩ := Binary64.parts_bounds hfinite
    generalize Binary64.parts bits = parts at *
    obtain ⟨m, e⟩ := parts
    dsimp only at *
    split at h
    · cases h
      exact within_zero.mono (by decide)
    · next hne =>
      cases h
      obtain ⟨hdigits, hlow, hhigh⟩ :=
        Binary64.shortest_bounds (Nat.pos_of_ne_zero hne) hm he he'
      generalize Binary64.shortest m e = found at *
      refine within_of_natAbs_lt ?_ ?_ ?_
      · dsimp only
        omega
      · dsimp only
        omega
      · have hsign : ((if bits / 2 ^ 63 % 2 = 1 then -1 else 1 : ℤ)).natAbs = 1 := by
          split <;> rfl
        dsimp only
        rw [Int.natAbs_mul, hsign, one_mul, Int.natAbs_natCast]
        calc found.1 * 10 ^ found.2.toNat
            ≤ 10 ^ 651 * 10 ^ 309 :=
              Nat.mul_le_mul hdigits (Nat.pow_le_pow_right (by decide) (by omega))
          _ < 10 ^ 1000 := by decide +kernel
  · cases h

/-- The decimal of a double has a small scale, and is not large. -/
theorem within_of_ofFloat? {v : Float} (h : ofFloat? v = some x) : x.Within 1000 :=
  within_of_ofBits? h

end Decimal

end Reckon
