import Reckon.Proofs.Operator.Extent
import Reckon.Proofs.Standard.Numbers

/-!
# How far functions carry scales

* `Standard.Fits`: no scale leaves its 64 bits in a call.
* `Standard.extent`: a bound on the extent of the result, given that of the arguments and their
  number.
* `Standard.divideFits_of_length`: the divisor of a mean is too short for a division that loses
  zeros.
* `Standard.fits_of_within`, `Standard.within_of_call`: where this bound is at most `2 ^ 61`, all
  scales fit, and the result is within it.
-/

namespace Reckon

/-! ## Calls by arity -/

namespace Primitive

variable {name : String} {c : Context} {xs : List Decimal} {v : Decimal}

theorem call_one_inv {f : Context → Decimal → Except EvalError Decimal}
    (h : (Primitive.mk name (.one f)).call c xs = .ok v) : ∃ x, xs = [x] ∧ f c x = .ok v := by
  rcases xs with _ | ⟨x, _ | ⟨y, ys⟩⟩
  · cases h
  · exact ⟨x, rfl, h⟩
  · cases h

theorem call_oneOrTwo_inv {f : Context → Decimal → Option Decimal → Except EvalError Decimal}
    (h : (Primitive.mk name (.oneOrTwo f)).call c xs = .ok v) :
    ∃ x ∈ xs, ∃ y, f c x y = .ok v := by
  rcases xs with _ | ⟨x, _ | ⟨y, _ | ⟨z, zs⟩⟩⟩
  · cases h
  · exact ⟨x, List.mem_cons_self, .none, h⟩
  · exact ⟨x, List.mem_cons_self, some y, h⟩
  · cases h

theorem call_three_inv {f : Context → Decimal → Decimal → Decimal → Except EvalError Decimal}
    (h : (Primitive.mk name (.three f)).call c xs = .ok v) :
    ∃ x y z, xs = [x, y, z] ∧ f c x y z = .ok v := by
  rcases xs with _ | ⟨x, _ | ⟨y, _ | ⟨z, _ | ⟨u, us⟩⟩⟩⟩
  · cases h
  · cases h
  · cases h
  · exact ⟨x, y, z, rfl, h⟩
  · cases h

theorem call_many_inv {f : Context → Decimal → List Decimal → Except EvalError Decimal}
    (h : (Primitive.mk name (.many f)).call c xs = .ok v) :
    ∃ x ys, xs = x :: ys ∧ f c x ys = .ok v := by
  cases xs with
  | nil => cases h
  | cons x ys => exact ⟨x, ys, rfl, h⟩

end Primitive

namespace Standard

variable {c : Context} {x v : Decimal} {xs : List Decimal} {w : ℕ}

/-! ## Sums and extremes -/

/-- The scales that are aligned in a sum are no farther apart than 64 bits tell. -/
def SumFits : Decimal → List Decimal → Prop
  | _, [] => True
  | acc, x :: xs => FitsScale (acc.scale - x.scale) ∧ SumFits (acc.add x) xs

theorem within_foldl_add (count : ℕ) {acc : Decimal} (hacc : acc.Within (w + count))
    (hxs : ∀ x ∈ xs, x.Within w) (h : w + count + xs.length ≤ 2 ^ 61) :
    SumFits acc xs ∧ (xs.foldl Decimal.add acc).Within (w + count + xs.length) := by
  induction xs generalizing acc count with
  | nil => exact ⟨trivial, hacc⟩
  | cons x xs ih =>
    rw [List.length_cons] at h ⊢
    have hx : x.Within (w + count) := (hxs x List.mem_cons_self).mono (Nat.le_add_right w count)
    have hfits := Operator.fits_difference hacc hx (by omega)
    have hadd : (acc.add x).Within (w + (count + 1)) := (hacc.add hx).mono (by omega)
    obtain ⟨hrest, hsum⟩ :=
      ih (count + 1) hadd (fun y hy => hxs y (List.mem_cons_of_mem x hy)) (by omega)
    exact ⟨⟨hfits, hrest⟩, hsum.mono (by omega)⟩

theorem within_sum (hxs : ∀ x ∈ xs, x.Within w) (h : w + xs.length ≤ 2 ^ 61) :
    SumFits .zero xs ∧ (sum xs).Within (w + xs.length) :=
  within_foldl_add 0 (Decimal.within_zero.mono (Nat.zero_le w)) hxs h

theorem within_avg (hxs : ∀ x ∈ xs, x.Within w)
    (h : w + 2 * xs.length + maxPrecision + 2 ≤ 2 ^ 61) :
    c.DivideScalesFit (sum xs) (.ofInt xs.length) ∧
      ∀ v, avg c xs = .ok v → v.Within (w + 2 * xs.length + maxPrecision + 2) := by
  have hprecision := c.precision_le
  obtain ⟨-, hsum⟩ := within_sum hxs (by omega)
  obtain ⟨hfits, hwithin⟩ :=
    Context.within_divide (c := c) hsum (Decimal.within_natCast xs.length) (by omega)
  exact ⟨hfits, fun v hv => (hwithin v hv).mono (by omega)⟩

/-- A number of arguments that fits 64 bits has few digits, so an average loses no zeros. -/
theorem divideFits_of_length (hlength : xs.length < 2 ^ 64)
    (h : c.DivideScalesFit (sum xs) (.ofInt xs.length)) :
    c.DivideFits (sum xs) (.ofInt xs.length) := by
  refine h.imp_right (Or.imp_right fun hfits => ⟨?_, hfits⟩)
  have hprecision : c.precision ≤ 100000 := c.precision_le
  have hdigits : digitCount xs.length ≤ 20 := by
    rcases Nat.eq_zero_or_pos xs.length with hzero | hpos
    · rw [hzero, digitCount_zero]
      decide
    · exact digitCount_le hpos (hlength.trans (by decide))
  show c.precision + 2 + digitCount xs.length - _ < 2 ^ 32
  omega

/-- Any two scales are no farther apart than 64 bits tell. -/
def ExtremeFits (xs : List Decimal) : Prop :=
  ∀ x ∈ xs, ∀ y ∈ xs, FitsScale (x.scale - y.scale)

theorem extremeFits (hxs : ∀ x ∈ xs, x.Within w) (h : w < 2 ^ 61) : ExtremeFits xs :=
  fun x hx y hy => Operator.fits_difference (hxs x hx) (hxs y hy) (by omega)

/-- One of the numbers is chosen. -/
theorem foldl_mem {choose : Decimal → Decimal → Decimal}
    (hchoose : ∀ x y, choose x y = x ∨ choose x y = y) (x : Decimal) (xs : List Decimal) :
    xs.foldl choose x ∈ x :: xs := by
  induction xs generalizing x with
  | nil => exact List.mem_cons_self
  | cons y ys ih =>
    rcases List.mem_cons.1 (ih (choose x y)) with hfirst | hrest
    · rw [List.foldl_cons, hfirst]
      rcases hchoose x y with h | h <;> rw [h] <;> simp
    · exact List.mem_cons_of_mem _ (List.mem_cons_of_mem _ hrest)

theorem within_least (hxs : ∀ y ∈ x :: xs, y.Within w) : (least x xs).Within w := by
  refine hxs _ (foldl_mem (fun best y => ?_) x xs)
  split
  · exact .inr rfl
  · exact .inl rfl

theorem within_greatest (hxs : ∀ y ∈ x :: xs, y.Within w) : (greatest x xs).Within w := by
  refine hxs _ (foldl_mem (fun best y => ?_) x xs)
  split
  · exact .inr rfl
  · exact .inl rfl

/-! ## Rounding -/

theorem within_integral (r : Rounding) (hx : x.Within w) (h : w + 4 < 2 ^ 63) :
    IntegralFits r c x ∧ (integral r c x).Within (w + 2) := by
  have hplace : x.RoundFits 0 := hx.roundFits ⟨by decide, by decide⟩ (by omega)
  have hwhole := hx.roundAt r (by omega) (by omega) hplace
  obtain ⟨hround, hwithin⟩ := Context.within_round (c := c.withRounding r) hwhole (by omega)
  exact ⟨⟨hplace, hround⟩, hwithin⟩

theorem roundPlaces_le {places : Decimal} {n : ℕ} (h : roundPlaces places = .ok n) :
    n ≤ maxPrecision := by
  unfold roundPlaces at h
  split at h
  · cases h
  · split at h
    · cases h
    · next hplaces =>
      cases h
      exact not_lt.1 hplaces

theorem within_roundAt_places {n : ℕ} (hx : x.Within w) (hn : n ≤ maxPrecision)
    (h : w + maxPrecision + 1 < 2 ^ 63) :
    x.RoundFits n ∧ (x.roundAt c.rounding n).Within (w + maxPrecision + 1) := by
  have hsmall : maxPrecision < 2 ^ 63 := by decide
  have hfits : x.RoundFits n := by
    refine hx.roundFits ?_ (by omega)
    constructor <;> omega
  have hwide : x.Within (w + maxPrecision) := hx.mono (Nat.le_add_right w _)
  exact ⟨hfits, hwide.roundAt c.rounding (by omega) (by omega) hfits⟩

theorem within_round (hx : x.Within w) (h : w + maxPrecision + 1 < 2 ^ 63)
    (places : Option Decimal) (hv : round c x places = .ok v) :
    v.Within (w + maxPrecision + 1) := by
  cases places with
  | none =>
    cases hv
    exact (within_roundAt_places (n := 0) hx (Nat.zero_le _) h).2
  | some places =>
    rw [round, Option.elim_some] at hv
    cases hn : roundPlaces places with
    | error err =>
      rw [hn] at hv
      cases hv
    | ok n =>
      rw [hn] at hv
      cases hv
      exact (within_roundAt_places hx (roundPlaces_le hn) h).2

/-! ## Functions of doubles -/

/-- No scale leaves its 64 bits when the result of a function of doubles is rounded. -/
def FloatFits (f : Float → Float) (c : Context) (x : Decimal) : Prop :=
  ∀ v y, x.toFiniteFloat? = some v → Decimal.ofFloat? (f v) = some y → c.RoundFits y

theorem floatFits (f : Float → Float) (c : Context) (x : Decimal) : FloatFits f c x :=
  fun _ _ _ h => (Context.within_round_of_ofFloat? h).1

theorem within_throughFloat {name : String} {f : Float → Float}
    (h : throughFloat name f c x = .ok v) : v.Within 1001 := by
  unfold throughFloat at h
  split at h
  · cases h
  · split at h
    · cases h
    · next hy =>
      cases h
      exact (Context.within_round_of_ofFloat? hy).2

theorem within_ln (h : ln c x = .ok v) : v.Within 1001 := by
  unfold ln at h
  split at h
  · exact within_throughFloat h
  · cases h

theorem within_log (h : log c x = .ok v) : v.Within 1001 := by
  unfold log at h
  split at h
  · exact within_throughFloat h
  · cases h

theorem within_sqrt (h : sqrt c x = .ok v) : v.Within 1001 := by
  unfold sqrt at h
  split at h
  · cases h
  · exact within_throughFloat h

/-! ## Calls -/

/-- No scale leaves its 64 bits in a call. -/
def Fits (c : Context) (name : String) (xs : List Decimal) : Prop :=
  match name, xs with
  | "sum", xs => SumFits .zero xs
  | "avg", xs => SumFits .zero xs ∧ c.DivideScalesFit (sum xs) (.ofInt xs.length)
  | "floor", [x] => IntegralFits .floor c x
  | "ceil", [x] => IntegralFits .ceiling c x
  | "round", [x] => x.RoundFits 0
  | "round", [x, places] => ∀ n : ℕ, roundPlaces places = .ok n → x.RoundFits n
  | "min", xs => ExtremeFits xs
  | "max", xs => ExtremeFits xs
  | "ln", [x] => FloatFits Float.log c x
  | "log", [x] => FloatFits Float.log10 c x
  | "√", [x] => FloatFits Float.sqrt c x
  | "sqrt", [x] => FloatFits Float.sqrt c x
  | _, _ => True

/-- How far a result reaches, for so many arguments that reach as far as `w`. -/
def extent (w count : ℕ) : ℕ := w + 2 * count + maxPrecision + 2

theorem le_extent (w count : ℕ) : w ≤ extent w count := by
  unfold extent
  omega

/-- No call makes a scale leave its 64 bits. -/
theorem fits_of_within (name : String) (hxs : ∀ x ∈ xs, x.Within w)
    (h : extent w xs.length ≤ 2 ^ 61) : Fits c name xs := by
  unfold extent at h
  have hsum := (within_sum hxs (by omega)).1
  have hextreme : ExtremeFits xs := extremeFits hxs (by omega)
  unfold Fits
  split
  · exact hsum
  · exact ⟨hsum, (within_avg hxs h).1⟩
  · exact (within_integral .floor (hxs _ List.mem_cons_self) (by omega)).1
  · exact (within_integral .ceiling (hxs _ List.mem_cons_self) (by omega)).1
  · exact (within_roundAt_places (c := c) (n := 0) (hxs _ List.mem_cons_self) (Nat.zero_le _)
      (by omega)).1
  · intro n hn
    exact (within_roundAt_places (c := c) (hxs _ List.mem_cons_self) (roundPlaces_le hn)
      (by omega)).1
  · exact hextreme
  · exact hextreme
  · exact floatFits _ c _
  · exact floatFits _ c _
  · exact floatFits _ c _
  · exact floatFits _ c _
  · trivial

/-- No call goes farther than the extent says. -/
theorem within_of_call {b : Primitive} (hb : b ∈ functions) (hxs : ∀ x ∈ xs, x.Within w)
    (h : extent w xs.length ≤ 2 ^ 61) :
    ∀ v, b.call c xs = .ok v → v.Within (extent w xs.length) := by
  have hsmall : 1001 ≤ maxPrecision := by decide
  unfold extent at h ⊢
  have hdouble {v : Decimal} (hv : v.Within 1001) :
      v.Within (w + 2 * xs.length + maxPrecision + 2) := hv.mono (by omega)
  revert b
  simp only [functions, List.forall_mem_cons]
  refine ⟨?_, ?_, ?_, ?_, ?_, ?_, ?_, ?_, ?_, ?_, ?_, ?_, ?_, List.forall_mem_nil _⟩
  · intro v hv
    obtain ⟨x, rfl, hv⟩ := Primitive.call_one_inv hv
    cases hv
    exact (hxs x List.mem_cons_self).abs.mono (by omega)
  · intro v hv
    obtain ⟨x, ys, rfl, hv⟩ := Primitive.call_many_inv hv
    cases hv
    exact (within_sum hxs (by omega)).2.mono (by omega)
  · intro v hv
    obtain ⟨x, ys, rfl, hv⟩ := Primitive.call_many_inv hv
    exact (within_avg hxs h).2 v hv
  · intro v hv
    obtain ⟨x, rfl, hv⟩ := Primitive.call_one_inv hv
    cases hv
    exact (within_integral .floor (hxs x List.mem_cons_self) (by omega)).2.mono (by omega)
  · intro v hv
    obtain ⟨x, rfl, hv⟩ := Primitive.call_one_inv hv
    cases hv
    exact (within_integral .ceiling (hxs x List.mem_cons_self) (by omega)).2.mono (by omega)
  · intro v hv
    obtain ⟨x, hx, places, hv⟩ := Primitive.call_oneOrTwo_inv hv
    exact (within_round (hxs x hx) (by omega) places hv).mono (by omega)
  · intro v hv
    obtain ⟨x, ys, rfl, hv⟩ := Primitive.call_many_inv hv
    cases hv
    exact (within_least hxs).mono (by omega)
  · intro v hv
    obtain ⟨x, ys, rfl, hv⟩ := Primitive.call_many_inv hv
    cases hv
    exact (within_greatest hxs).mono (by omega)
  · intro v hv
    obtain ⟨x, y, z, rfl, hv⟩ := Primitive.call_three_inv hv
    cases hv
    split
    · exact (hxs z (by simp)).mono (by omega)
    · exact (hxs y (by simp)).mono (by omega)
  · intro v hv
    obtain ⟨x, -, hv⟩ := Primitive.call_one_inv hv
    exact hdouble (within_ln hv)
  · intro v hv
    obtain ⟨x, -, hv⟩ := Primitive.call_one_inv hv
    exact hdouble (within_log hv)
  · intro v hv
    obtain ⟨x, -, hv⟩ := Primitive.call_one_inv hv
    exact hdouble (within_sqrt hv)
  · intro v hv
    obtain ⟨x, -, hv⟩ := Primitive.call_one_inv hv
    exact hdouble (within_sqrt hv)

end Standard

end Reckon
