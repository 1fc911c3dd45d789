import Reckon.Proofs.Operator.Numbers
import Reckon.Standard

/-!
# Standard functions on the numbers

Like an operator, a standard function that does not go through doubles gives what the numbers of
its arguments say.

* `toRat_sum`, `toRat_least`, `toRat_greatest`, `toRat_integral`, `outcome_avg`, `outcome_round`:
  one function each.
* `numeric`: the functions on numbers, by name.
* `Regular`: no scale leaves its 64 bits and no number of zeros its 32 bits, and no double is asked
  for.
* `outcome_call`: then the outcome of a call is that of the numbers.
-/

namespace Reckon.Standard

variable {c : Context} {x places : Decimal}

/-! ## Sums and extremes -/

theorem toRat_sum (xs : List Decimal) : (sum xs).toRat = (xs.map Decimal.toRat).sum := by
  have hfold : (sum xs).toRat = xs.foldl (fun q x => q + x.toRat) 0 := by
    rw [sum, ← Decimal.toRat_zero]
    exact (List.foldl_hom Decimal.toRat fun x y => (Decimal.toRat_add x y).symm).symm
  rw [hfold, List.sum_eq_foldl, List.foldl_map]

theorem toRat_least (x : Decimal) (xs : List Decimal) :
    (least x xs).toRat = (xs.map Decimal.toRat).foldl min x.toRat := by
  rw [least, List.foldl_map]
  refine (List.foldl_hom Decimal.toRat fun best x => ?_).symm
  split
  · next hless => exact min_eq_right (Decimal.less_iff.1 hless).le
  · next hless => exact min_eq_left (not_lt.1 (mt Decimal.less_iff.2 hless))

theorem toRat_greatest (x : Decimal) (xs : List Decimal) :
    (greatest x xs).toRat = (xs.map Decimal.toRat).foldl max x.toRat := by
  rw [greatest, List.foldl_map]
  refine (List.foldl_hom Decimal.toRat fun best x => ?_).symm
  split
  · next hless => exact max_eq_right (Decimal.less_iff.1 hless).le
  · next hless => exact max_eq_left (not_lt.1 (mt Decimal.less_iff.2 hless))

theorem outcome_avg {xs : List Decimal} (h : c.DivideFits (sum xs) (.ofInt xs.length)) :
    outcome (avg c xs) = c.numericDivide (xs.map Decimal.toRat).sum xs.length := by
  rw [avg, Context.outcome_divide h, toRat_sum, Decimal.toRat_ofInt, Int.cast_natCast]

/-! ## Rounding -/

/-- No scale leaves its 64 bits on the way to a whole number. -/
def IntegralFits (r : Rounding) (c : Context) (x : Decimal) : Prop :=
  x.RoundFits 0 ∧ (c.withRounding r).RoundFits (x.roundAt r 0)

theorem toRat_integral {r : Rounding} (h : IntegralFits r c x) :
    (integral r c x).toRat = r.toDigits c.precision (r.atScale 0 x.toRat) := by
  rw [integral, Context.toRat_round h.2, Decimal.toRat_roundAt r h.1]
  rfl

/-- The places that a number asks for. -/
def numericPlaces (q : ℚ) : Except EvalError.Variant ℕ :=
  if q = ⌊q⌋₊ ∧ ⌊q⌋₊ ≤ maxPrecision then .ok ⌊q⌋₊ else .error .invalidArgument

theorem natural_iff (x : Decimal) :
    x.isInteger = true ∧ ¬ x.isNegative = true ↔ x.toRat = ⌊x.toRat⌋₊ := by
  rw [Decimal.isInteger_iff, Decimal.isNegative_iff, not_lt]
  constructor
  · rintro ⟨⟨n, hn⟩, hnonneg⟩
    rw [hn, Int.cast_nonneg_iff] at hnonneg
    lift n to ℕ using hnonneg
    rw [hn, Int.cast_natCast, Nat.floor_natCast]
  · intro h
    refine ⟨⟨⌊x.toRat⌋₊, by rw [Int.cast_natCast, ← h]⟩, ?_⟩
    rw [h]
    exact Nat.cast_nonneg _

theorem roundPlaces_cases (places : Decimal) :
    (∃ n, roundPlaces places = .ok n ∧ numericPlaces places.toRat = .ok n) ∨
      ∃ what, roundPlaces places = .error (.invalidArgument what) ∧
        numericPlaces places.toRat = .error .invalidArgument := by
  have hrefused : (!places.isInteger || places.isNegative) = true ↔
      ¬ places.toRat = ⌊places.toRat⌋₊ := by
    rw [← natural_iff]
    cases places.isInteger <;> cases places.isNegative <;> decide
  unfold roundPlaces numericPlaces
  by_cases h : places.toRat = ⌊places.toRat⌋₊
  · have hwhole : places.whole = ⌊places.toRat⌋₊ := by
      have hnonneg : 0 ≤ places.toRat := by
        rw [h]
        exact Nat.cast_nonneg _
      rw [Decimal.whole_eq_floor, abs_of_nonneg hnonneg]
    rw [if_neg (mt hrefused.1 (not_not.2 h)), hwhole]
    by_cases hlarge : maxPrecision < ⌊places.toRat⌋₊
    · refine .inr ⟨_, if_pos hlarge, if_neg ?_⟩
      rintro ⟨-, hsmall⟩
      exact absurd hlarge (not_lt.2 hsmall)
    · exact .inl ⟨_, if_neg hlarge, if_pos ⟨h, not_lt.1 hlarge⟩⟩
  · refine .inr ⟨_, if_pos (hrefused.2 h), if_neg ?_⟩
    rintro ⟨hnumber, -⟩
    exact h hnumber

/-- The number `q` rounded to the given number of places. -/
def numericRound (c : Context) (q : ℚ) (places : Except EvalError.Variant ℕ) :
    Except EvalError.Variant ℚ := places.map fun n => c.rounding.atScale n q

theorem outcome_round (h : ∀ n : ℕ, roundPlaces places = .ok n → x.RoundFits n) :
    outcome (round c x (some places)) = numericRound c x.toRat (numericPlaces places.toRat) := by
  rcases roundPlaces_cases places with ⟨n, hn, hnumber⟩ | ⟨what, hwhat, hnumber⟩
  · simp only [round, Option.elim_some, hn, hnumber]
    exact congrArg Except.ok (Decimal.toRat_roundAt c.rounding (h n hn))
  · simp only [round, Option.elim_some, hwhat, hnumber]
    rfl

/-! ## Calls -/

/-- The result of a function on numbers. -/
def numeric (c : Context) (name : String) (qs : List ℚ) : Except EvalError.Variant ℚ :=
  match name, qs with
  | "abs", [q] => .ok |q|
  | "sum", q :: qs => .ok (q :: qs).sum
  | "avg", q :: qs => c.numericDivide (q :: qs).sum (q :: qs).length
  | "floor", [q] => .ok (Rounding.floor.toDigits c.precision (Rounding.floor.atScale 0 q))
  | "ceil", [q] => .ok (Rounding.ceiling.toDigits c.precision (Rounding.ceiling.atScale 0 q))
  | "round", [q] => numericRound c q (.ok 0)
  | "round", [q, places] => numericRound c q (numericPlaces places)
  | "min", q :: qs => .ok (qs.foldl min q)
  | "max", q :: qs => .ok (qs.foldl max q)
  | "if", [q, yes, no] => .ok (if q = 0 then no else yes)
  | _, _ => .error .arity

/-- No scale leaves its 64 bits and no number of zeros its 32 bits, and no double is asked for. -/
def Regular (c : Context) (name : String) (xs : List Decimal) : Prop :=
  match name, xs with
  | "avg", xs => c.DivideFits (sum xs) (.ofInt xs.length)
  | "floor", [x] => IntegralFits .floor c x
  | "ceil", [x] => IntegralFits .ceiling c x
  | "round", [x] => x.RoundFits 0
  | "round", [x, places] => ∀ n : ℕ, roundPlaces places = .ok n → x.RoundFits n
  | "ln", _ => False
  | "log", _ => False
  | "√", _ => False
  | "sqrt", _ => False
  | _, _ => True

/-- The outcome of a call is that of the numbers. -/
theorem outcome_call {b : Primitive} (hb : b ∈ functions) {xs : List Decimal}
    (h : Regular c b.name xs) : outcome (b.call c xs) = numeric c b.name (xs.map Decimal.toRat) := by
  revert h
  revert b
  simp only [functions, List.forall_mem_cons]
  refine ⟨?_, ?_, ?_, ?_, ?_, ?_, ?_, ?_, ?_, ?_, ?_, ?_, ?_, nofun⟩
  · intro _
    rcases xs with _ | ⟨x, _ | ⟨y, ys⟩⟩
    · rfl
    · exact congrArg Except.ok x.toRat_abs
    · rfl
  · intro _
    rcases xs with _ | ⟨x, xs⟩
    · rfl
    · exact congrArg Except.ok (toRat_sum (x :: xs))
  · intro h
    rcases xs with _ | ⟨x, xs⟩
    · rfl
    · have havg := outcome_avg h
      rwa [← @List.length_map _ _ (x :: xs) Decimal.toRat] at havg
  · intro h
    rcases xs with _ | ⟨x, _ | ⟨y, ys⟩⟩
    · rfl
    · exact congrArg Except.ok (toRat_integral h)
    · rfl
  · intro h
    rcases xs with _ | ⟨x, _ | ⟨y, ys⟩⟩
    · rfl
    · exact congrArg Except.ok (toRat_integral h)
    · rfl
  · intro h
    rcases xs with _ | ⟨x, _ | ⟨y, _ | ⟨z, zs⟩⟩⟩
    · rfl
    · exact congrArg Except.ok (Decimal.toRat_roundAt c.rounding h)
    · exact outcome_round h
    · rfl
  · intro _
    rcases xs with _ | ⟨x, xs⟩
    · rfl
    · exact congrArg Except.ok (toRat_least x xs)
  · intro _
    rcases xs with _ | ⟨x, xs⟩
    · rfl
    · exact congrArg Except.ok (toRat_greatest x xs)
  · intro _
    rcases xs with _ | ⟨x, _ | ⟨y, _ | ⟨z, _ | ⟨w, ws⟩⟩⟩⟩
    · rfl
    · rfl
    · rfl
    · refine congrArg Except.ok ?_
      simp only [Decimal.isZero_iff]
      split <;> rfl
    · rfl
  all_goals exact fun h => h.elim

end Reckon.Standard
