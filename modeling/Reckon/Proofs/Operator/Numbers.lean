import Reckon.Proofs.Decimal.Equality
import Reckon.Proofs.Decimal.Power
import Reckon.Proofs.Decimal.Quotient
import Reckon.Proofs.Evaluation.Budget

/-!
# Operators on the numbers

What an operator gives is a matter of the numbers of its operands, whatever their forms.

* `EvalError.Variant`, `outcomeOf`, `outcome`: the number of a result, or which error it is.
* `Operator.numericDecided?`, `Operator.numeric`: the operators on numbers. Only quotients, among
  them powers with negative exponents, are rounded.
* `Operator.Regular`: no scale leaves its 64 bits and no number of zeros its 32 bits, an exponent is
  whole, and no carry is lost where equality is decided.
* `Operator.outcome_result`: then the outcome is that of the numbers.
-/

namespace Reckon

/-! ## Outcomes -/

/-- Which error it is, whatever it says. -/
inductive EvalError.Variant where
  | undefinedVariable
  | undefinedFunction
  | circularDefinition
  | nestingTooDeep
  | arity
  | invalidArgument
  | divisionByZero
  | overflow
deriving DecidableEq

def EvalError.variant : EvalError → Variant
  | undefinedVariable _ => .undefinedVariable
  | undefinedFunction _ => .undefinedFunction
  | circularDefinition _ => .circularDefinition
  | nestingTooDeep => .nestingTooDeep
  | arity .. => .arity
  | invalidArgument _ => .invalidArgument
  | divisionByZero => .divisionByZero
  | overflow _ => .overflow

/-- What `p` says of a result, or which error it is. -/
def outcomeOf {α β : Type} (p : α → β) : Except EvalError α → Except EvalError.Variant β
  | .ok a => .ok (p a)
  | .error err => .error err.variant

/-- The number of a result, or which error it is. -/
abbrev outcome : Except EvalError Decimal → Except EvalError.Variant ℚ := outcomeOf Decimal.toRat

theorem outcome_ok (x : Decimal) : outcome (.ok x) = .ok x.toRat := rfl

/-! ## Quotients and powers -/

namespace Context

variable {c : Context} {x y : Decimal}

/-- The quotient of two numbers, rounded once. -/
def numericDivide (c : Context) (q r : ℚ) : Except EvalError.Variant ℚ :=
  if r = 0 then .error .divisionByZero else .ok (c.rounding.toDigits c.precision (q / r))

theorem outcome_divide (h : c.DivideFits x y) :
    outcome (c.divide x y) = c.numericDivide x.toRat y.toRat := by
  by_cases hy : y.toRat = 0
  · have hnone : c.divide? x y = none := (divide?_eq_none_iff c x y).2 hy
    rw [divide, hnone, numericDivide, if_pos hy]
    rfl
  · obtain ⟨q, hsome, hq⟩ := toRat_divide? hy h
    rw [divide, hsome, numericDivide, if_neg hy, ← hq]
    rfl

/-- A power of two numbers of which the second one is whole. -/
def numericPower (c : Context) (q r : ℚ) : Except EvalError.Variant ℚ :=
  if q = 0 ∧ r < 0 then .error .divisionByZero
  else if maxExponent < ⌊|r|⌋₊ then .error .overflow
  else if r < 0 then c.numericDivide 1 (q ^ ⌊|r|⌋₊)
  else .ok (q ^ ⌊|r|⌋₊)

/-- No scale leaves its 64 bits on the way to a power with a whole exponent, and no number of zeros
its 32 bits. -/
def PowerFits (c : Context) (base exponent : Decimal) : Prop :=
  ¬ (base.isZero = true ∧ exponent.isNegative = true) → exponent.whole ≤ maxExponent →
    base.PowFits exponent.whole ∧
      (exponent.isNegative = true → c.DivideFits .one (base.pow exponent.whole))

theorem outcome_power (hwhole : y.isInteger = true) (h : c.PowerFits x y) :
    outcome (c.power x y) = c.numericPower x.toRat y.toRat := by
  unfold power numericPower
  rw [if_pos hwhole]
  simp only [← Decimal.isZero_iff, ← Decimal.isNegative_iff, Bool.and_eq_true]
  split
  · rfl
  · next hbase =>
    unfold integerPower
    rw [← Decimal.whole_eq_floor]
    split
    · rfl
    · next hexponent =>
      obtain ⟨hpow, hdivide⟩ := h hbase (not_lt.1 hexponent)
      split
      · next hneg =>
        rw [outcome_divide (hdivide hneg), Decimal.toRat_pow hpow, Decimal.toRat_one]
      · rw [outcome_ok, Decimal.toRat_pow hpow]

end Context

/-! ## Operators -/

/-- The result of an arithmetic operator on numbers; of a power, if the exponent is whole. -/
def ArithmeticOp.numeric (op : ArithmeticOp) (c : Context) (q r : ℚ) :
    Except EvalError.Variant ℚ :=
  match op with
  | .add => .ok (q + r)
  | .sub => .ok (q - r)
  | .mul => .ok (q * r)
  | .div => c.numericDivide q r
  | .rem => if r = 0 then .error .divisionByZero else .ok (remainder q r)
  | .pow => c.numericPower q r

/-- Whether a comparison is true of two numbers. -/
def ComparisonOp.Relates (op : ComparisonOp) (q r : ℚ) : Prop :=
  match op with
  | .equal => q = r
  | .notEqual => q ≠ r
  | .less => q < r
  | .greater => r < q
  | .lessEqual => q ≤ r
  | .greaterEqual => r ≤ q

instance (op : ComparisonOp) (q r : ℚ) : Decidable (op.Relates q r) := by
  cases op <;> unfold ComparisonOp.Relates <;> infer_instance

namespace Operator

/-- The number that a left operand decides alone. -/
def numericDecided? : Operator → ℚ → Option ℚ
  | logic .and, q => if q = 0 then some 0 else none
  | logic .or, q => if q = 0 then none else some 1
  | _, _ => none

/-- The outcome for the numbers of both operands. -/
def numeric (c : Context) : Operator → ℚ → ℚ → Except EvalError.Variant ℚ
  | arithmetic op, q, r => op.numeric c q r
  | comparison op, q, r => .ok (if op.Relates q r then 1 else 0)
  | logic _, _, r => .ok (if r = 0 then 0 else 1)

/-- No scale leaves its 64 bits and no number of zeros its 32 bits, an exponent is whole, and no
carry is lost where equality is decided. -/
def Regular (c : Context) : Operator → Decimal → Decimal → Prop
  | arithmetic .mul, x, y => x.MulFits y
  | arithmetic .div, x, y => c.DivideFits x y
  | arithmetic .pow, x, y => y.isInteger = true ∧ c.PowerFits x y
  | comparison .equal, x, y => x.Bridges y
  | comparison .notEqual, x, y => x.Bridges y
  | _, _, _ => True

variable {op : Operator} {c : Context} {x y : Decimal}

theorem map_toRat_decided? (op : Operator) (x : Decimal) :
    (op.decided? x).map Decimal.toRat = op.numericDecided? x.toRat := by
  rcases op with op | op | op
  · rfl
  · rfl
  · cases op <;> simp only [decided?, numericDecided?, Decimal.isZero_iff] <;> split <;>
      simp [Decimal.toRat_zero, Decimal.toRat_one]

end Operator

theorem ComparisonOp.holds_iff {op : ComparisonOp} {c : Context} {x y : Decimal}
    (h : Operator.Regular c (.comparison op) x y) :
    op.holds x y = true ↔ op.Relates x.toRat y.toRat := by
  cases op with
  | equal => exact Decimal.same_iff h
  | notEqual =>
    rw [holds, Bool.not_eq_true', Bool.eq_false_iff, ne_eq, Decimal.same_iff h]
    rfl
  | less => rw [holds, Decimal.cmp_eq, beq_iff_eq, compare_lt_iff_lt, Relates]
  | greater => rw [holds, Decimal.cmp_eq, beq_iff_eq, compare_gt_iff_gt, Relates]
  | lessEqual => rw [holds, Decimal.cmp_eq, bne_iff_ne, ne_eq, compare_gt_iff_gt, not_lt, Relates]
  | greaterEqual =>
    rw [holds, Decimal.cmp_eq, bne_iff_ne, ne_eq, compare_lt_iff_lt, not_lt, Relates]

/-- The outcome of an operator is that of the numbers. -/
theorem Operator.outcome_result {op : Operator} {c : Context} {x y : Decimal}
    (h : op.Regular c x y) : outcome (op.result c x y) = op.numeric c x.toRat y.toRat := by
  rcases op with op | op | op
  · cases op with
    | add => rw [result, ArithmeticOp.apply, outcome_ok, Decimal.toRat_add]; rfl
    | sub => rw [result, ArithmeticOp.apply, outcome_ok, Decimal.toRat_sub]; rfl
    | mul => rw [result, ArithmeticOp.apply, outcome_ok, Decimal.toRat_mul h]; rfl
    | div => exact Context.outcome_divide h
    | rem =>
      simp only [result, ArithmeticOp.apply, numeric, ArithmeticOp.numeric, Decimal.isZero_iff]
      split
      · rfl
      · rw [outcome_ok, Decimal.toRat_rem]
    | pow => exact Context.outcome_power h.1 h.2
  · rw [result, outcome_ok, Decimal.toRat_ofBool, numeric]
    simp only [ComparisonOp.holds_iff h]
  · rw [result, outcome_ok, Decimal.toRat_ofBool, numeric]
    simp only [Bool.not_eq_true', Bool.eq_false_iff, Decimal.isZero_iff, ne_eq, ite_not]

end Reckon
