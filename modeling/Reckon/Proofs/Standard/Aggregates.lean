import Mathlib.Data.List.MinMax
import Mathlib.Data.List.Perm.Basic
import Reckon.Proofs.Context.IntegerPower
import Reckon.Proofs.Context.NaturalScale
import Reckon.Proofs.Standard.Numbers

/-!
# Arguments in another order

`sum` and `avg` give the same form for their arguments in any order: an addition raises the scale
also when a sum comes to zero on the way. `min` and `max` give the same number, in the form of the
first argument that has it.

* `Decimal.add_exchange`, `sum_of_perm`: forms may be added in any order.
* `scale_sum`: the scale of a sum is the largest of zero and the scales of its arguments.
* `IsFirst`: the first number that comes before all of them in an order; `isFirst_least`,
  `isFirst_greatest`.
* `aggregates_of_perm`: what the functions give for the arguments in two orders.
-/

namespace Reckon

/-- Two forms may be added in either order. -/
theorem Decimal.add_exchange (x y z : Decimal) : (x.add y).add z = (x.add z).add y := by
  refine eq_of_toRat_eq ?_ (max_right_comm ..)
  rw [toRat_add, toRat_add, toRat_add, toRat_add, add_right_comm]

namespace Standard

variable {args args' xs : List Decimal} {m m' : Decimal} {r : ℚ → ℚ → Prop}

/-! ## Sums -/

theorem sum_of_perm (h : args.Perm args') : sum args = sum args' :=
  h.foldl_eq' (fun x _ y _ total => Decimal.add_exchange total x y) Decimal.zero

/-- The scale of a sum is the largest of zero and the scales of its arguments. -/
theorem scale_sum (xs : List Decimal) : (sum xs).scale = (xs.map Decimal.scale).foldl max 0 := by
  rw [sum, List.foldl_map]
  exact (List.foldl_hom Decimal.scale fun _ _ => rfl).symm

theorem avg_of_perm (c : Context) (h : args.Perm args') : avg c args = avg c args' := by
  rw [avg, avg, sum_of_perm h, h.length_eq]

/-- The number of some arguments is no zero divisor. -/
theorem exists_avg (c : Context) (h : args ≠ []) : ∃ v, avg c args = .ok v := by
  cases havg : avg c args with
  | ok v => exact ⟨v, rfl⟩
  | error err =>
    obtain ⟨hcount, -⟩ := Context.divide_eq_error_iff.1 havg
    rw [Decimal.toRat_ofInt, Int.cast_natCast, Nat.cast_eq_zero, List.length_eq_zero_iff] at hcount
    exact absurd hcount h

/-! ## Extremes -/

/-- `m` is the first of the numbers `xs` that come before all of them in the order `r`. -/
structure IsFirst (r : ℚ → ℚ → Prop) (xs : List Decimal) (m : Decimal) : Prop where
  mem : m ∈ xs
  extreme : ∀ x ∈ xs, r m.toRat x.toRat
  first : ∀ x ∈ xs, (∀ y ∈ xs, r x.toRat y.toRat) → xs.idxOf m ≤ xs.idxOf x

theorem IsFirst.unique (hm : IsFirst r xs m) (hm' : IsFirst r xs m') : m = m' :=
  (List.idxOf_inj hm.mem).1
    (Nat.le_antisymm (hm.first m' hm'.mem hm'.extreme) (hm'.first m hm.mem hm.extreme))

/-- In another order, the first such number is a form of the same number. -/
theorem IsFirst.toRat_eq [Std.Antisymm r] (hm : IsFirst r args m) (hm' : IsFirst r args' m')
    (h : args.Perm args') : m.toRat = m'.toRat :=
  antisymm (hm.extreme m' (h.mem_iff.2 hm'.mem)) (hm'.extreme m (h.mem_iff.1 hm.mem))

/-- The function keeps the first of the least numbers, and so does `argmin`. -/
theorem argmin_eq_least (x : Decimal) (xs : List Decimal) :
    (x :: xs).argmin Decimal.toRat = some (least x xs) := by
  refine List.foldl_hom some fun best x => ?_
  simp only [List.argAux, Decimal.less_iff]
  split <;> rfl

theorem argmax_eq_greatest (x : Decimal) (xs : List Decimal) :
    (x :: xs).argmax Decimal.toRat = some (greatest x xs) := by
  refine List.foldl_hom some fun best x => ?_
  simp only [List.argAux, Decimal.less_iff]
  split <;> rfl

theorem isFirst_least (x : Decimal) (xs : List Decimal) :
    IsFirst (· ≤ ·) (x :: xs) (least x xs) := by
  obtain ⟨hmem, hle, hfirst⟩ := List.argmin_eq_some_iff.1 (argmin_eq_least x xs)
  exact ⟨hmem, hle, fun y hy h => hfirst y hy (h _ hmem)⟩

theorem isFirst_greatest (x : Decimal) (xs : List Decimal) :
    IsFirst (· ≥ ·) (x :: xs) (greatest x xs) := by
  obtain ⟨hmem, hle, hfirst⟩ := List.argmax_eq_some_iff.1 (argmax_eq_greatest x xs)
  exact ⟨hmem, hle, fun y hy h => hfirst y hy (h _ hmem)⟩

/-! ## The functions by name -/

/-- The sum and the average of some arguments are the same form in any order, and the sum is the
total at the largest of the scales. The extremes are forms of the same number: each is the first
argument that is not above, or not below, any of them. -/
theorem aggregates_of_perm (c : Context) (hargs : args ≠ []) (hperm : args.Perm args') :
    (∃ b ∈ functions, b.name = "sum" ∧ ∃ v, b.call c args = .ok v ∧ b.call c args' = .ok v ∧
        v.toRat = (args.map Decimal.toRat).sum ∧
        v.scale = (args.map Decimal.scale).foldl max 0) ∧
      (∃ b ∈ functions, b.name = "avg" ∧ ∃ v, b.call c args = .ok v ∧ b.call c args' = .ok v) ∧
      (∃ b ∈ functions, b.name = "min" ∧ ∃ m m', b.call c args = .ok m ∧
        b.call c args' = .ok m' ∧ m.toRat = m'.toRat ∧
        IsFirst (· ≤ ·) args m ∧ IsFirst (· ≤ ·) args' m') ∧
      ∃ b ∈ functions, b.name = "max" ∧ ∃ m m', b.call c args = .ok m ∧
        b.call c args' = .ok m' ∧ m.toRat = m'.toRat ∧
        IsFirst (· ≥ ·) args m ∧ IsFirst (· ≥ ·) args' m' := by
  obtain ⟨v, havg⟩ := exists_avg c hargs
  have havg' : avg c args' = .ok v := (avg_of_perm c hperm).symm.trans havg
  have hsum : sum args' = sum args := (sum_of_perm hperm).symm
  have hargs' : args' ≠ [] := mt (fun hnil => (hnil ▸ hperm : args.Perm []).eq_nil) hargs
  obtain ⟨x, xs, rfl⟩ := List.exists_cons_of_ne_nil hargs
  obtain ⟨y, ys, rfl⟩ := List.exists_cons_of_ne_nil hargs'
  have hleast := isFirst_least x xs
  have hleast' := isFirst_least y ys
  have hgreatest := isFirst_greatest x xs
  have hgreatest' := isFirst_greatest y ys
  refine ⟨⟨⟨"sum", .many fun _ x xs => .ok (sum (x :: xs))⟩, by simp [functions], rfl, ?_⟩,
    ⟨⟨"avg", .many fun c x xs => avg c (x :: xs)⟩, by simp [functions], rfl, v, havg, havg'⟩,
    ⟨⟨"min", .many fun _ x xs => .ok (least x xs)⟩, by simp [functions], rfl, ?_⟩,
    ⟨"max", .many fun _ x xs => .ok (greatest x xs)⟩, by simp [functions], rfl, ?_⟩
  · exact ⟨_, rfl, congrArg Except.ok hsum, toRat_sum _, scale_sum _⟩
  · exact ⟨_, _, rfl, rfl, hleast.toRat_eq hleast' hperm, hleast, hleast'⟩
  · exact ⟨_, _, rfl, rfl, hgreatest.toRat_eq hgreatest' hperm, hgreatest, hgreatest'⟩

/-- A sum that comes to zero on the way in one order, and two forms of the least number. -/
theorem aggregates_of_perm_reverse :
    let args : List Decimal := [⟨5, 1⟩, ⟨-50, 2⟩, ⟨0, 5⟩, ⟨-5, 1⟩]
    args ≠ [] ∧ args.Perm args.reverse ∧
      (∃ b ∈ functions, b.name = "sum" ∧ ∃ v, b.call .default args = .ok v ∧
        b.call .default args.reverse = .ok v ∧ v = ⟨-50000, 5⟩) ∧
      ∃ b ∈ functions, b.name = "min" ∧ ∃ m m', b.call .default args = .ok m ∧
        b.call .default args.reverse = .ok m' ∧ m.toRat = m'.toRat ∧ m = ⟨-50, 2⟩ ∧
        m' = ⟨-5, 1⟩ := by
  intro args
  have hargs : args ≠ [] := List.cons_ne_nil _ _
  have hperm : args.Perm args.reverse := args.reverse_perm.symm
  obtain ⟨⟨sumOf, hsumOf, hsumName, v, hsum, hsum', hvalue, hscale⟩, -,
    ⟨minOf, hminOf, hminName, m, m', hmin, hmin', hm, hfirst, hfirst'⟩, -⟩ :=
      aggregates_of_perm .default hargs hperm
  refine ⟨hargs, hperm, ⟨sumOf, hsumOf, hsumName, v, hsum, hsum', ?_⟩,
    minOf, hminOf, hminName, m, m', hmin, hmin', hm, ?_, ?_⟩
  · refine Decimal.eq_of_toRat_eq (hvalue.trans ?_) hscale
    norm_num [args, Decimal.toRat]
  · have hleast : least ⟨5, 1⟩ [⟨-50, 2⟩, ⟨0, 5⟩, ⟨-5, 1⟩] = ⟨-50, 2⟩ := by decide +kernel
    exact hfirst.unique (hleast ▸ isFirst_least _ _)
  · have hleast : least ⟨-5, 1⟩ [⟨0, 5⟩, ⟨-50, 2⟩, ⟨5, 1⟩] = ⟨-5, 1⟩ := by decide +kernel
    exact hfirst'.unique (hleast ▸ isFirst_least _ _)

end Standard

end Reckon
