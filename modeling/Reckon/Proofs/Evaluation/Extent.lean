import Reckon.Proofs.Evaluation.Performed
import Reckon.Proofs.Standard.Extent

/-!
# How far the scales of an evaluation go

Each operator adds up the extents of its operands, and a power multiplies the extent of its base. So
a tree has an extent that can be told without evaluating it.

* `Expr.exponent`: the largest exponent that a tree may give.
* `Expr.extent`, `Environment.extent`: the extent of a tree, given those of its names; the extents
  of names are those of their definitions.
* `within_evalWithin`: where the extent is at most `2 ^ 61`, a value is within it.
* `Action.Fits`, `fits_of_performs`: and no scale on the way leaves its 64 bits.
-/

namespace Reckon

/-! ## Trees -/

namespace Expr

/-- The largest exponent that a tree may give: known of a number, otherwise the largest allowed. -/
def exponent : Expr → ℕ
  | literal x => min x.whole maxExponent
  | negation operand => operand.exponent
  | grouping inner => inner.exponent
  | _ => maxExponent

mutual

/-- How far the value of a tree reaches, for names that reach as far as given. -/
def extent (names : String → ℕ) : Expr → ℕ
  | literal x => x.extent
  | reference name => names name
  | negation operand => operand.extent names
  | binary op left right => op.extent right.exponent (left.extent names) (right.extent names)
  | grouping inner => inner.extent names
  | call _ args => Standard.extent (extentAll names args) args.length

/-- How far the farthest of some values reaches. -/
def extentAll (names : String → ℕ) : List Expr → ℕ
  | [] => 0
  | arg :: args => max (arg.extent names) (extentAll names args)

end

theorem extent_le_extentAll (names : String → ℕ) {arg : Expr} {args : List Expr}
    (h : arg ∈ args) : arg.extent names ≤ extentAll names args := by
  induction args with
  | nil => cases h
  | cons arg' args ih =>
    rw [extentAll]
    rcases List.mem_cons.1 h with rfl | h
    · exact le_max_left _ _
    · exact (ih h).trans (le_max_right _ _)

end Expr

/-- No scale leaves its 64 bits in an operation or in a call of a standard function. -/
def Action.Fits {σ : Type} (c : Context) : Action σ → Prop
  | operation op x y => op.Fits c x y
  | call f xs => ∀ b ∈ Standard.functions, f = b.function → Standard.Fits c b.name xs

namespace Environment

variable {σ : Type}

/-- How far the definition of a name reaches, through so many levels of definitions. A name that is
being evaluated has no value. -/
def nameExtent (env : Environment σ) : ℕ → List String → String → ℕ
  | 0, _, _ => 0
  | levels + 1, resolving, name =>
    if nameKey name ∈ resolving then 0
    else
      match env.definition? name with
      | none => 0
      | some definition => definition.extent (env.nameExtent levels (resolving ++ [nameKey name]))

/-- How far the value of a tree reaches. -/
def extent (env : Environment σ) (e : Expr) : ℕ := e.extent (env.nameExtent evalBudget [])

variable {env : Environment σ}

theorem nameExtent_of_some {levels : ℕ} {resolving : List String} {name : String}
    {definition : Expr} (hfresh : nameKey name ∉ resolving)
    (hbound : env.definition? name = some definition) :
    env.nameExtent (levels + 1) resolving name =
      definition.extent (env.nameExtent levels (resolving ++ [nameKey name])) := by
  rw [nameExtent, if_neg hfresh, hbound]

/-! ## Values -/

theorem whole_le_exponent {e : Expr} {budget : ℕ} {resolving : List String} {s t : σ} {y : Decimal}
    (h : (env.evalWithin budget resolving e).run s = (.ok y, t)) (hy : y.whole ≤ maxExponent) :
    y.whole ≤ e.exponent := by
  induction e generalizing budget y t with
  | literal x =>
    cases budget with
    | zero => cases h
    | succ budget =>
      cases h
      exact le_min le_rfl hy
  | grouping inner ih =>
    cases budget with
    | zero => cases h
    | succ budget => exact ih h hy
  | negation operand ih =>
    cases budget with
    | zero => cases h
    | succ budget =>
      obtain ⟨r, hrun, hr⟩ := evalWithin_negation_inv h
      cases r with
      | error err => cases hr
      | ok x =>
        cases hr
        have hwhole : x.neg.whole = x.whole := by
          simp only [Decimal.whole, Decimal.neg, Int.natAbs_neg]
        rw [hwhole] at hy ⊢
        exact ih hrun hy
  | _ => exact hy

theorem within_mapM {budget : ℕ} {resolving : List String} {args : List Expr} {w : ℕ}
    (hargs : ∀ arg ∈ args, ∀ s t v, (env.evalWithin budget resolving arg).run s = (.ok v, t) →
      v.Within w)
    {s t : σ} {xs : List Decimal}
    (h : (args.mapM (env.evalWithin budget resolving)).run s = (.ok xs, t)) :
    xs.length = args.length ∧ ∀ x ∈ xs, x.Within w := by
  induction args generalizing s xs with
  | nil =>
    rw [List.mapM_nil] at h
    cases h
    exact ⟨rfl, nofun⟩
  | cons arg args ih =>
    rcases Run.mapM_cons_inv h with ⟨_, _, herr⟩ | ⟨x, u, hrun, ⟨_, _, herr⟩ | ⟨xs', hruns, hxs⟩⟩
    · cases herr
    · cases herr
    · cases hxs
      obtain ⟨hlength, hwithin⟩ :=
        ih (fun arg harg => hargs arg (List.mem_cons_of_mem _ harg)) hruns
      refine ⟨congrArg (· + 1) hlength, List.forall_mem_cons.2 ⟨?_, hwithin⟩⟩
      exact hargs arg List.mem_cons_self s u x hrun

/-- The functions of an environment are standard ones. -/
def StandardFunctions (env : Environment σ) : Prop :=
  ∀ name f, env.function? name = some f → ∃ b ∈ Standard.functions, f = b.function

/-- A value is within the extent of its tree, if that is not too large. -/
theorem within_evalWithin (henv : env.StandardFunctions) (budget : ℕ) (e : Expr) :
    ∀ levels resolving s t v, budget ≤ levels →
      e.extent (env.nameExtent levels resolving) ≤ 2 ^ 61 →
      (env.evalWithin budget resolving e).run s = (.ok v, t) →
      v.Within (e.extent (env.nameExtent levels resolving)) := by
  induction budget, e using budget_induction with
  | exhausted e =>
    intro levels resolving s t v _ _ h
    cases h
  | literal budget x =>
    intro levels resolving s t v _ _ h
    cases h
    exact x.within_extent
  | reference budget name ih =>
    intro levels resolving s t v hlevels hextent h
    obtain ⟨levels, rfl⟩ : ∃ l, levels = l + 1 := ⟨levels - 1, by omega⟩
    rcases evalWithin_reference_inv h with ⟨_, herr⟩ | ⟨hfresh, ⟨_, herr⟩ | ⟨d, hbound, h⟩⟩
    · cases herr
    · cases herr
    · rw [Expr.extent, nameExtent_of_some hfresh hbound] at hextent ⊢
      exact ih d levels _ s t v (Nat.le_of_succ_le_succ hlevels) hextent h
  | grouping budget inner ih =>
    intro levels resolving s t v hlevels hextent h
    exact ih levels resolving s t v (Nat.le_of_succ_le hlevels) hextent h
  | negation budget operand ih =>
    intro levels resolving s t v hlevels hextent h
    obtain ⟨r, hrun, hr⟩ := evalWithin_negation_inv h
    cases r with
    | error err => cases hr
    | ok x =>
      cases hr
      exact (ih levels resolving s t x (Nat.le_of_succ_le hlevels) hextent hrun).neg
  | call budget name args ih =>
    intro levels resolving s t v hlevels hextent h
    rcases evalWithin_call_inv h with ⟨_, herr⟩ | ⟨f, hknown, ⟨_, _, herr⟩ | ⟨xs, u, hargs, h⟩⟩
    · cases herr
    · cases herr
    · obtain ⟨b, hb, rfl⟩ := henv name f hknown
      rw [Expr.extent] at hextent ⊢
      have hall := Standard.le_extent (Expr.extentAll (env.nameExtent levels resolving) args)
        args.length
      obtain ⟨hlength, hxs⟩ : xs.length = args.length ∧
          ∀ x ∈ xs, x.Within (Expr.extentAll (env.nameExtent levels resolving) args) := by
        refine within_mapM (fun arg harg s t v hrun => ?_) hargs
        have hle := Expr.extent_le_extentAll (env.nameExtent levels resolving) harg
        exact (ih arg harg levels resolving s t v (Nat.le_of_succ_le hlevels)
          (hle.trans (hall.trans hextent)) hrun).mono hle
      rw [Primitive.function, Run.run_ofExcept] at h
      rw [← hlength] at hextent ⊢
      exact Standard.within_of_call hb hxs hextent v (Prod.mk.inj h).1
  | binary budget op left right ihLeft ihRight =>
    intro levels resolving s t v hlevels hextent h
    rw [Expr.extent] at hextent ⊢
    obtain ⟨hleft, hright⟩ := op.le_extent right.exponent
      (left.extent (env.nameExtent levels resolving))
      (right.extent (env.nameExtent levels resolving))
    rcases evalWithin_binary_inv h with ⟨_, _, herr⟩ | ⟨x, u, hfirst, hrest⟩
    · cases herr
    have hx := ihLeft levels resolving s u x ((leftBudget_le budget left).trans hlevels)
      (hleft.trans hextent) hfirst
    rcases hrest with ⟨w, hw, hv⟩ | ⟨_, ⟨_, _, herr⟩ | ⟨y, hsecond, hv⟩⟩
    · cases hv
      exact Operator.within_decided? hw
    · cases herr
    · have hy := ihRight levels resolving u t y (Nat.le_of_succ_le hlevels)
        (hright.trans hextent) hsecond
      exact (Operator.within_result hx hy (fun _ => whole_le_exponent hsecond) hextent).2 v hv.symm

/-! ## Actions -/

theorem exists_of_performsAmong {a : Action σ} {budget : ℕ} {resolving : List String}
    {args : List Expr} {s : σ} (h : env.PerformsAmong a budget resolving args s) :
    ∃ arg ∈ args, ∃ t, env.Performs a budget resolving arg t := by
  induction args generalizing s with
  | nil => cases h
  | cons arg args ih =>
    cases h with
    | head inside => exact ⟨arg, List.mem_cons_self, s, inside⟩
    | tail first inside =>
      obtain ⟨arg', harg', t, hperforms⟩ := ih inside
      exact ⟨arg', List.mem_cons_of_mem _ harg', t, hperforms⟩

/-- No scale leaves its 64 bits in an evaluation, if the extent of the tree is not too large. -/
theorem fits_of_performs (henv : env.StandardFunctions) (budget : ℕ) (e : Expr) :
    ∀ levels resolving s a, budget ≤ levels →
      e.extent (env.nameExtent levels resolving) ≤ 2 ^ 61 →
      env.Performs a budget resolving e s → a.Fits env.context := by
  induction budget, e using budget_induction with
  | exhausted e =>
    intro levels resolving s a _ _ h
    cases h
  | literal budget x =>
    intro levels resolving s a _ _ h
    cases h
  | reference budget name ih =>
    intro levels resolving s a hlevels hextent h
    obtain ⟨levels, rfl⟩ : ∃ l, levels = l + 1 := ⟨levels - 1, by omega⟩
    cases h with
    | definition fresh bound inner =>
      rw [Expr.extent, nameExtent_of_some fresh bound] at hextent
      exact ih _ levels _ s a (Nat.le_of_succ_le_succ hlevels) hextent inner
  | grouping budget inner ih =>
    intro levels resolving s a hlevels hextent h
    cases h with
    | grouping inside => exact ih levels resolving s a (Nat.le_of_succ_le hlevels) hextent inside
  | negation budget operand ih =>
    intro levels resolving s a hlevels hextent h
    cases h with
    | negation inside => exact ih levels resolving s a (Nat.le_of_succ_le hlevels) hextent inside
  | call budget name args ih =>
    intro levels resolving s a hlevels hextent h
    have hlevels' := Nat.le_of_succ_le hlevels
    have hall : Expr.extentAll (env.nameExtent levels resolving) args ≤ 2 ^ 61 :=
      (Standard.le_extent _ _).trans hextent
    have harg {arg : Expr} (h : arg ∈ args) :
        arg.extent (env.nameExtent levels resolving) ≤ 2 ^ 61 :=
      (Expr.extent_le_extentAll _ h).trans hall
    cases h with
    | call known values applied =>
      subst applied
      obtain ⟨hlength, hxs⟩ := within_mapM (fun arg hmem s t v hrun =>
        (within_evalWithin henv budget arg levels resolving s t v hlevels' (harg hmem) hrun).mono
          (Expr.extent_le_extentAll _ hmem)) values
      rw [Expr.extent, ← hlength] at hextent
      exact fun b _ _ => Standard.fits_of_within b.name hxs hextent
    | argument known inside =>
      obtain ⟨arg, hmem, t, hperforms⟩ := exists_of_performsAmong inside
      exact ih arg hmem levels resolving t a hlevels' (harg hmem) hperforms
  | binary budget op left right ihLeft ihRight =>
    intro levels resolving s a hlevels hextent h
    rw [Expr.extent] at hextent
    obtain ⟨hleft, hright⟩ := op.le_extent right.exponent
      (left.extent (env.nameExtent levels resolving))
      (right.extent (env.nameExtent levels resolving))
    have hlevels' := Nat.le_of_succ_le hlevels
    have hleftLevels := (leftBudget_le budget left).trans hlevels
    cases h with
    | operation first undecided second applied =>
      subst applied
      have hx := within_evalWithin henv _ left levels resolving _ _ _ hleftLevels
        (hleft.trans hextent) first
      have hy := within_evalWithin henv _ right levels resolving _ _ _ hlevels'
        (hright.trans hextent) second
      exact (Operator.within_result hx hy (fun _ => whole_le_exponent second) hextent).1
    | left inside =>
      exact ihLeft levels resolving s a hleftLevels (hleft.trans hextent) inside
    | right first undecided inside =>
      exact ihRight levels resolving _ a hlevels' (hright.trans hextent) inside

/-- All scales of an evaluation fit, and the value is within the extent of the tree. -/
theorem within_eval (henv : env.StandardFunctions) {e : Expr} (h : env.extent e ≤ 2 ^ 61) (s : σ) :
    (∀ a, env.Performs a evalBudget [] e s → a.Fits env.context) ∧
      ∀ v, ((env.eval e).run s).1 = .ok v → v.Within (env.extent e) := by
  constructor
  · intro a ha
    exact fits_of_performs henv evalBudget e evalBudget [] s a le_rfl h ha
  · intro v hv
    exact within_evalWithin henv evalBudget e evalBudget [] s _ v le_rfl h (Prod.ext hv rfl)

end Environment

end Reckon
