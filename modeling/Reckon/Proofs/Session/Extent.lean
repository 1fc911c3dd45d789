import Reckon.Proofs.Evaluation.Extent
import Reckon.Proofs.Grammar.Printed
import Reckon.Proofs.Session.History

/-!
# Scales in sessions

Scales of numerals and exponents are limited, but powers of powers multiply scales without an end.

* `Situation.standardFunctions_after`: a session to which no function is added has standard ones.
* `Situation.eval_fits`: where the extent of a text's tree is at most `2 ^ 61`, no scale leaves its
  64 bits, neither in the evaluation nor when the value is rounded for printing.
* `Session.eval_lost_scale`: four powers in a row take a scale beyond its 64 bits, and there is no
  error.
-/

namespace Reckon

/-- The call leaves the functions alone. -/
def Step.KeepsFunctions {σ : Type} : Step σ → Prop
  | addFunction _ _ => False
  | _ => True

theorem Session.fst_eval {σ : Type} {s : Session σ} {text : String} {e : Expr}
    (h : parseText text = .ok e) (state : σ) :
    (s.eval text state).1 = ((s.env.eval e).run state).1.mapError .eval := by
  rw [eval, h]
  rfl

theorem Session.eq_ok_of_mapError {r : Except EvalError Decimal} {v : Decimal}
    (h : r.mapError Error.eval = .ok v) : r = .ok v := by
  cases r with
  | error err => cases h
  | ok u => exact congrArg Except.ok (Except.ok.inj h)

namespace Situation

variable {σ : Type} {x : Situation σ}

theorem standardFunctions_start (state : σ) : (start state).session.env.StandardFunctions :=
  fun _ _ => Session.function?_new

theorem standardFunctions_next (hx : x.session.env.StandardFunctions) {step : Step σ}
    (hstep : step.KeepsFunctions) : (x.next step).session.env.StandardFunctions := by
  intro name f h
  have hread : (x.next step).session.read (.function (nameKey name)) = some f := h
  rw [read_next] at hread
  cases step with
  | addFunction name' g => exact hstep.elim
  | _ => exact hx name f hread

theorem standardFunctions_after (hx : x.session.env.StandardFunctions) {steps : List (Step σ)}
    (hsteps : ∀ step ∈ steps, step.KeepsFunctions) :
    (x.after steps).session.env.StandardFunctions := by
  induction steps generalizing x with
  | nil => exact hx
  | cons step steps ih =>
    obtain ⟨hstep, hrest⟩ := List.forall_mem_cons.1 hsteps
    exact ih (standardFunctions_next hx hstep) hrest

/-- The scales of an evaluation fit their 64 bits, whatever definitions and settings came before, if
the extent of the tree is not too large. -/
theorem eval_fits (history : List (Step σ)) (state : σ) {text : String} {e : Expr}
    (hhistory : ∀ step ∈ history, step.KeepsFunctions) (hparse : parseText text = .ok e)
    (hextent : ((start state).after history).session.env.extent e ≤ 2 ^ 61) :
    let x := (start state).after history
    (∀ a, x.session.env.Performs a evalBudget [] e x.state → a.Fits x.session.context) ∧
      ∀ v, (x.session.eval text x.state).1 = .ok v →
        v.Within (x.session.env.extent e) ∧ FitsScale v.scale ∧ x.session.context.RoundFits v := by
  intro x
  have hfunctions : x.session.env.StandardFunctions :=
    standardFunctions_after (standardFunctions_start state) hhistory
  obtain ⟨hfits, hwithin⟩ := Environment.within_eval hfunctions hextent x.state
  refine ⟨hfits, ?_⟩
  intro v hv
  rw [Session.fst_eval hparse] at hv
  have hv' := hwithin v (Session.eq_ok_of_mapError hv)
  have hsmall : x.session.env.extent e < 2 ^ 63 - 3 := lt_of_le_of_lt hextent (by decide)
  refine ⟨hv', ?_, Context.roundFits_of_within hv' (by omega)⟩
  exact fitsScale_of_le hv'.neg_le_scale hv'.scale_le (by omega)

/-- Two powers in a row, of a number with a scale of six digits. -/
theorem eval_fits_powers :
    let history : List (Step Unit) := [.define "x" "1e-100000", .setPrecision 3, .setRounding .up]
    let e : Expr := .binary .pow
      (.grouping (.binary .pow (.reference "x") (.literal ⟨10000, 0⟩))) (.literal ⟨10000, 0⟩)
    let x := (start ()).after history
    (∀ step ∈ history, step.KeepsFunctions) ∧ parseText "(x ^ 10000) ^ 10000" = .ok e ∧
      x.session.env.extent e ≤ 2 ^ 61 ∧
      (x.session.eval "(x ^ 10000) ^ 10000" ()).1 = .ok ⟨1, 10000000000000⟩ ∧
      (∀ a, x.session.env.Performs a evalBudget [] e x.state → a.Fits x.session.context) ∧
      FitsScale 10000000000000 := by
  intro history e x
  have hdefinition : parseText "1e-100000" = .ok (.literal ⟨1, 100000⟩) :=
    parseText_of_kinds (by decide) trivial (by decide)
  have hparse : parseText "(x ^ 10000) ^ 10000" = .ok e :=
    parseText_of_kinds (by decide) (by decide) (by decide)
  let env : Environment Unit := Session.new.env.define "x" (.literal ⟨1, 100000⟩)
  have hsession : x = ⟨⟨env.withContext ⟨3, .up, by decide, by decide⟩⟩, ()⟩ := by
    simp only [x, history, after, List.foldl_cons, List.foldl_nil, next, perform, Session.define,
      hdefinition]
    rfl
  have hextent : x.session.env.extent e ≤ 2 ^ 61 := by
    rw [hsession]
    decide +kernel
  have hhistory : ∀ step ∈ history, step.KeepsFunctions := by
    simp [history, Step.KeepsFunctions]
  have hvalue : (x.session.eval "(x ^ 10000) ^ 10000" ()).1 = .ok ⟨1, 10000000000000⟩ := by
    rw [Session.fst_eval hparse, hsession]
    decide +kernel
  obtain ⟨hfits, hscale⟩ := eval_fits history () hhistory hparse hextent
  exact ⟨hhistory, hparse, hextent, hvalue, hfits, (hscale _ hvalue).2.1⟩

end Situation

/-- Four powers in a row take the scale of a power of ten beyond its 64 bits. The last one is
performed, and another number is its value. -/
theorem Session.eval_lost_scale :
    let text := "(((1e-100000 ^ 10000) ^ 10000) ^ 10000) ^ 93"
    let s : Session Unit := .new
    let x : Decimal := ⟨1, 10 ^ 17⟩
    ∃ e v, parseText text = .ok e ∧ s.env.Performs (.operation .pow x ⟨93, 0⟩) evalBudget [] e () ∧
      x.toRat ^ 93 = Decimal.toRat ⟨1, 10 ^ 17 * 93⟩ ∧ ¬ FitsScale (10 ^ 17 * 93) ∧
      (s.eval text ()).1 = .ok v ∧ v = ⟨1, -9146744073709551616⟩ ∧ v.toRat ≠ x.toRat ^ 93 := by
  intro text s x
  let cubed : Expr := .grouping (.binary .pow (.grouping (.binary .pow (.grouping (.binary .pow
    (.literal ⟨1, 100000⟩) (.literal ⟨10000, 0⟩))) (.literal ⟨10000, 0⟩))) (.literal ⟨10000, 0⟩))
  let e : Expr := .binary .pow cubed (.literal ⟨93, 0⟩)
  have hparse : parseText text = .ok e :=
    parseText_of_kinds (by decide) (by decide) (by decide)
  have hlost : ¬ FitsScale (10 ^ 17 * 93) := fun h => absurd h.2 (by decide)
  have hpower : x.pow 93 = ⟨1, -9146744073709551616⟩ := Decimal.pow_unit (10 ^ 17) (by decide)
  have hwrong : (x.pow 93).toRat ≠ x.toRat ^ 93 :=
    mt (Decimal.toRat_pow_unit_iff (10 ^ 17) (by decide)).1 hlost
  have hfirst : (s.env.evalWithin (Environment.leftBudget 255 cubed) [] cubed).run () =
      (.ok x, ()) := Prod.ext (by decide +kernel) rfl
  have hvalue : (s.eval text ()).1 = .ok ⟨1, -9146744073709551616⟩ := by
    rw [fst_eval hparse]
    decide +kernel
  refine ⟨e, _, hparse, .operation hfirst rfl rfl rfl, ?_, hlost, hvalue, rfl, ?_⟩
  · exact Decimal.toRat_unit_pow (10 ^ 17) 93
  · rwa [hpower] at hwrong

end Reckon
