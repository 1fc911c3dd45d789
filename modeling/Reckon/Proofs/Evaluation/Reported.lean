import Reckon.Operator.Application
import Reckon.Proofs.Evaluation.Budget
import Reckon.Proofs.Scanning.Numerals
import Reckon.Proofs.Text.OneLine
import Reckon.Standard

/-!
# Errors that operators and functions report

* `EvalError.Reported`: a division by zero, an overflow, a bad argument or a wrong number of
  arguments, with a text of one line that says which.
* `Reports`: an outcome with no other error.
* `Operator.reports_result`, `Standard.reports_call`: what operators and the standard functions
  report.
-/

namespace Reckon

/-! ## Reports -/

/-- An error that is found in the values of operands or arguments. -/
inductive EvalError.Reported : EvalError → Prop where
  | arity {function expected got} (line : Text.OneLine function) :
      Reported (.arity function expected got)
  | invalidArgument {what} (line : Text.OneLine what) : Reported (.invalidArgument what)
  | divisionByZero : Reported .divisionByZero
  | overflow {what} (line : Text.OneLine what) : Reported (.overflow what)

theorem Arity.oneLine_text (a : Arity) : Text.OneLine a.text := by
  have hword (n : Nat) : Text.OneLine (argumentWord n) := by
    unfold argumentWord
    split <;> decide
  cases a with
  | exactly n =>
    show Text.OneLine s!"{n} {argumentWord n}"
    simp +decide only [Text.oneLine_append, Text.oneLine_toString, Text.oneLine_toString_nat, hword]
  | atLeast n =>
    show Text.OneLine s!"at least {n} {argumentWord n}"
    simp +decide only [Text.oneLine_append, Text.oneLine_toString, Text.oneLine_toString_nat, hword]
  | between least most =>
    show Text.OneLine s!"{least} to {most} arguments"
    simp +decide only [Text.oneLine_append, Text.oneLine_toString_nat]

theorem EvalError.Reported.oneLine {err : EvalError} (h : err.Reported) :
    Text.OneLine err.message := by
  cases h with
  | @arity function expected got line =>
    show Text.OneLine s!"{function} expects {expected.text}, got {got}"
    simp +decide only [Text.oneLine_append, Text.oneLine_toString, Text.oneLine_toString_nat, line,
      expected.oneLine_text]
  | @invalidArgument what line =>
    show Text.OneLine s!"Invalid argument: {what}"
    simp +decide only [Text.oneLine_append, Text.oneLine_toString, line]
  | divisionByZero => decide
  | @overflow what line =>
    show Text.OneLine s!"Overflow: {what}"
    simp +decide only [Text.oneLine_append, Text.oneLine_toString, line]

/-- A value, or an error that is reported. -/
def Reports {α : Type} (r : Except EvalError α) : Prop := ∀ err, r = .error err → err.Reported

theorem reports_ok {α : Type} (x : α) : Reports (.ok x) := by
  rintro err ⟨⟩

theorem reports_error {α : Type} {err : EvalError} (h : err.Reported) :
    Reports (.error err : Except _ α) := by
  rintro _ ⟨⟩
  exact h

/-! ## Numbers in messages -/

theorem Decimal.mem_pointed {ds : List Char} {places : Nat} {c : Char}
    (hds : ∀ d ∈ ds, d.isDigit = true) (h : c ∈ pointed ds places) :
    c = '.' ∨ c.isDigit = true := by
  unfold pointed at h
  split at h
  · rcases List.mem_append.1 h with h | h
    · exact .inr (hds c (List.mem_of_mem_take h))
    · exact (List.mem_cons.1 h).imp_right fun h => hds c (List.mem_of_mem_drop h)
  · rcases List.mem_cons.1 h with rfl | h
    · exact .inr rfl
    · rcases List.mem_cons.1 h with h | h
      · exact .inl h
      · rcases List.mem_append.1 h with h | h
        · exact .inr (isDigit_of_mem_zeros h)
        · exact .inr (hds c h)

/-- Plain notation has signs, points and digits only. -/
theorem Decimal.mem_plainChars {x : Decimal} {c : Char} (h : c ∈ x.plainChars) :
    c = '-' ∨ c = '.' ∨ c.isDigit = true := by
  have hsign (hc : c ∈ if x.coeff < 0 then ['-'] else []) : c = '-' := by
    split at hc
    · exact List.mem_singleton.1 hc
    · cases hc
  rw [plainChars] at h
  split at h
  · rcases List.mem_append.1 h with h | h
    · exact (List.mem_append.1 h).imp hsign fun h => .inr (isDigit_of_mem_digits h)
    · exact .inr (.inr (isDigit_of_mem_zeros h))
  · exact (List.mem_append.1 h).imp hsign fun h =>
      mem_pointed (fun d hd => isDigit_of_mem_digits hd) h

theorem Decimal.oneLine_plain (x : Decimal) : Text.OneLine x.plain := by
  rw [plain, Text.oneLine_ofList]
  intro h
  rcases mem_plainChars h with h | h | h
  · cases h
  · cases h
  · cases h

/-! ## Operators -/

theorem Context.reports_divide (c : Context) (x y : Decimal) : Reports (c.divide x y) := by
  unfold divide
  split
  · exact reports_ok _
  · exact reports_error .divisionByZero

theorem Context.reports_power (c : Context) (x y : Decimal) : Reports (c.power x y) := by
  have hx := x.oneLine_plain
  have hy := y.oneLine_plain
  unfold power
  split
  · exact reports_error .divisionByZero
  · split
    · unfold integerPower
      split
      · refine reports_error (.overflow ?_)
        simp +decide only [Text.oneLine_append, Text.oneLine_toString, hy]
      · dsimp only
        split
        · exact c.reports_divide _ _
        · exact reports_ok _
    · split
      · refine reports_error (.invalidArgument ?_)
        simp +decide only [Text.oneLine_append, Text.oneLine_toString, hx, hy]
      · split
        · exact reports_ok _
        · unfold realPower
          dsimp only
          split
          · exact reports_ok _
          · refine reports_error (.overflow ?_)
            simp +decide only [Text.oneLine_append, Text.oneLine_toString, hx, hy]

/-- What an operator finds in its operands. -/
theorem Operator.reports_result (op : Operator) (c : Context) (x y : Decimal) :
    Reports (op.result c x y) := by
  rcases op with op | op | op
  · cases op with
    | add | sub | mul => exact reports_ok _
    | div => exact c.reports_divide x y
    | pow => exact c.reports_power x y
    | rem =>
      simp only [result, ArithmeticOp.apply]
      split
      · exact reports_error .divisionByZero
      · exact reports_ok _
  · exact reports_ok _
  · exact reports_ok _

/-! ## Standard functions -/

/-- The body of a function has no errors but those that it reports. -/
def Body.Reports : Body → Prop
  | none f => ∀ c, Reckon.Reports (f c)
  | one f => ∀ c x, Reckon.Reports (f c x)
  | oneOrTwo f => ∀ c x y, Reckon.Reports (f c x y)
  | three f => ∀ c x y z, Reckon.Reports (f c x y z)
  | many f => ∀ c x xs, Reckon.Reports (f c x xs)

theorem Primitive.reports_call {b : Primitive} (hname : Text.OneLine b.name)
    (h : b.body.Reports) (c : Context) (args : List Decimal) : Reports (b.call c args) := by
  unfold call
  split
  · next f hbody =>
    rw [hbody] at h
    exact h c
  · next f x hbody =>
    rw [hbody] at h
    exact h c x
  · next f x hbody =>
    rw [hbody] at h
    exact h c x .none
  · next f x y hbody =>
    rw [hbody] at h
    exact h c x (some y)
  · next f x y z hbody =>
    rw [hbody] at h
    exact h c x y z
  · next f x xs hbody =>
    rw [hbody] at h
    exact h c x xs
  · exact reports_error (.arity hname)

namespace Standard

theorem reports_roundPlaces (places : Decimal) : Reports (roundPlaces places) := by
  have hplaces := places.oneLine_plain
  unfold roundPlaces
  split
  · refine reports_error (.invalidArgument ?_)
    simp +decide only [Text.oneLine_append, Text.oneLine_toString, hplaces]
  · split
    · refine reports_error (.invalidArgument ?_)
      simp +decide only [Text.oneLine_append, Text.oneLine_toString, hplaces]
    · exact reports_ok _

theorem reports_round (c : Context) (x : Decimal) (places : Option Decimal) :
    Reports (round c x places) := by
  cases places with
  | none => exact reports_ok _
  | some places =>
    have hplaces := reports_roundPlaces places
    rw [round, Option.elim_some]
    cases hn : roundPlaces places with
    | ok n => exact reports_ok _
    | error err => exact reports_error (hplaces err hn)

theorem reports_throughFloat {name : String} (hname : Text.OneLine name) (f : Float → Float)
    (c : Context) (x : Decimal) : Reports (throughFloat name f c x) := by
  have hx := x.oneLine_plain
  unfold throughFloat
  split
  · refine reports_error (.invalidArgument ?_)
    simp +decide only [Text.oneLine_append, Text.oneLine_toString, hname, hx]
  · split
    · refine reports_error (.invalidArgument ?_)
      simp +decide only [Text.oneLine_append, Text.oneLine_toString, hname, hx]
    · exact reports_ok _

theorem reports_ln (c : Context) (x : Decimal) : Reports (ln c x) := by
  have hx := x.oneLine_plain
  unfold ln
  split
  · exact reports_throughFloat (by decide) _ c x
  · refine reports_error (.invalidArgument ?_)
    simp +decide only [Text.oneLine_append, Text.oneLine_toString, hx]

theorem reports_log (c : Context) (x : Decimal) : Reports (log c x) := by
  have hx := x.oneLine_plain
  unfold log
  split
  · exact reports_throughFloat (by decide) _ c x
  · refine reports_error (.invalidArgument ?_)
    simp +decide only [Text.oneLine_append, Text.oneLine_toString, hx]

theorem reports_sqrt (c : Context) (x : Decimal) : Reports (sqrt c x) := by
  have hx := x.oneLine_plain
  unfold sqrt
  split
  · refine reports_error (.invalidArgument ?_)
    simp +decide only [Text.oneLine_append, Text.oneLine_toString, hx]
  · exact reports_throughFloat (by decide) _ c x

theorem reports_body {b : Primitive} (h : b ∈ functions) : b.body.Reports := by
  revert b
  simp only [functions, List.forall_mem_cons]
  exact ⟨fun _ _ => reports_ok _, fun _ _ _ => reports_ok _,
    fun c _ _ => c.reports_divide _ _, fun _ _ => reports_ok _, fun _ _ => reports_ok _,
    reports_round, fun _ _ _ => reports_ok _, fun _ _ _ => reports_ok _,
    fun _ _ _ _ => reports_ok _, reports_ln, reports_log, reports_sqrt, reports_sqrt, nofun⟩

theorem oneLine_name {b : Primitive} (h : b ∈ functions) : Text.OneLine b.name := by
  have hnames : functions.all (fun b => decide (Text.OneLine b.name)) = true := by decide
  exact of_decide_eq_true (List.all_eq_true.1 hnames b h)

/-- What a standard function finds in its arguments. -/
theorem reports_call {b : Primitive} (h : b ∈ functions) (c : Context) (args : List Decimal) :
    Reports (b.call c args) :=
  b.reports_call (oneLine_name h) (reports_body h) c args

end Standard

end Reckon
