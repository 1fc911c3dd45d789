import Reckon.Proofs.Evaluation.Stateless
import Reckon.Proofs.Grammar.Printed

/-!
# Histories of a session

* `Step`, `Answer`, `Situation`: the calls of a session, what they give back, and a session with the
  state that its functions share. `Situation.perform`: one call. `Situation.after`,
  `Situation.answers`: some calls, one after the other.
* `Step.written?`, `contents`: what a call writes into a slot, and what some calls leave in it: the
  last that was written, or else what a new session has.
* `read_next`, `read_after`: one call, and so a whole history, does just that to the session.
* `answers_eq_of_pure`, `after_eq_of_reordered`: the answers do not depend on the state of pure
  functions, and writes to different slots may change places.
* `Situation.answers_of_history`: so the answers depend on the last writes alone, and a call that
  fails may be left out.
-/

namespace Reckon

/-! ## Calls and their answers -/

/-- A call of a session. -/
inductive Step (σ : Type) where
  | define (name text : String)
  | defineValue (name : String) (value : Decimal)
  | addFunction (name : String) (f : Function σ)
  | setPrecision (precision : Nat)
  | setRounding (rounding : Rounding)
  | parse (text : String)
  | eval (text : String)
  | format (value : Decimal)

/-- What a call gives back. -/
inductive Answer where
  | done
  | failed (e : Error)
  | tree (e : Expr)
  | value (x : Decimal)
  | text (text : String)

def Answer.ofExcept {α : Type} (answer : α → Answer) : Except Error α → Answer
  | .ok a => answer a
  | .error e => failed e

/-- A session, and the state that its functions share. -/
structure Situation (σ : Type) where
  session : Session σ
  state : σ

namespace Situation

variable {σ : Type}

/-- A write that fails leaves the session as it was. -/
def write (x : Situation σ) : Except Error (Session σ) → Answer × Situation σ
  | .ok s => (.done, { x with session := s })
  | .error e => (.failed e, x)

/-- What a call gives back, and what it leaves behind. -/
def perform (x : Situation σ) : Step σ → Answer × Situation σ
  | .define name text => x.write (x.session.define name text)
  | .defineValue name value => x.write (.ok (x.session.defineValue name value))
  | .addFunction name f => x.write (.ok (x.session.addFunction name f))
  | .setPrecision precision => x.write (x.session.setPrecision precision)
  | .setRounding rounding => x.write (.ok (x.session.setRounding rounding))
  | .parse text => (.ofExcept .tree (parseText text), x)
  | .eval text =>
    let (result, state) := x.session.eval text x.state
    (.ofExcept .value result, { x with state := state })
  | .format value => (.text (x.session.format value), x)

def answer (x : Situation σ) (step : Step σ) : Answer := (x.perform step).1

def next (x : Situation σ) (step : Step σ) : Situation σ := (x.perform step).2

def after (x : Situation σ) (steps : List (Step σ)) : Situation σ := steps.foldl next x

def answers (x : Situation σ) : List (Step σ) → List Answer
  | [] => []
  | step :: steps => x.answer step :: (x.next step).answers steps

def start (state : σ) : Situation σ := ⟨.new, state⟩

theorem after_append (x : Situation σ) (steps steps' : List (Step σ)) :
    x.after (steps ++ steps') = (x.after steps).after steps' := List.foldl_append

theorem answers_append (x : Situation σ) (steps steps' : List (Step σ)) :
    x.answers (steps ++ steps') = x.answers steps ++ (x.after steps).answers steps' := by
  induction steps generalizing x with
  | nil => rfl
  | cons step steps ih => exact congrArg (x.answer step :: ·) (ih (x.next step))

theorem length_answers (x : Situation σ) (steps : List (Step σ)) :
    (x.answers steps).length = steps.length := by
  induction steps generalizing x with
  | nil => rfl
  | cons step steps ih => exact congrArg (· + 1) (ih (x.next step))

theorem drop_answers_append (x : Situation σ) (steps steps' : List (Step σ)) :
    (x.answers (steps ++ steps')).drop steps.length = (x.after steps).answers steps' := by
  rw [answers_append, List.drop_left' (x.length_answers steps)]

end Situation

/-! ## Writes -/

namespace Step

variable {σ : Type}

/-- The slot that a call writes to, if it is a write. -/
def slot? : Step σ → Option Slot
  | define name _ => some (.definition (nameKey name))
  | defineValue name _ => some (.definition (nameKey name))
  | addFunction name _ => some (.function (nameKey name))
  | setPrecision _ => some .precision
  | setRounding _ => some .rounding
  | _ => none

/-- What a call writes into a slot. -/
def written? : Step σ → (slot : Slot) → Option (slot.Value σ)
  | define name text, .definition key =>
    if key = nameKey name then (parseText text).toOption else none
  | defineValue name value, .definition key =>
    if key = nameKey name then some (Expr.literal value) else none
  | addFunction name f, .function key => if key = nameKey name then some f else none
  | setPrecision precision, .precision =>
    if 1 ≤ precision ∧ precision ≤ maxPrecision then some precision else none
  | setRounding rounding, .rounding => some rounding
  | _, _ => none

/-- A function that is added keeps nothing. -/
def Pure : Step σ → Prop
  | addFunction _ f => f.Pure
  | _ => True

theorem written?_eq_none {step : Step σ} {slot : Slot} (h : step.slot? ≠ some slot) :
    step.written? slot = none := by
  unfold written?
  split
  · exact if_neg fun hkey => h (congrArg (some ∘ Slot.definition) hkey.symm)
  · exact if_neg fun hkey => h (congrArg (some ∘ Slot.definition) hkey.symm)
  · exact if_neg fun hkey => h (congrArg (some ∘ Slot.function) hkey.symm)
  · exact absurd rfl h
  · exact absurd rfl h
  · rfl

end Step

/-- No function of the session keeps anything. -/
def Session.Pure {σ : Type} (s : Session σ) : Prop :=
  ∀ key f, s.read (.function key) = some f → f.Pure

theorem Session.Pure.eval_eq {σ : Type} {s : Session σ} (h : s.Pure) (text : String)
    (state state' : σ) : (s.eval text state).1 = (s.eval text state').1 := by
  unfold Session.eval
  cases parseText text with
  | error e => rfl
  | ok e =>
    have hpure : ∀ name f, s.env.function? name = some f → f.Pure :=
      fun name f hname => h (nameKey name) f hname
    have hsame := Environment.run_eval_eq_of_pure hpure e state state'
    exact congrArg (Except.mapError Error.eval) hsame

/-- What some calls of a new session leave in a slot: the last that was written to it, or else what
was there. -/
def contents {σ : Type} (history : List (Step σ)) (slot : Slot) : Option (slot.Value σ) :=
  (history.reverse.findSome? (·.written? slot)).or slot.initial

/-- The second block has the writes of the first one in another order, in which those to one slot
keep theirs. -/
structure Reordered {σ : Type} (block block' : List (Step σ)) : Prop where
  perm : block'.Perm block
  writes (step : Step σ) (h : step ∈ block) : step.slot? ≠ none
  order (slot : Slot) :
    block'.filter (fun step => step.slot? = some slot) =
      block.filter (fun step => step.slot? = some slot)

namespace Situation

variable {σ : Type} {x y : Situation σ} {step : Step σ} {steps : List (Step σ)}

/-! ## What a history leaves -/

theorem ite_or {α : Type} {p : Prop} [Decidable p] (a : α) (o : Option α) :
    (if p then some a else none).or o = if p then some a else o := by
  split <;> rfl

theorem next_of_parseText_error {name text : String} {e : Error} (h : parseText text = .error e) :
    x.next (.define name text) = x := by
  rw [next, perform, Session.define, h]
  rfl

theorem next_of_parseText_ok {name text : String} {e : Expr} (h : parseText text = .ok e) :
    (x.next (.define name text)).session = ⟨x.session.env.define name e⟩ := by
  rw [next, perform, Session.define, h]
  rfl

theorem read_next_define (x : Situation σ) (name text : String) (slot : Slot) :
    (x.next (.define name text)).session.read slot =
      ((Step.define name text).written? slot).or (x.session.read slot) := by
  cases hparse : parseText text with
  | error e =>
    rw [next_of_parseText_error hparse]
    cases slot with
    | definition key =>
      rw [Step.written?, hparse, Except.toOption, ite_self]
      rfl
    | _ => rfl
  | ok e =>
    rw [next_of_parseText_ok hparse]
    cases slot with
    | definition key =>
      rw [Session.read_define, Step.written?, hparse]
      exact (ite_or e _).symm
    | _ => rfl

theorem read_next_setPrecision (x : Situation σ) (precision : Nat) (slot : Slot) :
    (x.next (.setPrecision precision)).session.read slot =
      ((Step.setPrecision precision).written? slot).or (x.session.read slot) := by
  by_cases h : 1 ≤ precision ∧ precision ≤ maxPrecision
  · have hnext : (x.next (.setPrecision precision)).session =
        ⟨x.session.env.withContext ⟨precision, x.session.context.rounding, h.1, h.2⟩⟩ := by
      simp only [next, perform, Session.setPrecision, Context.withPrecision?,
        Context.ofPrecision?, dif_pos h]
      rfl
    rw [hnext]
    cases slot with
    | precision =>
      rw [Step.written?, if_pos h]
      rfl
    | _ => rfl
  · have hnext : x.next (.setPrecision precision) = x := by
      simp only [next, perform, Session.setPrecision, Context.withPrecision?,
        Context.ofPrecision?, dif_neg h]
      rfl
    rw [hnext]
    cases slot with
    | precision =>
      rw [Step.written?, if_neg h]
      rfl
    | _ => rfl

/-- A call changes a slot to what it writes there, and no other. -/
theorem read_next (x : Situation σ) (step : Step σ) (slot : Slot) :
    (x.next step).session.read slot = (step.written? slot).or (x.session.read slot) := by
  cases step with
  | define name text => exact x.read_next_define name text slot
  | defineValue name value =>
    cases slot with
    | definition key => exact (x.session.read_define name _ key).trans (ite_or _ _).symm
    | _ => rfl
  | addFunction name f =>
    cases slot with
    | function key => exact (x.session.read_addFunction name f key).trans (ite_or f _).symm
    | _ => rfl
  | setPrecision precision => exact x.read_next_setPrecision precision slot
  | setRounding rounding => cases slot <;> rfl
  | _ => cases slot <;> rfl

/-- What a history leaves in a slot was written there last. -/
theorem read_after (x : Situation σ) (steps : List (Step σ)) (slot : Slot) :
    (x.after steps).session.read slot =
      (steps.reverse.findSome? (·.written? slot)).or (x.session.read slot) := by
  induction steps generalizing x with
  | nil => rfl
  | cons step steps ih =>
    -- The first call is asked last, after all that follow it.
    rw [List.reverse_cons, List.findSome?_append, Option.or_assoc, List.findSome?_singleton,
      ← read_next]
    exact ih (x.next step)

theorem read_start (history : List (Step σ)) (state : σ) (slot : Slot) :
    ((start state).after history).session.read slot = contents history slot := by
  rw [read_after, contents]
  exact congrArg (Option.or _) (Session.read_new slot)

/-! ## Writes and other calls -/

/-- A write is decided by the session alone. -/
theorem perform_of_write (h : step.slot? ≠ none) (s : Session σ) :
    ∃ r, ∀ state, (Situation.mk s state).perform step = (Situation.mk s state).write r := by
  cases step with
  | define name text => exact ⟨s.define name text, fun _ => rfl⟩
  | defineValue name value => exact ⟨.ok (s.defineValue name value), fun _ => rfl⟩
  | addFunction name f => exact ⟨.ok (s.addFunction name f), fun _ => rfl⟩
  | setPrecision precision => exact ⟨s.setPrecision precision, fun _ => rfl⟩
  | setRounding rounding => exact ⟨.ok (s.setRounding rounding), fun _ => rfl⟩
  | _ => exact absurd rfl h

theorem state_next_of_write (h : step.slot? ≠ none) : (x.next step).state = x.state := by
  obtain ⟨s, state⟩ := x
  obtain ⟨r, hwrite⟩ := perform_of_write h s
  rw [next, hwrite]
  cases r <;> rfl

theorem session_next_of_not_write (h : step.slot? = none) :
    (x.next step).session = x.session := by
  cases step with
  | parse text => rfl
  | eval text => rfl
  | format value => rfl
  | _ => cases h

theorem session_next_of_failed {e : Error} (h : x.answer step = .failed e) :
    (x.next step).session = x.session := by
  by_cases hslot : step.slot? = none
  · exact session_next_of_not_write hslot
  · obtain ⟨s, state⟩ := x
    obtain ⟨r, hwrite⟩ := perform_of_write hslot s
    rw [answer, hwrite] at h
    rw [next, hwrite]
    cases r with
    | error err => rfl
    | ok s' => cases h

/-! ## Pure functions -/

theorem pure_start (state : σ) : (start state).session.Pure := by
  intro key f h
  obtain ⟨b, -, rfl⟩ := Option.map_eq_some_iff.1 ((Session.read_new (.function key)).symm.trans h)
  exact b.pure_function

theorem pure_next (hx : x.session.Pure) (hstep : step.Pure) : (x.next step).session.Pure := by
  intro key f h
  rw [read_next] at h
  cases step with
  | addFunction name g =>
    rw [Step.written?, ite_or] at h
    split at h
    · obtain rfl := Option.some.inj h
      exact hstep
    · exact hx key f h
  | _ => exact hx key f h

theorem answer_eq_of_pure (hsession : x.session = y.session) (hx : x.session.Pure)
    (step : Step σ) : x.answer step = y.answer step := by
  obtain ⟨s, state⟩ := x
  obtain ⟨_, state'⟩ := y
  obtain rfl : s = _ := hsession
  by_cases hslot : step.slot? = none
  · cases step with
    | parse text => rfl
    | eval text => exact congrArg (Answer.ofExcept .value) (hx.eval_eq text state state')
    | format value => rfl
    | _ => cases hslot
  · obtain ⟨r, hwrite⟩ := perform_of_write hslot s
    rw [answer, answer, hwrite, hwrite]
    cases r <;> rfl

theorem answers_eq_of_pure (hsession : x.session = y.session) (hx : x.session.Pure)
    (hsteps : ∀ step ∈ steps, step.Pure) : x.answers steps = y.answers steps := by
  induction steps generalizing x y with
  | nil => rfl
  | cons step steps ih =>
    obtain ⟨hstep, hsteps⟩ := List.forall_mem_cons.1 hsteps
    -- The sessions stay the same, whatever becomes of the states.
    have hnext : (x.next step).session = (y.next step).session := by
      apply Session.ext_read
      intro slot
      rw [read_next, read_next, hsession]
    rw [answers, answers, answer_eq_of_pure hsession hx step, ih hnext (pure_next hx hstep) hsteps]

/-- A call that fails may be left out: it leaves the session as it was, if not the state. -/
theorem answers_eraseIdx {e : Error} (hx : x.session.Pure) (hsteps : ∀ step ∈ steps, step.Pure)
    {n : ℕ} (hfailed : (x.answers steps)[n]? = some (.failed e)) :
    x.answers (steps.eraseIdx n) = (x.answers steps).eraseIdx n := by
  induction steps generalizing x n with
  | nil => rfl
  | cons step steps ih =>
    obtain ⟨hstep, hsteps⟩ := List.forall_mem_cons.1 hsteps
    cases n with
    | zero =>
      have hsame := session_next_of_failed (Option.some.inj hfailed)
      exact answers_eq_of_pure hsame.symm hx hsteps
    | succ n =>
      have hrest := ih (pure_next hx hstep) hsteps hfailed
      exact congrArg (x.answer step :: ·) hrest

/-! ## Writes in another order -/

theorem state_after_of_writes (h : ∀ step ∈ steps, step.slot? ≠ none) :
    (x.after steps).state = x.state := by
  induction steps generalizing x with
  | nil => rfl
  | cons step steps ih =>
    obtain ⟨hstep, hsteps⟩ := List.forall_mem_cons.1 h
    exact (ih hsteps).trans (state_next_of_write hstep)

/-- What is written to a slot last is seen from the writes to it. -/
theorem findSome?_written? (steps : List (Step σ)) (slot : Slot) :
    steps.findSome? (·.written? slot) =
      (steps.filter fun step => step.slot? = some slot).findSome? (·.written? slot) := by
  induction steps with
  | nil => rfl
  | cons step steps ih =>
    by_cases hslot : step.slot? = some slot
    · rw [List.filter_cons_of_pos (by simpa using hslot), List.findSome?_cons,
        List.findSome?_cons, ih]
    · rw [List.filter_cons_of_neg (by simpa using hslot), List.findSome?_cons,
        Step.written?_eq_none hslot]
      exact ih

theorem after_eq_of_reordered {block block' : List (Step σ)} (h : Reordered block block') :
    x.after block' = x.after block := by
  have hsession : (x.after block').session = (x.after block).session := by
    apply Session.ext_read
    intro slot
    rw [read_after, read_after, findSome?_written?, List.filter_reverse, h.order slot,
      ← List.filter_reverse, ← findSome?_written?]
  have hwrites' : ∀ step ∈ block', step.slot? ≠ none :=
    fun step hstep => h.writes step (h.perm.mem_iff.1 hstep)
  have hstate : (x.after block').state = (x.after block).state := by
    rw [state_after_of_writes hwrites', state_after_of_writes h.writes]
  exact congrArg₂ Situation.mk hsession hstate

/-! ## Histories -/

/-- The answers of a session depend on the last writes to each slot alone, where a write that fails
is none. If the functions keep nothing, a call that fails may be left out; and writes to different
slots may change places. -/
theorem answers_of_history (history : List (Step σ)) (state : σ) :
    (1 ≤ ((start state).after history).session.context.precision ∧
      ((start state).after history).session.context.precision ≤ maxPrecision) ∧
    (∀ slot, ((start state).after history).session.read slot = contents history slot) ∧
    (∀ history' state', contents history' = contents history → ∀ t steps,
      (Situation.mk ((start state').after history').session t).answers steps =
        (Situation.mk ((start state).after history).session t).answers steps) ∧
    ((∀ step ∈ history, step.Pure) → ∀ n e,
      ((start state).answers history)[n]? = some (.failed e) →
        (start state).answers (history.eraseIdx n) =
          ((start state).answers history).eraseIdx n) ∧
    ∀ before block block' rest, history = before ++ block ++ rest → Reordered block block' →
      ((start state).answers (before ++ block' ++ rest)).drop (before ++ block).length =
        ((start state).answers history).drop (before ++ block).length := by
  refine ⟨?_, ?_, ?_, ?_, ?_⟩
  · exact ⟨Context.precision_pos _, Context.precision_le _⟩
  · exact read_start history state
  · intro history' state' hcontents t steps
    have hsession : ((start state').after history').session =
        ((start state).after history).session := by
      apply Session.ext_read
      intro slot
      rw [read_start, read_start, hcontents]
    rw [hsession]
  · intro hpure n e hfailed
    exact answers_eraseIdx (pure_start state) hpure hfailed
  · rintro before block block' rest rfl hblock
    have hlength : (before ++ block').length = (before ++ block).length := by
      rw [List.length_append, List.length_append, hblock.perm.length_eq]
    rw [drop_answers_append, ← hlength, drop_answers_append, after_append, after_append,
      after_eq_of_reordered hblock]

/-- A precision that is refused, a variable that is not defined, and three writes that may change
places. -/
theorem answers_of_rounding :
    let v : Decimal := ⟨15, 1⟩
    let refused : List (Step Unit) := [.setPrecision 0]
    let writes : List (Step Unit) := [.defineValue "x" v, .setPrecision 1]
    let uses : List (Step Unit) := [.eval "y", .format v]
    let first : List (Step Unit) := refused ++ (.setRounding .up :: writes) ++ uses
    let later : List (Step Unit) := refused ++ (writes ++ [.setRounding .up]) ++ uses
    (start ()).answers first =
        [.failed (.precision 0), .done, .done, .done, .failed (.eval (.undefinedVariable "y")),
          .text "2"] ∧
      (start ()).answers (first.eraseIdx 4) =
        [.failed (.precision 0), .done, .done, .done, .text "2"] ∧
      ((start ()).answers later).drop 4 = [.failed (.eval (.undefinedVariable "y")), .text "2"] ∧
      (Situation.mk ((start ()).after (.setRounding .up :: writes)).session ()).answers uses =
        [.failed (.eval (.undefinedVariable "y")), .text "2"] := by
  intro v refused writes uses first later
  let x : Situation Unit := (start ()).after (refused ++ (.setRounding .up :: writes))
  have heval : x.answer (.eval "y") = .failed (.eval (.undefinedVariable "y")) := by
    have hscans : Scans "y".toList (Expr.reference "y").kinds [] :=
      .token (by decide) rfl rfl (.done [])
    have hparse : parseText "y" = .ok (.reference "y") :=
      (parseText_of_scans hscans trivial).trans (if_pos (by decide))
    rw [answer, perform, Session.eval, hparse]
    rfl
  have hformat : (x.next (.eval "y")).answer (.format v) = .text "2" := by
    have hround : (Context.round ⟨1, .up, by decide, by decide⟩ v).plain = "2" := by
      decide +kernel
    exact congrArg Answer.text hround
  have hanswers : (start ()).answers first =
      [.failed (.precision 0), .done, .done, .done, .failed (.eval (.undefinedVariable "y")),
        .text "2"] := by
    show [_, _, _, _, x.answer (.eval "y"), (x.next (.eval "y")).answer (.format v)] = _
    rw [heval, hformat]
    rfl
  obtain ⟨-, -, hsame, hfailed, horder⟩ := answers_of_history first ()
  have hpure : ∀ step ∈ first, step.Pure := by
    simp [first, refused, writes, uses, Step.Pure]
  have hblock : Reordered (.setRounding .up :: writes) (writes ++ [.setRounding .up]) := by
    refine ⟨List.perm_append_singleton _ _, ?_, ?_⟩
    · simp [writes, Step.slot?]
    · intro slot
      cases slot <;> simp [writes, Step.slot?, List.filter_cons]
  have hcontents : contents (.setRounding .up :: writes) = contents first := by
    funext slot
    cases slot <;> rfl
  have hdropped := horder refused _ _ uses rfl hblock
  have hleft := hfailed hpure 4 _ (by rw [hanswers]; rfl)
  rw [hanswers] at hleft hdropped
  have huses : x.answers uses = [.failed (.eval (.undefinedVariable "y")), .text "2"] := by
    show [x.answer (.eval "y"), (x.next (.eval "y")).answer (.format v)] = _
    rw [heval, hformat]
  exact ⟨hanswers, hleft, hdropped, (hsame _ () hcontents () uses).trans huses⟩

end Situation

end Reckon
