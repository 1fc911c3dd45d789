import Reckon.CommandLine.Program
import Reckon.Proofs.Session.Messages

/-!
# Piped expressions

* `splitLines_append`: the lines of two texts, the first of which ends with a line feed.
* `Report.total`: the reports of several expressions as one, `Report.total_append`.
* `EvalSettings.session`: the session for the settings. `EvalSettings.execute_piped`: in it each line
  of a piped text is evaluated on its own.
* `Outcome.oneLineOn_report`: an expression of one line is answered with one line.
* `program_append`: so piping two texts one behind the other is the same as piping each of them.
-/

namespace Reckon.CommandLine

/-! ## Lines -/

theorem linesFrom_cons {c : Char} (hc : c ≠ '\n') (line cs : List Char) :
    linesFrom line (c :: cs) = linesFrom (c :: line) cs := by
  rw [linesFrom]
  exact hc

theorem linesFrom_append (line cs ds : List Char) :
    linesFrom line (cs ++ '\n' :: ds) = linesFrom line (cs ++ ['\n']) ++ linesFrom [] ds := by
  induction cs generalizing line with
  | nil => rfl
  | cons c cs ih =>
    by_cases hc : c = '\n'
    · subst hc
      exact congrArg (endLine line :: ·) (ih [])
    · rw [List.cons_append, List.cons_append, linesFrom_cons hc, linesFrom_cons hc]
      exact ih (c :: line)

/-- The text ends with a line feed. -/
def EndsLine (text : String) : Prop := text.toList.getLast? = some '\n'

theorem splitLines_append {a b : String} (ha : EndsLine a) :
    splitLines (a ++ b) = splitLines a ++ splitLines b := by
  obtain ⟨cs, hcs⟩ := List.getLast?_eq_some_iff.1 ha
  rw [splitLines, splitLines, String.toList_append, hcs, List.append_assoc, List.singleton_append,
    linesFrom_append]
  rfl

theorem oneLine_endLine {line : List Char} (h : '\n' ∉ line) : Text.OneLine (endLine line) := by
  unfold endLine
  split
  · rw [Text.oneLine_ofList, List.mem_reverse]
    exact fun hmem => h (List.mem_cons_of_mem _ hmem)
  · rwa [Text.oneLine_ofList, List.mem_reverse]

theorem oneLine_of_mem_linesFrom {line cs : List Char} (h : '\n' ∉ line) {text : String}
    (htext : text ∈ linesFrom line cs) : Text.OneLine text := by
  induction cs generalizing line with
  | nil =>
    rw [linesFrom] at htext
    split at htext
    · cases htext
    · rw [List.mem_singleton.1 htext, Text.oneLine_ofList, List.mem_reverse]
      exact h
  | cons c cs ih =>
    by_cases hc : c = '\n'
    · subst hc
      rcases List.mem_cons.1 htext with rfl | htext
      · exact oneLine_endLine h
      · exact ih List.not_mem_nil htext
    · rw [linesFrom_cons hc] at htext
      exact ih (fun hmem => (List.mem_cons.1 hmem).elim (fun heq => hc heq.symm) h) htext

/-- The lines of a piped text that are evaluated. -/
def pipedExpressions (text : String) : List String := (splitLines text).filter (!isBlankLine ·)

theorem pipedExpressions_append {a b : String} (ha : EndsLine a) :
    pipedExpressions (a ++ b) = pipedExpressions a ++ pipedExpressions b := by
  rw [pipedExpressions, splitLines_append ha, List.filter_append]
  rfl

theorem oneLine_of_mem_pipedExpressions {text line : String} (h : line ∈ pipedExpressions text) :
    Text.OneLine line :=
  oneLine_of_mem_linesFrom List.not_mem_nil (List.mem_of_mem_filter h)

/-! ## Reports -/

namespace Report

/-- Several reports as one. -/
def total (rs : List Report) : Report := rs.foldl append {}

theorem append_assoc (r s t : Report) : (r.append s).append t = r.append (s.append t) := by
  simp only [append, Nat.max_assoc, String.append_assoc]

theorem empty_append (r : Report) : append {} r = r := by
  simp only [append, Nat.zero_max, String.empty_append]

theorem append_empty (r : Report) : r.append {} = r := by
  simp only [append, Nat.max_zero, String.append_empty]

theorem foldl_append (r : Report) (rs : List Report) : rs.foldl append r = r.append (total rs) := by
  induction rs generalizing r with
  | nil => exact r.append_empty.symm
  | cons s rs ih =>
    have hcons : total (s :: rs) = s.append (total rs) := by
      rw [total, List.foldl_cons, ih, empty_append]
    rw [List.foldl_cons, ih, hcons, append_assoc]

theorem total_append (rs ss : List Report) : total (rs ++ ss) = (total rs).append (total ss) := by
  rw [total, List.foldl_append, foldl_append]
  rfl

/-- The report writes one line, on one of the two outputs. -/
def OneLineOn (stdout : Bool) (r : Report) : Prop :=
  ∃ text, Text.OneLine text ∧
    (r.stdout, r.stderr) = if stdout then (text ++ "\n", "") else ("", text ++ "\n")

end Report

/-- The report for an expression, in a session of texts, is one line: on standard output for a value
or a JSON object, on standard error for the message of an error. -/
theorem oneLineOn_report {s : Session Unit} (hs : s.env.OfTexts) (json : Bool) {text : String}
    (htext : Text.OneLine text) :
    ((outcome s text).report json).OneLineOn (json || (outcome s text).isOk) := by
  have hjson : Text.OneLine (outcome s text).json := by
    unfold Outcome.json
    split
    · exact Text.oneLine_jsonObject _
    · exact Text.oneLine_jsonObject _
  cases json with
  | true => exact ⟨_, hjson, rfl⟩
  | false =>
    cases hresult : (s.eval text ()).1 with
    | ok x =>
      have houtcome : outcome s text = ⟨text, .ok (s.format x)⟩ := by
        rw [outcome, hresult]
        rfl
      rw [houtcome]
      exact ⟨s.format x, Decimal.oneLine_plain _, rfl⟩
    | error err =>
      have houtcome : outcome s text = ⟨text, .error err.message⟩ := by
        rw [outcome, hresult]
        rfl
      rw [houtcome]
      exact ⟨err.message, s.oneLine_eval hs htext hresult, rfl⟩

/-! ## Sessions -/

/-- The session in which the expressions are evaluated. -/
def EvalSettings.session (e : EvalSettings) : Except BatchError (Session Unit) :=
  Batch.session ⟨[], e.precision, e.rounding, e.definitions⟩

theorem ofTexts_addDefinition {s s' : Session Unit} (hs : s.env.OfTexts) {text : String}
    (h : addDefinition s text = .ok s') : s'.env.OfTexts := by
  unfold addDefinition at h
  cases hparse : Definition.parse text with
  | error err =>
    rw [hparse] at h
    cases h
  | ok d =>
    rw [hparse] at h
    replace h : (s.define d.name d.expression).mapError BatchError.expression = .ok s' := h
    cases he : parseText d.expression with
    | error err =>
      have hdefine : s.define d.name d.expression = .error err := by
        rw [Session.define, he]
        rfl
      rw [hdefine] at h
      cases h
    | ok e =>
      have hdefine : s.define d.name d.expression = .ok ⟨s.env.define d.name e⟩ := by
        rw [Session.define, he]
        rfl
      rw [hdefine] at h
      obtain rfl := Except.ok.inj h
      exact Session.ofTexts_define hs d.name (proper_of_parseText he)

theorem ofTexts_foldlM {s s' : Session Unit} (hs : s.env.OfTexts) {texts : List String}
    (h : texts.foldlM addDefinition s = .ok s') : s'.env.OfTexts := by
  induction texts generalizing s with
  | nil =>
    obtain rfl := Except.ok.inj h
    exact hs
  | cons text texts ih =>
    rw [List.foldlM_cons] at h
    cases hs' : addDefinition s text with
    | error err =>
      rw [hs'] at h
      cases h
    | ok s₁ =>
      rw [hs'] at h
      exact ih (ofTexts_addDefinition hs hs') h

theorem EvalSettings.ofTexts_session {e : EvalSettings} {s : Session Unit}
    (h : e.session = .ok s) : s.env.OfTexts := by
  have hcontext {s : Session Unit} (hs : s.env.OfTexts) (c : Context) :
      (s.env.withContext c).OfTexts := ⟨hs.definition, hs.function⟩
  obtain ⟨_, precision, rounding, definitions, _⟩ := e
  -- The settings change the context only; then come the definitions.
  have hrounding {s s' : Session Unit} (hs : s.env.OfTexts)
      (h : definitions.foldlM addDefinition (rounding.elim s s.setRounding) = .ok s') :
      s'.env.OfTexts := by
    refine ofTexts_foldlM ?_ h
    cases rounding with
    | none => exact hs
    | some r => exact hcontext hs _
  cases precision with
  | none => exact hrounding Session.ofTexts_new h
  | some n =>
    cases hn : (Session.new : Session Unit).context.withPrecision? n with
    | none =>
      have hset : (Session.new : Session Unit).setPrecision n = .error (.precision n) := by
        rw [Session.setPrecision, hn]
      rw [session, Batch.session, Option.elim_some, hset] at h
      cases h
    | some c =>
      have hset : (Session.new : Session Unit).setPrecision n =
          .ok ⟨Session.new.env.withContext c⟩ := by
        rw [Session.setPrecision, hn]
      rw [session, Batch.session, Option.elim_some, hset] at h
      exact hrounding (hcontext Session.ofTexts_new c) h

/-! ## Runs -/

/-- Each line is evaluated on its own, in the session for the settings. -/
theorem EvalSettings.execute_piped {e : EvalSettings} (hpiped : e.expression = none) {text : String}
    (htext : pipedExpressions text ≠ []) :
    e.execute text.toUTF8 =
      match e.session with
      | .error err => .failure err.message
      | .ok s => Report.total
          ((pipedExpressions text).map fun line => (outcome s line).report e.json) := by
  have hdecoded : String.fromUTF8? text.toUTF8 = some text := by
    have hvalid : text.toUTF8.IsValidUTF8 := text.isValidUTF8
    rw [String.fromUTF8?, dif_pos hvalid]
    rfl
  have hexpressions : e.expressions text.toUTF8 = .ok (pipedExpressions text) := by
    simp only [expressions, hpiped, hdecoded]
    rfl
  have hbatch : (Batch.mk (pipedExpressions text) e.precision e.rounding e.definitions).run =
      e.session.map fun s => (pipedExpressions text).map (outcome s) := by
    rw [Batch.run, if_neg (by simpa using htext)]
    rfl
  simp only [execute, hexpressions, hbatch]
  cases e.session with
  | error err => rfl
  | ok s =>
    simp only [Except.map, List.map_map]
    rfl

/-- Piping two texts, the first of which ends with a line feed, one behind the other: where the
settings are accepted, the outputs are those for the two texts, and the run succeeds if both runs do.
Every line that is not blank is answered with one line. Otherwise all runs fail with one message. -/
theorem program_append {args : List String} {e : EvalSettings}
    (hargs : Invocation.parse args = .ok (.run (.eval e))) (hpiped : e.expression = none)
    {a b : String} (hend : EndsLine a) (ha : pipedExpressions a ≠ [])
    (hb : pipedExpressions b ≠ []) :
    let first := program args a.toUTF8
    let second := program args b.toUTF8
    let both := program args (a.toUTF8 ++ b.toUTF8)
    (∀ s, e.session = .ok s →
      both.stdout = first.stdout ++ second.stdout ∧ both.stderr = first.stderr ++ second.stderr ∧
      (both.exitCode = 0 ↔ first.exitCode = 0 ∧ second.exitCode = 0) ∧
      ∀ text, pipedExpressions text ≠ [] →
        let report (line : String) := (outcome s line).report e.json
        program args text.toUTF8 = Report.total ((pipedExpressions text).map report) ∧
        ∀ line ∈ pipedExpressions text,
          (report line).OneLineOn (e.json || (outcome s line).isOk)) ∧
    ∀ err, e.session = .error err →
      first = .failure err.message ∧ second = .failure err.message ∧
        both = .failure err.message := by
  intro first second both
  have hprogram (input : ByteArray) : program args input = e.execute input := by
    rw [program, hargs]
    rfl
  have happend := pipedExpressions_append (b := b) hend
  have hab : pipedExpressions (a ++ b) ≠ [] := by
    rw [happend]
    exact List.append_ne_nil_of_left_ne_nil ha _
  have hboth : both = program args (a ++ b).toUTF8 := by
    show program args (a.toByteArray ++ b.toByteArray) = program args (a ++ b).toByteArray
    rw [String.toByteArray_append]
  constructor
  · intro s hs
    have hruns {text : String} (htext : pipedExpressions text ≠ []) :
        program args text.toUTF8 = Report.total
          ((pipedExpressions text).map fun line => (outcome s line).report e.json) := by
      rw [hprogram, EvalSettings.execute_piped hpiped htext, hs]
    have htotal : both = first.append second := by
      rw [hboth, hruns hab, happend, List.map_append, Report.total_append]
      exact congrArg₂ Report.append (hruns ha).symm (hruns hb).symm
    rw [htotal]
    refine ⟨rfl, rfl, Nat.max_eq_zero_iff, fun text htext => ⟨hruns htext, fun line hline => ?_⟩⟩
    exact oneLineOn_report (EvalSettings.ofTexts_session hs) e.json
      (oneLine_of_mem_pipedExpressions hline)
  · intro err herr
    have hfails {text : String} (htext : pipedExpressions text ≠ []) :
        program args text.toUTF8 = .failure err.message := by
      rw [hprogram, EvalSettings.execute_piped hpiped htext, herr]
    exact ⟨hfails ha, hfails hb, hboth.trans (hfails hab)⟩

/-- A value and an error, with a blank line between them, in front of a line that is not ended. -/
theorem program_append_value_and_error :
    let args := ["eval", "-p", "4"]
    let e : EvalSettings := { precision := some 4 }
    let a := "1+1\r\n \n2/0\n"
    let b := "x"
    let first := program args a.toUTF8
    let second := program args b.toUTF8
    let both := program args (a.toUTF8 ++ b.toUTF8)
    pipedExpressions a = ["1+1", "2/0"] ∧ pipedExpressions b = ["x"] ∧
      ∃ s, e.session = .ok s ∧
        both.stdout = first.stdout ++ second.stdout ∧ both.stderr = first.stderr ++ second.stderr ∧
        (both.exitCode = 0 ↔ first.exitCode = 0 ∧ second.exitCode = 0) ∧
        ∀ text, pipedExpressions text ≠ [] →
          let report (line : String) := (outcome s line).report e.json
          program args text.toUTF8 = Report.total ((pipedExpressions text).map report) ∧
          ∀ line ∈ pipedExpressions text,
            (report line).OneLineOn (e.json || (outcome s line).isOk) := by
  intro args e a b first second both
  have hargs : Invocation.parse args = .ok (.run (.eval e)) := rfl
  have hend : EndsLine a := by
    unfold EndsLine
    decide
  have ha : pipedExpressions a = ["1+1", "2/0"] := by decide
  have hb : pipedExpressions b = ["x"] := by decide
  obtain ⟨s, hs⟩ : ∃ s, e.session = .ok s := ⟨_, rfl⟩
  refine ⟨ha, hb, s, hs, ?_⟩
  exact (program_append hargs rfl hend (by rw [ha]; decide) (by rw [hb]; decide)).1 s hs

end Reckon.CommandLine
