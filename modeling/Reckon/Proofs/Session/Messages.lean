import Reckon.Proofs.Evaluation.Genuine
import Reckon.Proofs.Grammar.Messages
import Reckon.Proofs.Grammar.Printed
import Reckon.Proofs.Scanning.Coverage
import Reckon.Proofs.Scanning.Faults

/-!
# Messages of one line

* `Environment.OfTexts`: definitions that come from texts, and standard functions. Writes of texts
  keep it, `Session.ofTexts_new` and `Session.ofTexts_define`.
* `Environment.evalWithin_oneLine`: the message for an evaluation is of one line, as are the names
  that it quotes.
* `Session.oneLine_eval`: so is the message for a text of one line.
-/

namespace Reckon

/-! ## Names in trees -/

theorem IsName.oneLine {name : String} (h : IsName name.toList) : Text.OneLine name := by
  have hspelled : (TokenKind.name name).Spelled name.toList := ⟨rfl, h⟩
  exact Text.oneLine_of_not_isBlank hspelled.not_isBlank

namespace Environment

variable {σ : Type}

/-- The definitions could come from texts, and the functions are standard. -/
structure OfTexts (env : Environment σ) : Prop where
  definition {name : String} {e : Expr} : env.definition? name = some e → e.Proper
  function {name : String} {f : Function σ} : env.function? name = some f →
    ∃ b ∈ Standard.functions, f = b.function

/-! ## Evaluation -/

/-- The names that an error quotes stand in the tree or in definitions. -/
theorem evalWithin_oneLine {env : Environment σ} (henv : env.OfTexts) (budget : Nat) (e : Expr) :
    ∀ resolving s t err, (∀ key ∈ resolving, Text.OneLine key) → e.Proper →
      (env.evalWithin budget resolving e).run s = (.error err, t) → Text.OneLine err.message := by
  induction budget, e using budget_induction with
  | exhausted e =>
    intro resolving s t err _ _ h
    cases h
    decide
  | literal budget value =>
    intro resolving s t err _ _ h
    cases h
  | reference budget name ih =>
    intro resolving s t err hkeys he h
    have hname : Text.OneLine name := IsName.oneLine (he _ List.mem_cons_self)
    have hpath : ∀ key ∈ resolving ++ [nameKey name], Text.OneLine key := by
      intro key hkey
      rcases List.mem_append.1 hkey with hkey | hkey
      · exact hkeys key hkey
      · rw [List.mem_singleton.1 hkey]
        exact Text.oneLine_lowercase hname
    rcases evalWithin_reference_inv h with ⟨-, herr⟩ | ⟨-, ⟨-, herr⟩ | ⟨definition, hsome, h⟩⟩
    · cases herr
      exact Text.oneLine_append.2 ⟨by decide, Text.oneLine_intercalate (by decide) hpath⟩
    · cases herr
      show Text.OneLine s!"Undefined variable: {name}"
      simp +decide only [Text.oneLine_append, Text.oneLine_toString, hname]
    · exact ih definition _ _ _ _ hpath (henv.definition hsome) h
  | grouping budget inner ih =>
    intro resolving s t err hkeys he h
    exact ih resolving s t err hkeys
      (fun k hk => he k (List.mem_cons_of_mem _ (List.mem_append_left _ hk))) h
  | negation budget operand ih =>
    intro resolving s t err hkeys he h
    obtain ⟨r, hrun, hr⟩ := evalWithin_negation_inv h
    cases r with
    | ok x => cases hr
    | error err' =>
      cases hr
      exact ih resolving s t _ hkeys (fun k hk => he k (List.mem_cons_of_mem _ hk)) hrun
  | call budget name args ih =>
    intro resolving s t err hkeys he h
    have hname : Text.OneLine name := IsName.oneLine (he _ List.mem_cons_self)
    rcases evalWithin_call_inv h with ⟨-, herr⟩ | ⟨f, hsome, ⟨_, hruns, herr⟩ | ⟨xs, u, -, hcall⟩⟩
    · cases herr
      show Text.OneLine s!"Undefined function: {name}"
      simp +decide only [Text.oneLine_append, Text.oneLine_toString, hname]
    · cases herr
      obtain ⟨arg, harg, u, hrun⟩ := Run.exists_of_mapM_error hruns
      exact ih arg harg resolving u t _ hkeys (fun k hk => he k (Expr.mem_kinds_call harg hk)) hrun
    · obtain ⟨b, hb, rfl⟩ := henv.function hsome
      rw [Primitive.function, Run.run_ofExcept] at hcall
      exact (Standard.reports_call hb _ _ _ (Prod.mk.inj hcall).1).oneLine
  | binary budget op left right ihLeft ihRight =>
    intro resolving s t err hkeys he h
    have hleft : left.Proper := fun k hk => he k (List.mem_append_left _ hk)
    have hright : right.Proper :=
      fun k hk => he k (List.mem_append_right _ (List.mem_cons_of_mem _ hk))
    rcases evalWithin_binary_inv h with ⟨err', hrun, herr⟩ | ⟨x, u, -, h⟩
    · cases herr
      exact ihLeft _ _ _ _ hkeys hleft hrun
    · rcases h with ⟨v, -, hv⟩ | ⟨-, ⟨err', hrun, herr⟩ | ⟨y, -, hr⟩⟩
      · cases hv
      · cases herr
        exact ihRight _ _ _ _ hkeys hright hrun
      · exact (op.reports_result _ _ _ _ hr.symm).oneLine

end Environment

/-! ## Texts -/

theorem oneLine_parseText {text : String} (htext : Text.OneLine text) {err : Error}
    (h : parseText text = .error err) : Text.OneLine err.message := by
  unfold parseText at h
  split at h
  · next e hscan =>
    cases h
    have hmessage := oneLine_of_scan hscan htext
    show Text.OneLine s!"Scan error: {e.message}"
    simp +decide only [Text.oneLine_append, Text.oneLine_toString, hmessage]
  · next all hscan =>
    obtain ⟨ts, rfl, hcovering, -⟩ := covering_of_scan hscan
    have hlexemes : ∀ t ∈ ts ++ [Token.stopAt text.length], Text.OneLine t.lexeme := by
      intro t ht
      rcases List.mem_append.1 ht with ht | ht
      · exact Text.oneLine_of_not_isBlank (hcovering.standsIn t ht).not_isBlank
      · obtain rfl := List.mem_singleton.1 ht
        exact List.not_mem_nil
    cases hparse : parse (ts ++ [Token.stopAt text.length]) with
    | ok e =>
      rw [hparse] at h
      cases h
    | error e =>
      rw [hparse] at h
      cases h
      have hmessage := oneLine_of_parse hlexemes hparse
      show Text.OneLine s!"Parse error: {e.message}"
      simp +decide only [Text.oneLine_append, Text.oneLine_toString, hmessage]

/-! ## Sessions -/

namespace Session

variable {σ : Type}

theorem ofTexts_new : (new : Session σ).env.OfTexts where
  definition {name e} h := by
    obtain ⟨c, hc, rfl⟩ := Option.map_eq_some_iff.1 ((find?_definitions_new _).symm.trans h)
    have hproper : ∀ c ∈ Standard.constants, (TokenKind.number c.2).Proper := by
      simp only [Standard.constants, List.forall_mem_cons]
      exact ⟨⟨by decide, by decide⟩, ⟨by decide, by decide⟩, ⟨by decide, by decide⟩, nofun⟩
    intro k hk
    obtain rfl := List.mem_singleton.1 hk
    exact hproper c (List.mem_of_find?_eq_some hc)
  function := function?_new

theorem ofTexts_define {s : Session σ} (h : s.env.OfTexts) (name : String) {e : Expr}
    (he : e.Proper) : (s.env.define name e).OfTexts where
  definition {other e'} hother := by
    rw [Environment.definition?_define] at hother
    split at hother
    · cases hother
      exact he
    · exact h.definition hother
  function := h.function

/-- The message for a text of one line is of one line. -/
theorem oneLine_eval {s : Session σ} (h : s.env.OfTexts) {text : String}
    (htext : Text.OneLine text) {state : σ} {err : Error}
    (herr : (s.eval text state).1 = .error err) : Text.OneLine err.message := by
  unfold eval at herr
  cases hparse : parseText text with
  | error cause =>
    rw [hparse] at herr
    cases herr
    exact oneLine_parseText htext hparse
  | ok e =>
    simp only [hparse] at herr
    rcases hrun : (s.env.eval e).run state with ⟨cause | x, state'⟩
    · rw [hrun] at herr
      cases herr
      have hmessage := Environment.evalWithin_oneLine h evalBudget e [] state state' cause nofun
        (proper_of_parseText hparse) hrun
      show Text.OneLine s!"Evaluation error: {cause.message}"
      simp +decide only [Text.oneLine_append, Text.oneLine_toString, hmessage]
    · rw [hrun] at herr
      cases herr

end Session

end Reckon
