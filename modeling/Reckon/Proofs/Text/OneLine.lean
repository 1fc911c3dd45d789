import Reckon.Proofs.Text.CaseTable
import Reckon.Text.Blank
import Reckon.Text.Json

/-!
# Texts of one line

* `OneLine`: a text without a line feed. It passes through concatenation and is closed under the
  ways in which messages are put together.
* `oneLine_lowercase`: lower case brings no line feed in.
* `oneLine_jsonObject`: a JSON object is on one line, whatever its strings are.
-/

namespace Reckon.Text

/-- The text has no line feed. -/
def OneLine (text : String) : Prop := '\n' ∉ text.toList

instance (text : String) : Decidable (OneLine text) :=
  inferInstanceAs (Decidable (¬ '\n' ∈ text.toList))

@[simp] theorem oneLine_append {a b : String} : OneLine (a ++ b) ↔ OneLine a ∧ OneLine b := by
  rw [OneLine, String.toList_append, List.mem_append, not_or]
  rfl

@[simp] theorem oneLine_ofList {cs : List Char} : OneLine (String.ofList cs) ↔ '\n' ∉ cs := by
  rw [OneLine, String.toList_ofList]

@[simp] theorem oneLine_toString {text : String} : OneLine (toString text) ↔ OneLine text := Iff.rfl

theorem oneLine_toString_char {c : Char} (h : c ≠ '\n') : OneLine (toString c) := by
  have hchars : (toString c).toList = [c] := String.toList_singleton c
  rw [OneLine, hchars, List.mem_singleton]
  exact h.symm

@[simp] theorem oneLine_toString_nat (n : Nat) : OneLine (toString n) := by
  have hchars : (toString n).toList = Nat.toDigits 10 n := Nat.toList_repr
  intro h
  rw [hchars] at h
  exact absurd (Nat.isDigit_of_mem_toDigits (by decide) (by decide) h) (by decide)

/-- A line feed is blank. -/
theorem oneLine_of_not_isBlank {text : String} (h : ∀ c ∈ text.toList, isBlank c = false) :
    OneLine text := by
  intro hmem
  exact absurd (h _ hmem) (by decide)

theorem oneLine_intercalate {separator : String} {texts : List String}
    (hseparator : OneLine separator) (htexts : ∀ text ∈ texts, OneLine text) :
    OneLine (String.intercalate separator texts) := by
  induction texts with
  | nil => exact List.not_mem_nil
  | cons text texts ih =>
    obtain ⟨htext, htexts⟩ := List.forall_mem_cons.1 htexts
    cases texts with
    | nil => rwa [String.intercalate_singleton]
    | cons next texts =>
      rw [String.intercalate_cons_cons, oneLine_append, oneLine_append]
      exact ⟨⟨htext, hseparator⟩, ih htexts⟩

/-! ## Lower case -/

/-- No lower case in the table is a line feed, or that of one. -/
theorem lineFeed_caseRuns : caseRuns.all (·.constant [(10, 10)] false) = true := by decide +kernel

theorem eq_lineFeed_of_lowerChar {c : Char} (h : '\n' ∈ lowerChar c) : c = '\n' := by
  rcases lowerChar_cases c with rfl | ⟨d, hd⟩
  · exact absurd h (by decide)
  · rw [hd, List.mem_singleton] at h
    subst h
    have hcode := inRanges_lowerChar lineFeed_caseRuns hd
    apply Char.toNat_inj.1
    grind [inRanges]

theorem lineFeed_lowerFrom {before cs : List Char} (h : '\n' ∉ cs) :
    '\n' ∉ lowerFrom before cs := by
  induction cs generalizing before with
  | nil => exact List.not_mem_nil
  | cons c cs ih =>
    obtain ⟨hc, hcs⟩ := not_or.1 (mt List.mem_cons.2 h)
    rw [lowerFrom, List.mem_append, not_or]
    refine ⟨?_, ih hcs⟩
    split
    · split <;> decide
    · exact fun hmem => hc (eq_lineFeed_of_lowerChar hmem).symm

theorem oneLine_lowercase {text : String} (h : OneLine text) : OneLine (lowercase text) := by
  rw [lowercase, oneLine_ofList]
  exact lineFeed_lowerFrom h

/-! ## JSON -/

theorem lineFeed_hexByte {n : Nat} (h : n < 32) : '\n' ∉ hexByte n := by
  have hdigit : ∀ m : Fin 16, '\n' ≠ Nat.digitChar m := by decide
  have hhigh := hdigit ⟨n / 16, by omega⟩
  have hlow := hdigit ⟨n % 16, by omega⟩
  simp only [hexByte, List.mem_cons, List.not_mem_nil, or_false, not_or]
  exact ⟨hhigh, hlow⟩

theorem lineFeed_jsonChar (c : Char) : '\n' ∉ jsonChar c := by
  unfold jsonChar
  repeat' split
  any_goals decide
  · next hcontrol =>
    rw [List.mem_append, not_or]
    exact ⟨by decide, lineFeed_hexByte hcontrol⟩
  · next hlineFeed _ _ _ =>
    rw [List.mem_singleton, eq_comm]
    exact hlineFeed

theorem oneLine_jsonString (text : String) : OneLine (jsonString text) := by
  rw [jsonString, oneLine_ofList]
  simp only [List.mem_append, List.mem_flatMap, List.mem_singleton, not_or, not_exists, not_and]
  exact ⟨⟨by decide, fun c _ => lineFeed_jsonChar c⟩, by decide⟩

theorem oneLine_jsonObject (members : List (String × String)) : OneLine (jsonObject members) := by
  have hmembers : ∀ text ∈ members.map fun m => jsonString m.1 ++ ":" ++ jsonString m.2,
      OneLine text := by
    intro text htext
    obtain ⟨m, -, rfl⟩ := List.mem_map.1 htext
    simp only [oneLine_append, oneLine_jsonString, true_and, and_true]
    decide
  rw [jsonObject, oneLine_append, oneLine_append]
  exact ⟨⟨by decide, oneLine_intercalate (by decide) hmembers⟩, by decide⟩

end Reckon.Text
