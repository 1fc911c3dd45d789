import Mathlib.Data.List.Forall2
import Reckon.Proofs.Text.CaseTable

/-!
# Texts that differ in case

* `CaseVariants`: texts of the same length whose characters have the same lower cases, each on its
  own.
* `finalSigmas`: where capital sigmas end a word. Only these have another lower case than on their
  own.
* `lowercase_eq_iff`: the lower cases of two such texts are equal exactly when both have these
  sigmas at the same places.
-/

namespace Reckon.Text

/-- The characters have the same lower case on their own. -/
def SameLower (c d : Char) : Prop := lowerChar c = lowerChar d

instance : DecidableRel SameLower := fun c d => decEq (lowerChar c) (lowerChar d)

/-- The texts have as many characters, with the same lower cases one by one. -/
def CaseVariants (a b : String) : Prop := List.Forall₂ SameLower a.toList b.toList

/-! ## Sigmas that end a word -/

/-- `c`, between `before`, which is given last character first, and `rest`, is a capital sigma that
ends a word. -/
def isFinalSigma (before : List Char) (c : Char) (rest : List Char) : Bool :=
  c == 'Σ' && (startsCased before && !startsCased rest)

def finalSigmasFrom (before : List Char) : List Char → List Bool
  | [] => []
  | c :: rest => isFinalSigma before c rest :: finalSigmasFrom (c :: before) rest

/-- For each character of the text, whether it is a capital sigma that ends a word. -/
def finalSigmas (text : String) : List Bool := finalSigmasFrom [] text.toList

theorem lowerChar_of_isFinalSigma {before rest : List Char} {c : Char}
    (h : isFinalSigma before c rest = true) : lowerChar c = ['σ'] := by
  rw [isFinalSigma, Bool.and_eq_true, beq_iff_eq] at h
  rw [h.1]
  decide

theorem lowerFrom_cons (before : List Char) (c : Char) (rest : List Char) :
    lowerFrom before (c :: rest) =
      (if isFinalSigma before c rest then ['ς'] else lowerChar c) ++
        lowerFrom (c :: before) rest := by
  have hsigma : lowerChar 'Σ' = ['σ'] := by decide
  rw [lowerFrom, isFinalSigma]
  by_cases hc : c = 'Σ'
  · subst hc
    rw [hsigma]
    cases startsCased before && !startsCased rest <;> rfl
  · simp [hc]

/-- A final sigma shows in the lower case. -/
theorem append_lower_iff {final final' : Bool} {lower xs ys : List Char}
    (h : final = true ∨ final' = true → lower = ['σ']) :
    (if final then ['ς'] else lower) ++ xs = (if final' then ['ς'] else lower) ++ ys ↔
      final = final' ∧ xs = ys := by
  cases final <;> cases final' <;> simp_all

theorem lowerFrom_eq_iff {before before' cs ds : List Char}
    (hbefore : List.Forall₂ SameLower before before') (h : List.Forall₂ SameLower cs ds) :
    lowerFrom before cs = lowerFrom before' ds ↔
      finalSigmasFrom before cs = finalSigmasFrom before' ds := by
  induction h generalizing before before' with
  | nil => exact ⟨fun _ => rfl, fun _ => rfl⟩
  | @cons c d cs ds hcd _ ih =>
    have hlower : lowerChar c = lowerChar d := hcd
    have hsigma : isFinalSigma before c cs = true ∨ isFinalSigma before' d ds = true →
        lowerChar c = ['σ'] := by
      rintro (hfinal | hfinal)
      · exact lowerChar_of_isFinalSigma hfinal
      · exact hlower.trans (lowerChar_of_isFinalSigma hfinal)
    rw [lowerFrom_cons, lowerFrom_cons, finalSigmasFrom, finalSigmasFrom, List.cons.injEq,
      ← hlower, append_lower_iff hsigma, ih (.cons hcd hbefore)]

theorem lowercase_eq_iff {a b : String} (h : CaseVariants a b) :
    lowercase a = lowercase b ↔ finalSigmas a = finalSigmas b := by
  rw [lowercase, lowercase, String.ofList_inj]
  exact lowerFrom_eq_iff .nil h

end Reckon.Text
