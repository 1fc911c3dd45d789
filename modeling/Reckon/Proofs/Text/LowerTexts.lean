import Reckon.Proofs.Text.CaseVariants

/-!
# Texts in lower case

The lower case of a character is its own lower case, and it is no capital sigma. So nothing in a
text in lower case is written in another way again, whatever stands around it.

* `CaseRun.fixedBy`: whether some runs leave the lower cases of a run as they are.
  `lowerCode_lowerCode`: the table does so with all of its own.
* `IsLower`: characters that are their own lower case. `isLower_of_mem_lowerFrom`: a lower case has
  no others in it.
* `lowercase_eq_self_iff`: a text is its own lower case exactly when its characters are, and so
  `lowercase_lowercase`.
-/

namespace Reckon.Text

/-! ## The table -/

namespace CaseRun

/-- Whether the runs leave the lower cases of the run as they are. Looks at the ends of each; if
that is not enough, at the code points. -/
def fixedBy (run : CaseRun) : List CaseRun → Bool
  | [] => true
  | other :: rest =>
    bif Nat.blt other.last (run.lower run.first) then run.fixedBy rest
    else bif Nat.blt (run.lower run.last) other.first then true
    else run.codes.all (fun n => Nat.blt 0 ((run.lower n - other.first) % other.stride)) &&
      run.fixedBy rest

theorem lowerCode_of_fixedBy {run : CaseRun} (hwf : run.first ≤ run.last) {n : Nat}
    (hn : n ∈ run.codes) {runs : List CaseRun} (h : run.fixedBy runs = true) :
    lowerCode runs (run.lower n) = run.lower n := by
  have hlow : run.lower run.first ≤ run.lower n := by
    have hfirst := first_le_of_mem_codes hn
    unfold lower
    omega
  have hhigh : run.lower n ≤ run.lower run.last := by
    have hlast := le_last_of_mem_codes hwf hn
    unfold lower
    omega
  induction runs with
  | nil => rfl
  | cons other rest ih =>
    simp only [fixedBy, cond_eq_ite, Nat.blt_eq] at h
    rw [lowerCode]
    split at h
    · have habove : ¬ run.lower n ≤ other.last := by omega
      rw [if_neg habove, ih h, ite_self]
    · split at h
      · have hbelow : run.lower n < other.first := by omega
        rw [if_pos hbelow]
      · obtain ⟨hcodes, hrest⟩ := Bool.and_eq_true_iff.1 h
        have hbetween : 0 < (run.lower n - other.first) % other.stride := by
          rw [← Nat.blt_eq]
          exact List.all_eq_true.1 hcodes n hn
        rw [if_neg (Nat.ne_of_gt hbetween), ih hrest, ite_self, ite_self]

end CaseRun

theorem fixedBy_caseRuns : caseRuns.all (·.fixedBy caseRuns) = true := by decide +kernel

theorem lowerCode_lowerCode (n : Nat) :
    lowerCode caseRuns (lowerCode caseRuns n) = lowerCode caseRuns n := by
  rcases lowerCode_cases caseRuns n with hsame | ⟨run, hrun, hcode, hlower⟩
  · rw [hsame, hsame]
  · have hwf := Nat.le_of_ble_eq_true (List.all_eq_true.1 wf_caseRuns run hrun)
    have hfixed := List.all_eq_true.1 fixedBy_caseRuns run hrun
    rw [hlower, run.lowerCode_of_fixedBy hwf hcode hfixed]

/-! ## Characters -/

/-- The character is its own lower case. -/
def IsLower (c : Char) : Prop := lowerChar c = [c]

instance : DecidablePred IsLower := fun c => decEq (lowerChar c) [c]

/-- The table has nothing to do with `İ`. -/
theorem dotted_caseRuns : caseRuns.all (·.constant [(0x130, 0x130)] false) = true := by
  decide +kernel

theorem eq_dotted_of_inRanges {c : Char} (h : inRanges [(0x130, 0x130)] c.toNat = true) :
    c = '\u0130' := by
  obtain ⟨r, hr, hlow, hhigh⟩ := exists_of_inRanges h
  obtain rfl := List.mem_singleton.1 hr
  have hcode : c.toNat = 0x130 := Nat.le_antisymm hhigh hlow
  rw [← Char.ofNat_toNat c, hcode]

theorem isLower_of_lowerChar_eq {c d : Char} (h : lowerChar c = [d]) : IsLower d := by
  have hd : d ≠ '\u0130' := by
    rintro rfl
    have hc : inRanges [(0x130, 0x130)] c.toNat = true :=
      (inRanges_lowerChar dotted_caseRuns h).symm
    obtain rfl := eq_dotted_of_inRanges hc
    cases h
  rw [IsLower, lowerChar, if_neg hd, toNat_of_lowerChar_eq h, lowerCode_lowerCode,
    ← toNat_of_lowerChar_eq h, Char.ofNat_toNat]

theorem isLower_of_mem_lowerChar {c d : Char} (h : d ∈ lowerChar c) : IsLower d := by
  rcases lowerChar_cases c with rfl | ⟨d', hd'⟩
  · have hdot : lowerChar '\u0130' = ['i', '\u0307'] := rfl
    rw [hdot, List.mem_cons, List.mem_singleton] at h
    rcases h with rfl | rfl <;> decide
  · rw [hd', List.mem_singleton] at h
    exact isLower_of_lowerChar_eq (h ▸ hd')

/-! ## Texts -/

theorem isLower_of_mem_lowerFrom {before cs : List Char} {d : Char}
    (h : d ∈ lowerFrom before cs) : IsLower d := by
  induction cs generalizing before with
  | nil => cases h
  | cons c rest ih =>
    rw [lowerFrom_cons, List.mem_append] at h
    rcases h with h | h
    · split at h
      · obtain rfl := List.mem_singleton.1 h
        decide
      · exact isLower_of_mem_lowerChar h
    · exact ih h

theorem lowerFrom_of_isLower {before cs : List Char} (h : ∀ c ∈ cs, IsLower c) :
    lowerFrom before cs = cs := by
  induction cs generalizing before with
  | nil => rfl
  | cons c rest ih =>
    obtain ⟨hc, hrest⟩ := List.forall_mem_cons.1 h
    have hlower : lowerChar c = [c] := hc
    have hsigma : ¬ isFinalSigma before c rest = true := by
      intro hfinal
      obtain rfl : c = 'σ' := by
        rw [lowerChar_of_isFinalSigma hfinal, List.singleton_inj] at hlower
        exact hlower.symm
      cases hfinal
    rw [lowerFrom_cons, if_neg hsigma, hlower, ih hrest]
    rfl

/-- A text is its own lower case exactly when all of its characters are. -/
theorem lowercase_eq_self_iff {text : String} :
    lowercase text = text ↔ ∀ c ∈ text.toList, IsLower c := by
  constructor
  · intro h c hc
    rw [← h, lowercase, String.toList_ofList] at hc
    exact isLower_of_mem_lowerFrom hc
  · intro h
    rw [lowercase, lowerFrom_of_isLower h, String.ofList_toList]

theorem lowercase_lowercase (text : String) : lowercase (lowercase text) = lowercase text := by
  apply lowercase_eq_self_iff.2
  intro c hc
  rw [lowercase, String.toList_ofList] at hc
  exact isLower_of_mem_lowerFrom hc

end Reckon.Text
