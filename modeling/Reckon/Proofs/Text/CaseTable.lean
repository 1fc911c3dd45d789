import Reckon.Text.Lowercase

/-!
# The table of lower cases

* `rangesOn`: whether all code points of an interval lie in the ranges, or none of them.
* `CaseRun.codes`: the code points of a run; `CaseRun.Constant`: whether these and their lower
  cases all lie in the ranges, or none of them, as `CaseRun.constant` finds it.
* `inRanges_lowerChar`: so a character and its lower case lie in the same ranges, where the table
  says so of all its runs.
-/

namespace Reckon.Text

/-! ## Intervals in ranges -/

/-- Whether the whole interval lies in sorted ranges or none of it; nothing if only a part does. -/
def rangesOn : List (Nat × Nat) → Nat → Nat → Option Bool
  | [], _, _ => some false
  | (first, last) :: rest, low, high =>
    bif Nat.blt last low && Nat.ble first low then rangesOn rest low high
    else bif Nat.blt high first then some false
    else bif Nat.ble first low && Nat.ble high last then some true
    else none

theorem inRanges_of_rangesOn {ranges : List (Nat × Nat)} {low high n : Nat} {b : Bool}
    (h : rangesOn ranges low high = some b) (hlow : low ≤ n) (hhigh : n ≤ high) :
    inRanges ranges n = b := by
  induction ranges with
  | nil => exact Option.some.inj h
  | cons r rest ih =>
    obtain ⟨first, last⟩ := r
    simp only [rangesOn, cond_eq_ite, Bool.and_eq_true, Nat.blt_eq, Nat.ble_eq] at h
    rw [inRanges]
    split at h
    · rw [if_neg (by omega), if_neg (by omega)]
      exact ih h
    · split at h
      · rw [if_pos (by omega)]
        exact Option.some.inj h
      · split at h
        · rw [if_neg (by omega), if_pos (by omega)]
          exact Option.some.inj h
        · cases h

/-! ## Runs -/

namespace CaseRun

/-- The code points of a run. -/
def codes (run : CaseRun) : List Nat :=
  (List.range ((run.last - run.first) / run.stride + 1)).map (run.first + run.stride * ·)

/-- The lower case of a code point of the run. -/
def lower (run : CaseRun) (n : Nat) : Nat := (n + run.offset).toNat

/-- All code points of the run and their lower cases lie in the ranges, or none of them does. -/
def Constant (ranges : List (Nat × Nat)) (b : Bool) (run : CaseRun) : Prop :=
  ∀ n ∈ run.codes, inRanges ranges n = b ∧ inRanges ranges (run.lower n) = b

/-- Looks at the ends of the run; if that is not enough, at each code point. -/
def constant (ranges : List (Nat × Nat)) (b : Bool) (run : CaseRun) : Bool :=
  rangesOn ranges run.first run.last == some b &&
      rangesOn ranges (run.lower run.first) (run.lower run.last) == some b ||
    run.codes.all fun n => inRanges ranges n == b && inRanges ranges (run.lower n) == b

variable {run : CaseRun} {n : Nat}

theorem mem_codes (hfirst : run.first ≤ n) (hlast : n ≤ run.last)
    (hstride : (n - run.first) % run.stride = 0) : n ∈ run.codes := by
  refine List.mem_map.2 ⟨(n - run.first) / run.stride, List.mem_range.2 ?_, ?_⟩
  · have hle := Nat.div_le_div_right (c := run.stride) (Nat.sub_le_sub_right hlast run.first)
    omega
  · rw [Nat.mul_div_cancel' (Nat.dvd_of_mod_eq_zero hstride)]
    omega

theorem first_le_of_mem_codes (h : n ∈ run.codes) : run.first ≤ n := by
  obtain ⟨k, -, rfl⟩ := List.mem_map.1 h
  exact Nat.le_add_right _ _

theorem le_last_of_mem_codes (hwf : run.first ≤ run.last) (h : n ∈ run.codes) : n ≤ run.last := by
  obtain ⟨k, hk, rfl⟩ := List.mem_map.1 h
  have hle : k ≤ (run.last - run.first) / run.stride :=
    Nat.le_of_lt_succ (List.mem_range.1 hk)
  have hmul := Nat.mul_le_mul_left run.stride hle
  have hdiv := Nat.mul_div_le (run.last - run.first) run.stride
  omega

theorem constant_sound {ranges : List (Nat × Nat)} {b : Bool} (hwf : run.first ≤ run.last)
    (h : run.constant ranges b = true) : run.Constant ranges b := by
  intro n hn
  have hfirst := first_le_of_mem_codes hn
  have hlast := le_last_of_mem_codes hwf hn
  simp only [constant, Bool.or_eq_true, Bool.and_eq_true, beq_iff_eq, List.all_eq_true] at h
  rcases h with ⟨hcodes, hlower⟩ | hall
  · refine ⟨inRanges_of_rangesOn hcodes hfirst hlast, inRanges_of_rangesOn hlower ?_ ?_⟩ <;>
      · unfold lower
        omega
  · exact hall n hn

end CaseRun

theorem lowerCode_cases (runs : List CaseRun) (n : Nat) :
    lowerCode runs n = n ∨ ∃ run ∈ runs, n ∈ run.codes ∧ lowerCode runs n = run.lower n := by
  induction runs with
  | nil => exact .inl rfl
  | cons run rest ih =>
    rw [lowerCode]
    split
    · exact .inl rfl
    · next hfirst =>
      split
      · next hlast =>
        split
        · next hstride =>
          exact .inr ⟨run, List.mem_cons_self, run.mem_codes (by omega) hlast hstride, rfl⟩
        · exact .inl rfl
      · refine ih.imp_right ?_
        rintro ⟨other, hother, hn⟩
        exact ⟨other, List.mem_cons_of_mem _ hother, hn⟩

/-! ## The table -/

/-- The code points of characters. -/
def validRanges : List (Nat × Nat) := [(0, 0xD7FF), (0xE000, 0x10FFFF)]

theorem wf_caseRuns : caseRuns.all (fun run => Nat.ble run.first run.last) = true := by
  decide +kernel

theorem valid_caseRuns : caseRuns.all (·.constant validRanges true) = true := by decide +kernel

theorem constant_of_table {ranges : List (Nat × Nat)} {b : Bool}
    (h : caseRuns.all (·.constant ranges b) = true) {run : CaseRun} (hrun : run ∈ caseRuns) :
    run.Constant ranges b := by
  have hwf := List.all_eq_true.1 wf_caseRuns run hrun
  exact run.constant_sound (Nat.le_of_ble_eq_true hwf) (List.all_eq_true.1 h run hrun)

theorem toNat_ofNat_of_inRanges {n : Nat} (h : inRanges validRanges n = true) :
    (Char.ofNat n).toNat = n := by
  have hvalid : n.isValidChar := by grind [inRanges, validRanges]
  rw [Char.ofNat, dif_pos hvalid]
  rfl

/-- Where the lower case of a character is one character, it is the one that the table gives. -/
theorem toNat_of_lowerChar_eq {c d : Char} (h : lowerChar c = [d]) :
    d.toNat = lowerCode caseRuns c.toNat := by
  have hc : c ≠ '\u0130' := by
    rintro rfl
    cases h
  obtain rfl : Char.ofNat (lowerCode caseRuns c.toNat) = d := by
    rwa [lowerChar, if_neg hc, List.singleton_inj] at h
  rcases lowerCode_cases caseRuns c.toNat with hsame | ⟨run, hrun, hcode, hlower⟩
  · rw [hsame, Char.ofNat_toNat]
  · obtain ⟨-, hvalid⟩ := constant_of_table valid_caseRuns hrun _ hcode
    rw [hlower, toNat_ofNat_of_inRanges hvalid]

/-- The lower case of a character lies in the ranges if the character does, where that holds of the
table. -/
theorem inRanges_lowerChar {ranges : List (Nat × Nat)} {b : Bool}
    (h : caseRuns.all (·.constant ranges b) = true) {c d : Char} (hd : lowerChar c = [d]) :
    inRanges ranges d.toNat = inRanges ranges c.toNat := by
  rw [toNat_of_lowerChar_eq hd]
  rcases lowerCode_cases caseRuns c.toNat with hsame | ⟨run, hrun, hcode, hlower⟩
  · rw [hsame]
  · obtain ⟨hcode', hlower'⟩ := constant_of_table h hrun _ hcode
    rw [hlower, hlower', hcode']

/-- The only lower case of two characters is that of `İ`. -/
theorem lowerChar_cases (c : Char) : c = '\u0130' ∨ ∃ d, lowerChar c = [d] := by
  by_cases hc : c = '\u0130'
  · exact .inl hc
  · exact .inr ⟨_, if_neg hc⟩

end Reckon.Text
