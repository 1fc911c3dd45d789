/-!
# Ranges of code points

* `inRanges`: membership in a sorted list of closed ranges, the form in which the tables of
  Unicode properties are kept.
* `inRanges_iff`: for a sorted list it is membership in one of the ranges.
* `apart`: no range of one list meets one of another; `inRanges_of_apart`.
-/

namespace Reckon.Text

/-- Whether `n` lies in one of the ranges, which are sorted: the search ends at the first range
that begins above `n`. -/
def inRanges : List (Nat × Nat) → Nat → Bool
  | [], _ => false
  | (low, high) :: rest, n =>
    if n < low then false else if n ≤ high then true else inRanges rest n

/-- Each range ends below the beginning of all later ones. -/
def Sorted (ranges : List (Nat × Nat)) : Prop :=
  ranges.Pairwise fun r s => r.2 < s.1

theorem exists_of_inRanges {ranges : List (Nat × Nat)} {n : Nat}
    (h : inRanges ranges n = true) : ∃ r ∈ ranges, r.1 ≤ n ∧ n ≤ r.2 := by
  induction ranges with
  | nil => simp [inRanges] at h
  | cons r rest ih =>
    obtain ⟨low, high⟩ := r
    unfold inRanges at h
    split at h
    · simp at h
    · split at h
      · exact ⟨(low, high), by simp, by omega, by assumption⟩
      · obtain ⟨s, hs, hn⟩ := ih h
        exact ⟨s, List.mem_cons_of_mem _ hs, hn⟩

theorem inRanges_of_mem {ranges : List (Nat × Nat)} (hsorted : Sorted ranges)
    (hwf : ∀ r ∈ ranges, r.1 ≤ r.2) {r : Nat × Nat} (hr : r ∈ ranges) {n : Nat}
    (hlow : r.1 ≤ n) (hhigh : n ≤ r.2) : inRanges ranges n = true := by
  induction ranges with
  | nil => simp at hr
  | cons s rest ih =>
    obtain ⟨low, high⟩ := s
    obtain ⟨hhead, htail⟩ := List.pairwise_cons.1 hsorted
    have hs : low ≤ high := hwf (low, high) (by simp)
    unfold inRanges
    rcases List.mem_cons.1 hr with rfl | hr'
    · simp only at hlow hhigh
      rw [if_neg (by omega), if_pos hhigh]
    · have hbelow : high < r.1 := hhead r hr'
      rw [if_neg (by omega), if_neg (by omega)]
      exact ih htail (fun t ht => hwf t (List.mem_cons_of_mem _ ht)) hr'

theorem inRanges_iff {ranges : List (Nat × Nat)} (hsorted : Sorted ranges)
    (hwf : ∀ r ∈ ranges, r.1 ≤ r.2) (n : Nat) :
    inRanges ranges n = true ↔ ∃ r ∈ ranges, r.1 ≤ n ∧ n ≤ r.2 :=
  ⟨exists_of_inRanges, fun ⟨_, hr, hlow, hhigh⟩ =>
    inRanges_of_mem hsorted hwf hr hlow hhigh⟩

/-- Whether the ranges of two lists have no number in common. -/
def apart (ranges others : List (Nat × Nat)) : Bool :=
  ranges.all fun r => others.all fun s => decide (r.2 < s.1) || decide (s.2 < r.1)

theorem inRanges_of_apart {ranges others : List (Nat × Nat)} (h : apart ranges others = true)
    {n : Nat} (hn : inRanges ranges n = true) : inRanges others n = false := by
  cases hother : inRanges others n with
  | false => rfl
  | true =>
    obtain ⟨r, hr, hlow, hhigh⟩ := exists_of_inRanges hn
    obtain ⟨s, hs, hlow', hhigh'⟩ := exists_of_inRanges hother
    have hrs := List.all_eq_true.1 (List.all_eq_true.1 h r hr) s hs
    rw [Bool.or_eq_true, decide_eq_true_eq, decide_eq_true_eq] at hrs
    omega

end Reckon.Text
