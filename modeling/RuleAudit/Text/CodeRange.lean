/-!
# Ranges of code points

Unicode properties are kept as ascending lists of closed ranges.
-/

namespace RuleAudit.Text

/-- A closed range of code points, first and last. -/
abbrev CodeRange := Nat × Nat

/-- Membership in ascending ranges; the walk stops at the first range above the code point. -/
def inRanges : List CodeRange → Nat → Bool
  | [], _ => false
  | (first, last) :: rest, code =>
    if code < first then false else code ≤ last || inRanges rest code

/-- A code point found in the ranges lies in one of them. -/
theorem exists_range_of_inRanges {ranges : List CodeRange} {code : Nat}
    (h : inRanges ranges code = true) : ∃ r ∈ ranges, r.1 ≤ code ∧ code ≤ r.2 := by
  induction ranges with
  | nil => simp [inRanges] at h
  | cons r rest ih =>
    obtain ⟨first, last⟩ := r
    unfold inRanges at h
    split at h
    · simp at h
    · rename_i hlt
      simp only [Bool.or_eq_true, decide_eq_true_eq] at h
      rcases h with h | h
      · exact ⟨(first, last), by simp, by omega, h⟩
      · obtain ⟨r, hr, hb⟩ := ih h
        exact ⟨r, by simp [hr], hb⟩

end RuleAudit.Text
