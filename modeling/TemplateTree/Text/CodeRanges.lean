/-!
# Sets of characters as ranges

A set of characters is a list of closed ranges of code points.
-/

namespace TemplateTree

abbrev CodeRanges := List (Nat × Nat)

def CodeRanges.holds (ranges : CodeRanges) (c : Char) : Bool :=
  ranges.any fun r => r.1 ≤ c.toNat && c.toNat ≤ r.2

theorem CodeRanges.holds_iff {ranges : CodeRanges} {c : Char} :
    ranges.holds c = true ↔ ∃ r ∈ ranges, r.1 ≤ c.toNat ∧ c.toNat ≤ r.2 := by
  simp [CodeRanges.holds]

/-- Of two sets whose ranges lie apart, no character is in both. -/
theorem CodeRanges.holds_eq_false {ranges others : CodeRanges} {c : Char}
    (hapart : ranges.all (fun r => others.all fun s => r.2 < s.1 || s.2 < r.1) = true)
    (h : ranges.holds c = true) : others.holds c = false := by
  rw [Bool.eq_false_iff]
  intro hother
  obtain ⟨r, hr, hlow, hhigh⟩ := CodeRanges.holds_iff.mp h
  obtain ⟨s, hs, hlow', hhigh'⟩ := CodeRanges.holds_iff.mp hother
  have := List.all_eq_true.mp (List.all_eq_true.mp hapart r hr) s hs
  simp only [Bool.or_eq_true, decide_eq_true_eq] at this
  omega

end TemplateTree
