/-!
# Integers

The integers of templates are signed words of 64 bits. A number that a word cannot hold is no integer; where
a count has to become one all the same, the greatest integer stands for it.
-/

namespace TemplateTree

/-- The integer that a number is, if a word can hold it. -/
def integer? (i : Int) : Option Int64 :=
  if Int64.minValue.toInt ≤ i ∧ i ≤ Int64.maxValue.toInt then some (Int64.ofInt i) else none

/-- The integer that a count is, or the greatest one. -/
def countInteger (n : Nat) : Int64 :=
  (integer? n).getD Int64.maxValue

theorem toInt_of_integer? {i : Int} {w : Int64} (h : integer? i = some w) : w.toInt = i := by
  unfold integer? at h
  split at h
  · next hi =>
    rw [Int64.toInt_minValue, Int64.toInt_maxValue] at hi
    rw [← Option.some.inj h]
    exact Int64.toInt_ofInt_of_le hi.1 (by omega)
  · cases h

end TemplateTree
