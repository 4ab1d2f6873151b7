/-!
# Byte offsets

Positions in a source are offsets in bytes of its UTF-8 form, while the source itself is read as a list of
characters. An offset that falls inside a character belongs to no place in the list, so a cut at an
offset can fail.
-/

namespace TemplateTree

def byteLength : List Char → Nat
  | [] => 0
  | c :: cs => c.utf8Size + byteLength cs

/-- Cuts a text at a byte offset, if the offset lies between two characters or at an end. -/
def cut? : List Char → Nat → Option (List Char × List Char)
  | cs, 0 => some ([], cs)
  | [], _ + 1 => none
  | c :: cs, n + 1 =>
    if c.utf8Size ≤ n + 1 then
      (cut? cs (n + 1 - c.utf8Size)).map fun p => (c :: p.1, p.2)
    else none

/-- A region of a source: the bytes from `start` up to `stop`. -/
structure Span where
  start : Nat
  stop : Nat
deriving DecidableEq, Repr

/-- The text of a region, if both its ends lie between characters. -/
def Span.slice? (span : Span) (source : List Char) : Option (List Char) :=
  if span.start ≤ span.stop then
    (cut? source span.start).bind fun p => (cut? p.2 (span.stop - span.start)).map (·.1)
  else none

@[simp] theorem byteLength_append (a b : List Char) : byteLength (a ++ b) = byteLength a + byteLength b := by
  induction a with
  | nil => simp [byteLength]
  | cons c a ih => simp [byteLength, ih, Nat.add_assoc]

theorem cut?_append (a b : List Char) : cut? (a ++ b) (byteLength a) = some (a, b) := by
  induction a with
  | nil => cases b <;> rfl
  | cons c a ih =>
    have hc : 0 < c.utf8Size := c.utf8Size_pos
    have : byteLength (c :: a) = (byteLength a + (c.utf8Size - 1)) + 1 := by simp [byteLength]; omega
    rw [List.cons_append, this, cut?, if_pos (by omega)]
    have : byteLength a + (c.utf8Size - 1) + 1 - c.utf8Size = byteLength a := by omega
    rw [this, ih]; rfl

theorem slice?_append (a b c : List Char) :
    Span.slice? ⟨byteLength a, byteLength a + byteLength b⟩ (a ++ b ++ c) = some b := by
  have h : byteLength a + byteLength b - byteLength a = byteLength b := by omega
  rw [Span.slice?, if_pos (Nat.le_add_right _ _), h, List.append_assoc, cut?_append]
  simp [cut?_append]

end TemplateTree
