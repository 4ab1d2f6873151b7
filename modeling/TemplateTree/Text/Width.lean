/-!
# Width of texts

The columns that a text takes where it is shown decide where a caret below it stands. How many these are
is left to the host.
-/

namespace TemplateTree

class TextWidth where
  displayWidth : List Char → Nat

export TextWidth (displayWidth)

/-- Without a table: one column for each character. -/
@[reducible] def TextWidth.ofLength : TextWidth :=
  ⟨List.length⟩

end TemplateTree
