import TemplateTree.Text.CodeRanges

/-!
# Identifier characters

Paths in loop headers are made of dots and of characters that may continue an identifier. Which
characters these are is left to the host.
-/

namespace TemplateTree

class IdentifierChars where
  isIdentifierChar : Char → Bool

export IdentifierChars (isIdentifierChar)

/-- Without a table: the letters, the digits and the underscore of ASCII. -/
@[reducible] def IdentifierChars.ascii : IdentifierChars :=
  ⟨CodeRanges.holds [(0x30, 0x39), (0x41, 0x5A), (0x5F, 0x5F), (0x61, 0x7A)]⟩

end TemplateTree
