import TemplateTree.Text.CodeRanges

/-!
# Blank characters

A character is blank when it has the Unicode property `White_Space`. Operands of an expression end at
blanks, and text is trimmed of them at both ends.
-/

namespace TemplateTree

def blankRanges : CodeRanges :=
  [(0x9, 0xD), (0x20, 0x20), (0x85, 0x85), (0xA0, 0xA0), (0x1680, 0x1680), (0x2000, 0x200A), (0x2028, 0x2029),
   (0x202F, 0x202F), (0x205F, 0x205F), (0x3000, 0x3000)]

def isBlank (c : Char) : Bool :=
  blankRanges.holds c

def trimBlank (cs : List Char) : List Char :=
  ((cs.dropWhile isBlank).reverse.dropWhile isBlank).reverse

end TemplateTree
