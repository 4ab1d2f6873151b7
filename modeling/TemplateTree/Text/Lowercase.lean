import TemplateTree.Text.Casing

/-!
# Lowercase text

The lowercase form of a text under the full mapping of Unicode. Two rules go beyond the simple mapping:
the dotted capital I becomes an i and a dot above, and a capital sigma that ends a word becomes the
final sigma.
-/

namespace TemplateTree

/-- Whether the next character that counts for case is a cased one. -/
def meetsCased (cs : List Char) : Bool :=
  match cs.dropWhile isCaseIgnorable with
  | [] => false
  | c :: _ => isCased c

def lowerChar (c : Char) : List Char :=
  if c = '\u0130' then ['i', '\u0307']
  else match caseRuns.find? (·.covers c) with
    | some run => [run.lower c]
    | none => [c]

/-- The sigma that `before`, read backwards, and `after` call for. -/
def lowerSigma (before after : List Char) : Char :=
  if meetsCased before && !meetsCased after then '\u03C2' else '\u03C3'

/-- Lowers the characters one by one; `before` holds those already read, the nearest first. -/
def lowerFrom (before : List Char) : List Char → List Char
  | [] => []
  | c :: rest =>
    (if c = '\u03A3' then [lowerSigma before rest] else lowerChar c) ++ lowerFrom (c :: before) rest

def lowercase (s : String) : String :=
  String.ofList (lowerFrom [] s.toList)

end TemplateTree
