import TemplateTree.Dict
import TemplateTree.Text.Escape

/-!
# Markup

What an output mode makes of elements, fragments and raw text: HTML text that is safe to write as it is, or
a tree of elements. The text of a tree is HTML.
-/

namespace TemplateTree

inductive MarkupTree where
  | element (tag : String) (attributes : List (String × String)) (children : List MarkupTree)
  /-- Text that is escaped when it is written. -/
  | text (s : String)
  /-- Text that is written as it is. -/
  | raw (s : String)

inductive Markup where
  | safe (html : String)
  | tree (node : MarkupTree)
  | fragment (children : List MarkupTree)

def voidTags : List String :=
  ["area", "base", "br", "col", "command", "embed", "frame", "hr", "input", "img", "keygen", "link", "meta",
   "param", "source", "track", "wbr"]

def isVoid (tag : String) : Bool :=
  voidTags.contains tag

/-- An attribute as it is written in a tag, behind a space. -/
def attributeText (name value : String) : String :=
  " " ++ escape name ++ "=\"" ++ value ++ "\""

namespace MarkupTree

def openTag (tag : String) (attributes : List (String × String)) : String :=
  "<" ++ escape tag ++ String.join (attributes.map fun a => attributeText a.1 (escape a.2)) ++ ">"

mutual

def html : MarkupTree → String
  | .element tag attributes children =>
    openTag tag attributes ++ if isVoid tag then "" else htmlAll children ++ "</" ++ tag ++ ">"
  | .text s => escape s
  | .raw s => s

def htmlAll : List MarkupTree → String
  | [] => ""
  | t :: ts => t.html ++ htmlAll ts

end

end MarkupTree

namespace Markup

def html : Markup → String
  | .safe s => s
  | .tree t => t.html
  | .fragment ts => MarkupTree.htmlAll ts

end Markup

end TemplateTree
