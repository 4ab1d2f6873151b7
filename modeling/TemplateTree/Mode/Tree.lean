import TemplateTree.Mode.Basic
import TemplateTree.Text.Lowercase

/-!
# Tree output

Elements and fragments as trees that can be inspected. Attributes become text, children become nodes, and a
fragment among the children becomes the nodes in it. Tags and attribute names are lowered; of two names
that are then the same the later one stays.
-/

namespace TemplateTree.Tree

variable {φ : Type}

def nodeOf : Markup → List MarkupTree
  | .safe s => [.raw s]
  | .tree t => [t]
  | .fragment ts => ts

mutual

def nodes : Value φ → Except RenderFault (List MarkupTree)
  | .none => .ok []
  | .markup _ m => .ok (nodeOf m)
  | .list items => nodesOfAll items
  | v => v.text.map fun s => [.text s]

def nodesOfAll : List (Value φ) → Except RenderFault (List MarkupTree)
  | [] => .ok []
  | v :: vs => do
    let ts ← nodes v
    return ts ++ (← nodesOfAll vs)

end

def attributeTexts (d : Dict String) : List (String × Value φ) → Except RenderFault (Dict String)
  | [] => .ok d
  | (name, value) :: rest => do
    let text ← value.text
    attributeTexts (d.insert (lowercase name) text) rest

/-- The node of an element. A void element keeps no children. -/
def element (tag : String) (attributes : Dict (Value φ)) (children : List (Value φ)) :
    Except RenderFault MarkupTree := do
  let attributes ← attributeTexts [] attributes
  let children ← nodesOfAll children
  let tag := lowercase tag
  return .element tag attributes (if isVoid tag then [] else children)

def mode : Mode φ where
  element id tag attributes children := (element tag attributes children).map fun t => .markup id (.tree t)
  fragment id children := (nodesOfAll children).map fun ts => .markup id (.fragment ts)
  raw id s := .ok (.markup id (.tree (.raw s)))

end TemplateTree.Tree
