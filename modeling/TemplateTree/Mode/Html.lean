import TemplateTree.Mode.Basic
import TemplateTree.Text.Lowercase

/-!
# HTML output

Elements and fragments as HTML text. Everything is escaped except markup, which is written as it is. Tags and
attribute names are lowered. The value of the attribute `innerHTML` is not an attribute but the raw
contents of its element, in place of the children.
-/

namespace TemplateTree.Html

variable {φ : Type}

def contentsAttribute : String := "innerHTML"

mutual

def write : Value φ → Except RenderFault String
  | .markup _ m => .ok m.html
  | .list items => writeAll items
  | v => v.text.map escape

def writeAll : List (Value φ) → Except RenderFault String
  | [] => .ok ""
  | v :: vs => do
    let s ← write v
    return s ++ (← writeAll vs)

end

def writeAttributes : List (String × Value φ) → Except RenderFault String
  | [] => .ok ""
  | (name, value) :: rest =>
    if name = contentsAttribute then writeAttributes rest
    else do
      let value ← write value
      return attributeText (lowercase name) value ++ (← writeAttributes rest)

def element (tag : String) (attributes : Dict (Value φ)) (children : List (Value φ)) :
    Except RenderFault String := do
  let tag := lowercase tag
  let opened := "<" ++ escape tag ++ (← writeAttributes attributes) ++ ">"
  if isVoid tag then return opened
  let contents ← match attributes.get? contentsAttribute with
    | some inner => inner.text
    | none => writeAll children
  return opened ++ contents ++ "</" ++ escape tag ++ ">"

def fragment (children : List (Value φ)) : Except RenderFault String :=
  writeAll children

def mode : Mode φ where
  element id tag attributes children := (element tag attributes children).map fun s => .markup id (.safe s)
  fragment id children := (fragment children).map fun s => .markup id (.safe s)
  raw id s := .ok (.markup id (.safe s))

end TemplateTree.Html
