import TemplateTree.Mode.Basic

/-!
# Parenthesized output

Elements as plain strings in parentheses: the tag, each attribute behind a colon and the text of the children.
Fragments are lists, and raw markup is a string. Nothing is escaped.
-/

namespace TemplateTree.Parenthesized

variable {φ : Type}

def writeAttributes : List (String × Value φ) → Except RenderFault String
  | [] => .ok ""
  | (name, value) :: rest => do
    let text ← value.text
    return " :" ++ name ++ " " ++ text ++ (← writeAttributes rest)

def element (tag : String) (attributes : Dict (Value φ)) (children : List (Value φ)) :
    Except RenderFault String := do
  let attributes ← writeAttributes attributes
  let contents ← Value.textAll children
  return "(" ++ tag ++ attributes ++ " " ++ contents ++ ")"

def mode : Mode φ where
  element _ tag attributes children := (element tag attributes children).map .string
  fragment _ children := .ok (.list children)
  raw _ s := .ok (.string s)

end TemplateTree.Parenthesized
