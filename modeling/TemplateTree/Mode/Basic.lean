import TemplateTree.Value.Basic

/-!
# Output modes

An output mode turns elements, fragments and raw markup into values. A render hands what a mode makes to the
mode again, as a child of the parent element or fragment, and never looks inside. Each thing made gets
an identity from the render.
-/

namespace TemplateTree

structure Mode (φ : Type) where
  element : Identity → String → Dict (Value φ) → List (Value φ) → Except RenderFault (Value φ)
  fragment : Identity → List (Value φ) → Except RenderFault (Value φ)
  raw : Identity → String → Except RenderFault (Value φ)

end TemplateTree
