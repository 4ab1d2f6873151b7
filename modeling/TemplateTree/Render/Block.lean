import TemplateTree.Render.Basic

/-!
# Rendering blocks

A block renders the most derived definition that is queued for its name, or itself if none is. While a
definition renders it is off its queue, and the variable `block` holds its name and a function that
renders the definition next in the queue, or nothing if there is none.
-/

namespace TemplateTree

open RenderM

variable {η : Type}

def bindBlock (b : Block η) : RenderM η Unit := do
  let id ← newIdentity
  bindVar "block" (.map [("name", .string b.name), ("super", .function id (.super b))])

def renderDefinition (render : Renderer η) (b : Block η) : RenderM η (List (Val η)) := do
  bindBlock b
  renderAll render b.contents

def queued? (ctx : Context η) (name : String) : Option (Block η) :=
  ctx.render.blocks.bind (·.first? name)

def renderOperative (render : Renderer η) (b : Block η) : RenderM η (List (Val η)) := do
  match queued? (← get) b.name with
  | none => renderDefinition render b
  | some definition =>
    bracket (update (·.mapBlocks (·.pop b.name))) (fun _ => update (·.mapBlocks (·.push b.name definition)))
      (renderDefinition render definition)

def renderBlock (render : Renderer η) (b : Block η) : RenderM η (Val η) := do
  return .list (← inFrame [] (renderOperative render b))

def renderSuper (render : Renderer η) (b : Block η) : RenderM η (Val η) := do
  match queued? (← get) b.name with
  | none => return .list []
  | some _ => renderBlock render b

end TemplateTree
