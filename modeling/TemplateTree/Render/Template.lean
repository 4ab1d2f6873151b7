import TemplateTree.Render.Basic

/-!
# Rendering templates

A template renders with a state of its own. The blocks of its chain are queued, and the root of the chain
renders its contents as a fragment. An error names the root, unless it names a template already.
-/

namespace TemplateTree

open RenderM

variable {η : Type}

/-- Names the template in the error of a step. -/
def inTemplate {α : Type} (name : String) (x : RenderM η α) : RenderM η α := do
  match ← attempt x with
  | .ok a => return a
  | .error e => ofResult (.error (e.inTemplate name))

def renderFragment (engine : Engine η) (render : Renderer η)
    (contents : List (Node η)) : RenderM η (Val η) := do
  let items ← renderAll render contents
  ofFault (engine.mode.fragment (← newIdentity) (Value.flatten items))

/-- Queues the blocks of a chain, the most derived template first. -/
def queueBlocks (ctx : Context η) (templates : List (Template η)) : Context η :=
  templates.foldl (fun ctx t => ctx.addLevel t.blocks) ctx

def renderChain (engine : Engine η) (render : Renderer η) (t : Template η) : RenderM η (Val η) := do
  let chain ← ofResult (engine.chain t)
  update (queueBlocks · chain.templates)
  inTemplate chain.root.name (renderFragment engine render chain.root.contents)

def renderTemplate (engine : Engine η) (render : Renderer η) (t : Template η) : RenderM η (Val η) :=
  bracket (update (·.enter)) (fun _ => leaveTemplate) (renderChain engine render t)

/-! ## Inclusions -/

def templateNames : List (Val η) → Except RenderFault (List String)
  | [] => .ok []
  | .string name :: vs => do return name :: (← templateNames vs)
  | v :: _ => .error (.notTemplateName v.kind)

def findTarget (engine : Engine η) (resolve : Resolver η) : Target → RenderM η (Template η)
  | .name name => ofResult (engine.template name)
  | .names names => ofResult (engine.anyTemplate names)
  | .var v => do
    match ← resolve v with
    | .string name => ofResult (engine.template name)
    | .list items => ofResult (engine.anyTemplate (← ofFault (templateNames items)))
    | v => fail (.render (.notTemplateName v.kind))

/-- The text that rendered text adds up to. -/
def joinText : Val η → Except RenderFault (Val η)
  | .list items => do return .string (← Value.textAll (Value.flatten items))
  | v => .ok v

/-- The value of a variable of an inclusion. Text with variables in it becomes one string. -/
def renderExtra (render : Renderer η) (n : Node η) : RenderM η (Val η) := do
  match n with
  | .text _ => ofFault (joinText (← render n))
  | n => render n

/-- The variables of an inclusion, rendered in the order of their names. -/
def renderExtras (render : Renderer η) (d : Dict (Val η)) : List (String × Node η) → RenderM η (Dict (Val η))
  | [] => pure d
  | (name, n) :: rest => do
    let v ← renderExtra render n
    renderExtras render (d.insert name v) rest

/-- Renders a template that sees nothing but the given variables. -/
def renderIsolated (engine : Engine η) (render : Renderer η) (t : Template η) (globals : Dict (Val η)) :
    RenderM η (Val η) :=
  fun ctx =>
    (renderTemplate engine render t (ctx.isolated globals)).map fun r => (r.1, { ctx with made := r.2.made })

/-- Renders a template in a frame of its own, one inclusion deeper. -/
def renderInside (engine : Engine η) (render : Renderer η) (t : Template η) (frame : Dict (Val η)) :
    RenderM η (Val η) :=
  inFrame frame (deeper (renderTemplate engine render t))

def renderInclusion (engine : Engine η) (resolve : Resolver η) (render : Renderer η) (target : Target)
    (extra : List (String × Node η)) (only : Bool) : RenderM η (Val η) := do
  let t ← findTarget engine resolve target
  let extra ← renderExtras render [] extra
  if engine.maxIncludeDepth ≤ (← get).depth then fail (.includeDepth engine.maxIncludeDepth)
  else if only then renderIsolated engine render t extra
  else renderInside engine render t extra

end TemplateTree
