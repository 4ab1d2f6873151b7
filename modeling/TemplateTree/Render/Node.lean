import TemplateTree.Render.Loop
import TemplateTree.Render.Template
import TemplateTree.Render.Test
import TemplateTree.Render.Variable

/-!
# Rendering nodes

Each kind of node is rendered by means of what renders the nodes inside of it. Tying the knot takes a bound
on the depth; whatever is not done within it has no outcome, and a greater bound changes no outcome.
-/

namespace TemplateTree

open RenderM

variable {η : Type}

def renderSegment (resolve : Resolver η) : Segment → RenderM η (Val η)
  | .text s => return .string s
  | .var v => resolve v

def renderSegments (resolve : Resolver η) : List Segment → RenderM η (List (Val η))
  | [] => pure []
  | s :: rest => do
    let v ← renderSegment resolve s
    let vs ← renderSegments resolve rest
    return v :: vs

/-- Text with variables renders as the list of its segments. -/
def renderText (resolve : Resolver η) : TemplateText → RenderM η (Val η)
  | .literal s => return .string s
  | .mixed segments => do return .list (← renderSegments resolve segments)

/-- The value of an attribute. What other nodes than literals and variables render as a list becomes one
string. -/
def renderAttribute (resolve : Resolver η) (render : Renderer η) (n : Node η) : RenderM η (Val η) := do
  match n with
  | .literal v => return v
  | .var v => resolve v
  | n => ofFault (joinText (← render n))

def renderAttributes (resolve : Resolver η) (render : Renderer η) (d : Dict (Val η)) :
    List (String × Node η) → RenderM η (Dict (Val η))
  | [] => pure d
  | (name, n) :: rest => do
    let v ← renderAttribute resolve render n
    renderAttributes resolve render (d.insert name v) rest

def renderElement (engine : Engine η) (resolve : Resolver η) (render : Renderer η) (tag : String)
    (attributes : List (String × Node η)) (contents : List (Node η)) : RenderM η (Val η) := do
  let attributes ← renderAttributes resolve render [] attributes
  let children ← renderAll render contents
  ofFault (engine.mode.element (← newIdentity) tag attributes (Value.flatten children))

/-- Renders the value of a cycle that is next and moves on behind it. -/
def renderCycle (render : Renderer η) (id : Nat) (values : List (Node η))
    (name : Option String) (silent : Bool) : RenderM η (Val η) := do
  let i := (← get).position id % values.length
  match values[i]? with
  | none => return .list []
  | some n =>
    let v ← render n
    update (·.setPosition id ((i + 1) % values.length))
    match name with
    | some name => bindVar name v
    | none => pure ()
    return if silent then .list [] else v

/-- The declaration of a document type. Only HTML 4 and 5 have one. -/
def declaration (version : UInt8) : String :=
  if version = 4 then
    "<!DOCTYPE HTML PUBLIC \"-//W3C//DTD HTML 4.01//EN\" \"http://www.w3.org/TR/html4/strict.dtd\">"
  else if version = 5 then "<!DOCTYPE html>"
  else ""

variable [HostCode η]

def renderCond (resolve : Resolver η) (render : Renderer η) (test : Test η)
    (contents otherwise : List (Node η)) : RenderM η (Val η) := do
  if ← runTest resolve render test then return .list (← renderAll render contents)
  else return .list (← renderAll render otherwise)

def renderDoctype (engine : Engine η) (version : UInt8) : RenderM η (Val η) := do
  ofFault (engine.mode.raw (← newIdentity) (declaration version))

/-- Renders a node by means of what renders the nodes inside of it. -/
def renderStep (engine : Engine η) (render : Renderer η) : Node η → RenderM η (Val η)
  | .literal v => return v
  | .text t => renderText (resolve render) t
  | .var v => resolve render v
  | .element tag attributes contents => renderElement engine (resolve render) render tag attributes contents
  | .loop vars list contents empty => renderLoop (resolve render) render vars list contents empty
  | .cond test contents otherwise => renderCond (resolve render) render test contents otherwise
  | .block b => renderBlock render b
  | .inclusion target extra only => renderInclusion engine (resolve render) render target extra only
  | .cycle id values name silent => renderCycle render id values name silent
  | .doctype version => renderDoctype engine version
  | .empty _ | .otherwise _ => return .list []
  | .host p => HostCode.run render p .none

def renderNode (engine : Engine η) : Nat → Renderer η
  | 0, _ => exhausted
  | depth + 1, n => renderStep engine (renderNode engine depth) n

end TemplateTree
