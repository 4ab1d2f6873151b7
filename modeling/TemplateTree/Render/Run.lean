import TemplateTree.Render.Depth
import TemplateTree.Shape

/-!
# Renders

Renders of nodes and templates with the depth that they need. Without host code they always have an outcome.
-/

namespace TemplateTree

variable {η : Type} [HostCode η]

/-- A result or an error, and the context behind it. -/
abbrev Outcome (η α : Type) := Option (Except Error α × Context η)

namespace Engine

def renderNodes (engine : Engine η) (nodes : List (Node η)) (ctx : Context η) : Outcome η (List (Val η)) :=
  renderAll (renderNode engine (engine.depthFor ctx nodes)) nodes ctx

def renderOne (engine : Engine η) (n : Node η) (ctx : Context η) : Outcome η (Val η) :=
  renderNode engine (engine.depthFor ctx [n]) n ctx

def resolveVariable (engine : Engine η) (v : Variable) (ctx : Context η) : Outcome η (Val η) :=
  resolve (renderNode engine (engine.depthFor ctx [])) v ctx

def testExpr (engine : Engine η) (e : Expr) (ctx : Context η) : Outcome η Bool :=
  let render := renderNode engine (engine.depthFor ctx [])
  runTest (resolve render) render (.expr e) ctx

def renderWith (engine : Engine η) (t : Template η) (ctx : Context η) : Outcome η (Val η) :=
  renderTemplate engine (renderNode engine (engine.depthForTemplate t)) t ctx

def renderValue (engine : Engine η) (t : Template η) (v : Val η) : Option (Except Error (Val η)) :=
  match Context.ofValue? v with
  | .error e => some (.error e)
  | .ok ctx => (engine.renderWith t ctx).map (·.1)

def renderToText (engine : Engine η) (t : Template η) (v : Val η) : Option (Except Error String) :=
  (engine.renderValue t v).map fun r => r.bind fun v => v.text.mapError Error.ofRender

def renderShape (engine : Engine η) (t : Template η) (s : Shape (Callable η)) :
    Option (Except Error String) :=
  match s.toValue with
  | .error fault => some (.error (.ofRender fault))
  | .ok v => engine.renderToText t v

end Engine

end TemplateTree
