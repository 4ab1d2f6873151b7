import TemplateTree.Render.Block

/-!
# Resolving variables

The first segment of a path is looked up in the frames, each further one is a property of the value before
it. A called variable puts what a function returns in the function's place, and the function receives
the value it was read from.
-/

namespace TemplateTree

open RenderM

variable {η : Type} [HostCode η]

def call (render : Renderer η) (f : Callable η) (receiver : Val η) : RenderM η (Val η) :=
  match f with
  | .super b => renderSuper render b
  | .host p => HostCode.run render p receiver

/-- What stands for a value met on a path: the outcome of a function that is called, else the value. -/
def reach (render : Renderer η) (calls : Bool) (receiver v : Val η) : RenderM η (Val η) :=
  match v, calls with
  | .function _ f, true => call render f receiver
  | v, _ => pure v

def follow (render : Renderer η) (calls : Bool) (current : Val η) (name : String) : RenderM η (Val η) :=
  match current.property? name with
  | none => fail (.missingProperty name current.kind)
  | some v => reach render calls current v

def followAll (render : Renderer η) (calls : Bool) : Val η → List String → RenderM η (Val η)
  | current, [] => pure current
  | current, name :: names => do followAll render calls (← follow render calls current name) names

def resolve (render : Renderer η) (v : Variable) : RenderM η (Val η) := do
  let (first, rest) := v.segments
  match (← get).get? first with
  | none => fail (.unboundName first)
  | some value => followAll render v.calls (← reach render v.calls .none value) rest

end TemplateTree
