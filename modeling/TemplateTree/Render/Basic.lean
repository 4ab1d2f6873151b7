import TemplateTree.Context
import TemplateTree.Engine

/-!
# Rendering steps

A step of a render works on a context. It ends with a result or with an error, and in both cases the context
is what the step made of it; or it does not end within the depth it may use. Rendering a node is left open
here: what renders nodes inside of others is a parameter.
-/

namespace TemplateTree

/-- A step: no outcome if it was not allowed to go deep enough, else a result or an error and the context. -/
abbrev RenderM (η : Type) := ExceptT Error (StateT (Context η) Option)

abbrev Renderer (η : Type) := Node η → RenderM η (Val η)

abbrev Resolver (η : Type) := Variable → RenderM η (Val η)

/-- How procedures of the host run: with what renders nodes, and with the value that the function was read
from, or nothing. -/
class HostCode (η : Type) where
  run : Renderer η → η → Val η → RenderM η (Val η)

instance : HostCode Empty where
  run _ p := nomatch p

namespace RenderM

variable {η α β : Type}

def exhausted : RenderM η α :=
  fun _ => none

def attempt (x : RenderM η α) : RenderM η (Except Error α) :=
  fun ctx => (x ctx).map fun r => (.ok r.1, r.2)

def ofResult (r : Except Error α) : RenderM η α :=
  fun ctx => some (r, ctx)

def fail (cause : Cause) : RenderM η α :=
  ofResult (.error (.ofCause cause))

def ofFault (r : Except RenderFault α) : RenderM η α :=
  match r with
  | .ok a => pure a
  | .error fault => fail (.render fault)

def update (f : Context η → Context η) : RenderM η Unit :=
  fun ctx => some (.ok (), f ctx)

def pushFrame (frame : Dict (Val η)) : RenderM η Unit :=
  update (·.push frame)

def popFrame : RenderM η (Dict (Val η)) :=
  fun ctx =>
    match ctx.pop? with
    | some (frame, ctx) => some (.ok frame, ctx)
    | none => some (.error (.ofCause .noFrame), ctx)

def bindVar (name : String) (value : Val η) : RenderM η Unit :=
  update (·.set name value)

def leaveTemplate : RenderM η Unit :=
  fun ctx =>
    match ctx.leave? with
    | some ctx => some (.ok (), ctx)
    | none => some (.error (.ofCause .noFrame), ctx)

/-- An identity that nothing has yet. -/
def newIdentity : RenderM η Identity :=
  fun ctx => some (.ok (.made ctx.made), { ctx with made := ctx.made + 1 })

/-- Runs a step between two others. The last one runs whether the step fails or not. -/
def bracket (before : RenderM η β) (after : β → RenderM η Unit) (x : RenderM η α) : RenderM η α := do
  let b ← before
  let result ← attempt x
  after b
  ofResult result

def inFrame (frame : Dict (Val η)) (x : RenderM η α) : RenderM η α :=
  bracket (pushFrame frame) (fun _ => discard popFrame) x

def deeper (x : RenderM η α) : RenderM η α :=
  bracket (modifyGet fun ctx => (ctx.depth, { ctx with depth := ctx.depth + 1 }))
    (fun depth => update fun ctx => { ctx with depth := depth }) x

end RenderM

open RenderM

variable {η : Type}

/-- Renders nodes one after another, one item a node. -/
def renderAll (render : Renderer η) : List (Node η) → RenderM η (List (Val η))
  | [] => pure []
  | n :: ns => do
    let v ← render n
    let vs ← renderAll render ns
    return v :: vs

end TemplateTree
