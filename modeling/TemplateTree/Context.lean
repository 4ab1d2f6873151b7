import TemplateTree.Blocks

/-!
# Contexts

The state of a render. Variables live in a stack of frames above the frame of the initial variables: a lookup
goes from the top frame down, and writes go to the top frame. Beside the variables stands the state of
the template that renders, its block definitions and the positions of its cycles; only that of the
innermost template is seen.
-/

namespace TemplateTree

/-- The positions of cycles by their ids. A cycle without a position is at its start. -/
abbrev Positions := List (Nat × Nat)

namespace Positions

def get (p : Positions) (id : Nat) : Nat :=
  (p.lookup id).getD 0

def set : Positions → Nat → Nat → Positions
  | [], id, i => [(id, i)]
  | (k, j) :: p, id, i => if k = id then (id, i) :: p else (k, j) :: set p id i

end Positions

structure RenderFrame (η : Type) where
  blocks : Option (Blocks η)
  cycles : Positions

def RenderFrame.fresh {η : Type} : RenderFrame η :=
  ⟨none, []⟩

structure Context (η : Type) where
  globals : Dict (Val η)
  /-- The frames above them, the top one first. -/
  stack : List (Dict (Val η))
  /-- What belongs to the innermost template. -/
  render : RenderFrame η
  /-- What belongs to the templates around it, the innermost of them first. -/
  saved : List (RenderFrame η)
  depth : Nat
  made : Nat

namespace Context

variable {η : Type}

def withGlobals (globals : Dict (Val η)) : Context η :=
  ⟨globals, [], .fresh, [], 0, 0⟩

def empty : Context η :=
  withGlobals []

/-- A context with the initial variables that a map holds, or with none for nothing. -/
def ofValue? : Val η → Except Error (Context η)
  | .map globals => .ok (withGlobals globals)
  | .none => .ok empty
  | v => .error (.ofRender (.notContext v.kind))

/-! ## Variables -/

def push (ctx : Context η) (frame : Dict (Val η)) : Context η :=
  { ctx with stack := frame :: ctx.stack }

/-- The top frame and the context without it. The frame of the initial variables stays. -/
def pop? (ctx : Context η) : Option (Dict (Val η) × Context η) :=
  match ctx.stack with
  | [] => none
  | frame :: stack => some (frame, { ctx with stack := stack })

def mapTop (ctx : Context η) (f : Dict (Val η) → Dict (Val η)) : Context η :=
  match ctx.stack with
  | [] => { ctx with globals := f ctx.globals }
  | frame :: stack => { ctx with stack := f frame :: stack }

def set (ctx : Context η) (name : String) (value : Val η) : Context η :=
  ctx.mapTop (·.insert name value)

/-- Binds names to values in the top frame, up to the end of the shorter list. -/
def setAll (ctx : Context η) (names : List String) (values : List (Val η)) : Context η :=
  ctx.mapTop (·.insertAll (names.zip values))

def frames (ctx : Context η) : List (Dict (Val η)) :=
  ctx.stack ++ [ctx.globals]

/-- The value of a variable in the topmost frame that binds it. -/
def get? (ctx : Context η) (name : String) : Option (Val η) :=
  ctx.frames.findSome? (·.get? name)

def has (ctx : Context η) (name : String) : Bool :=
  ctx.frames.any (·.has name)

/-! ## The state of templates -/

def enter (ctx : Context η) : Context η :=
  { ctx with render := .fresh, saved := ctx.render :: ctx.saved }

def leave? (ctx : Context η) : Option (Context η) :=
  match ctx.saved with
  | [] => none
  | frame :: saved => some { ctx with render := frame, saved := saved }

def setBlocks (ctx : Context η) (blocks : Blocks η) : Context η :=
  { ctx with render := { ctx.render with blocks := some blocks } }

def mapBlocks (ctx : Context η) (f : Blocks η → Blocks η) : Context η :=
  { ctx with render := { ctx.render with blocks := ctx.render.blocks.map f } }

def addLevel (ctx : Context η) (level : Dict (Block η)) : Context η :=
  ctx.setBlocks ((ctx.render.blocks.getD []).addLevel level)

def position (ctx : Context η) (id : Nat) : Nat :=
  ctx.render.cycles.get id

def setPosition (ctx : Context η) (id i : Nat) : Context η :=
  { ctx with render := { ctx.render with cycles := ctx.render.cycles.set id i } }

def isolated (ctx : Context η) (globals : Dict (Val η)) : Context η :=
  { withGlobals globals with depth := ctx.depth + 1, made := ctx.made }

end Context

end TemplateTree
