import TemplateTree.Render.Node

/-!
# How deep a render goes

Rendering goes down into a node, or jumps: from a block or a call of `super` to a queued definition, and from
an inclusion to another template. A jump of the first kind takes a definition off its queue, and the
number of inclusions under way is limited, so the depth of a render without host code is bounded. Host code
may go down further; it is allowed `hostDepth` more levels.
-/

namespace TemplateTree

variable {η : Type}

mutual

/-- The number of nodes on the longest way down. -/
def Node.height : Node η → Nat
  | .literal _ | .text _ | .var _ | .doctype _ | .host _ => 1
  | .element _ attributes contents => max (Node.heightOfEntries attributes) (Node.heightOfAll contents) + 1
  | .loop _ _ contents empty => max (Node.heightOfAll contents) (Node.heightOfAll empty) + 1
  | .cond _ contents otherwise => max (Node.heightOfAll contents) (Node.heightOfAll otherwise) + 1
  | .block b => b.height + 1
  | .inclusion _ extra _ => Node.heightOfEntries extra + 1
  | .cycle _ values _ _ => Node.heightOfAll values + 1
  | .empty contents | .otherwise contents => Node.heightOfAll contents + 1

def Block.height : Block η → Nat
  | .mk _ contents => Node.heightOfAll contents

def Node.heightOfAll : List (Node η) → Nat
  | [] => 0
  | n :: ns => max n.height (Node.heightOfAll ns)

def Node.heightOfEntries : List (String × Node η) → Nat
  | [] => 0
  | (_, n) :: rest => max n.height (Node.heightOfEntries rest)

end

def greatest (l : List Nat) : Nat :=
  l.foldr max 0

def Template.height (t : Template η) : Nat :=
  Node.heightOfAll t.contents

def Blocks.height (bs : Blocks η) : Nat :=
  greatest (bs.map fun e => greatest (e.2.map Block.height))

namespace Engine

def height (engine : Engine η) : Nat :=
  greatest (engine.templates.map fun e => e.2.height)

def blockCount (engine : Engine η) : Nat :=
  engine.templates.foldr (fun e n => e.2.blocks.length + n) 0

/-- The depth that suffices to go down `height` levels, where `queued` definitions are queued and nothing is
higher than `top`. -/
def depthBound (engine : Engine η) (queued top height : Nat) : Nat :=
  engine.maxIncludeDepth * (engine.blockCount + 1) * (top + 1) + queued * (top + 1) + height + 1

end Engine

/-- The levels that host code may go down further. -/
def hostDepth : Nat := 100000

def Engine.depthFor (engine : Engine η) (ctx : Context η) (nodes : List (Node η)) : Nat :=
  let blocks := ctx.render.blocks.getD []
  let height := Node.heightOfAll nodes
  engine.depthBound blocks.size (max engine.height (max blocks.height height)) height + hostDepth

/-- The depth that suffices for a template, whichever one is the root of its chain. -/
def Engine.depthForTemplate (engine : Engine η) (t : Template η) : Nat :=
  let top := max engine.height t.height
  engine.depthBound (engine.blockCount + t.blocks.length) top top + hostDepth

end TemplateTree
