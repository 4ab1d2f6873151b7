import TemplateTree.Template

/-!
# Block definitions

While a chain of templates renders, each block name has a queue of definitions with the most derived one
first. Templates give their blocks from the most derived one up, so those of each further template go
behind the ones before.
-/

namespace TemplateTree

/-- The definitions that are queued for each name, the most derived one first. -/
abbrev Blocks (η : Type) := Dict (List (Block η))

namespace Blocks

variable {η : Type}

def queue (bs : Blocks η) (name : String) : List (Block η) :=
  (bs.get? name).getD []

/-- Queues the blocks of one more template behind those of the templates that derive from it. -/
def addLevel (bs : Blocks η) (level : Dict (Block η)) : Blocks η :=
  level.foldl (fun bs b => bs.insert b.1 (bs.queue b.1 ++ [b.2])) bs

def push (bs : Blocks η) (name : String) (b : Block η) : Blocks η :=
  bs.insert name (b :: bs.queue name)

def first? (bs : Blocks η) (name : String) : Option (Block η) :=
  (bs.queue name).head?

def pop (bs : Blocks η) (name : String) : Blocks η :=
  match bs.queue name with
  | [] => bs
  | _ :: rest => bs.insert name rest

def size (bs : Blocks η) : Nat :=
  bs.foldr (fun e n => e.2.length + n) 0

end Blocks

end TemplateTree
