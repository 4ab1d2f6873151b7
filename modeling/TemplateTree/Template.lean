import TemplateTree.Node.Basic

/-!
# Templates

A template has a name, contents and perhaps a parent. The blocks in it are known by their names, which are
distinct. Only the last template of a chain of parents renders its contents; those below it give
it their blocks.
-/

namespace TemplateTree

variable {η : Type}

/-- Adds definitions one after another. A name that is there already is a fault. -/
def declare (d : Dict (Block η)) : List (Block η) → Except Error (Dict (Block η))
  | [] => .ok d
  | b :: bs =>
    if d.has b.name then .error (.ofCause (.duplicateBlock b.name))
    else declare (d.insert b.name b) bs

structure Template (η : Type) where
  name : String
  parent : Option String
  contents : List (Node η)
  blocks : Dict (Block η)
  /-- The blocks are those that the contents declare. -/
  declared : declare [] (Node.blocksOfAll contents) = .ok blocks

def Template.make (name : String) (parent : Option String) (contents : List (Node η)) :
    Except Error (Template η) :=
  match h : declare [] (Node.blocksOfAll contents) with
  | .ok blocks => .ok ⟨name, parent, contents, blocks, h⟩
  | .error e => .error e

end TemplateTree
