import TemplateTree.Mode.Html
import TemplateTree.Template

/-!
# Engines

An engine holds the output mode, the registered templates and the greatest number of inclusions that may be
under way at once.
-/

namespace TemplateTree

structure Engine (η : Type) where
  mode : Mode (Callable η)
  templates : Dict (Template η)
  maxIncludeDepth : Nat

structure Chain (η : Type) where
  /-- The templates below the root, the most derived one first. -/
  derived : List (Template η)
  root : Template η

def Chain.templates {η : Type} (c : Chain η) : List (Template η) :=
  c.derived ++ [c.root]

namespace Engine

variable {η : Type}

def defaultIncludeDepth : Nat := 64

def withMode (mode : Mode (Callable η)) : Engine η :=
  ⟨mode, [], defaultIncludeDepth⟩

def html : Engine η :=
  withMode Html.mode

/-- Registers a template in place of the one of its name. -/
def add (engine : Engine η) (t : Template η) : Engine η :=
  { engine with templates := engine.templates.insert t.name t }

def template? (engine : Engine η) (name : String) : Option (Template η) :=
  engine.templates.get? name

def template (engine : Engine η) (name : String) : Except Error (Template η) :=
  match engine.template? name with
  | some t => .ok t
  | none => .error (.ofCause (.noTemplate [name]))

def anyTemplate (engine : Engine η) (names : List String) : Except Error (Template η) :=
  match names.findSome? engine.template? with
  | some t => .ok t
  | none => .error (.ofCause (.noTemplate names))

/-- Follows the parents of a template whose descendants are `visited`, for at most `rounds` templates. A
chain longer than the registry would hold a name twice. -/
def followParents (engine : Engine η) (start : String) :
    Nat → List String → Template η → Except Error (Chain η)
  | 0, visited, t => .error (Error.inTemplate (.ofCause (.cyclicParents t.name visited)) start)
  | rounds + 1, visited, t =>
    if visited.contains t.name then .error (Error.inTemplate (.ofCause (.cyclicParents t.name visited)) start)
    else match t.parent with
      | none => .ok ⟨[], t⟩
      | some name =>
        match engine.template name with
        | .error e => .error (e.inTemplate t.name)
        | .ok parent => do
          let c ← engine.followParents start rounds (visited ++ [t.name]) parent
          return ⟨t :: c.derived, c.root⟩

def chain (engine : Engine η) (t : Template η) : Except Error (Chain η) :=
  engine.followParents t.name (engine.templates.length + 2) [] t

end Engine

end TemplateTree
