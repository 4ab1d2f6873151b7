import TemplateTree.Interpolation
import TemplateTree.LoopHeader
import TemplateTree.Expr.Parser
import TemplateTree.Value.Basic

/-!
# Nodes

The contents of templates are trees of nodes. They are polymorphic in the host code that may stand in them:
without host code the type of host procedures is empty. A function is either a host procedure or the
function that renders the definition which a block overrides.
-/

namespace TemplateTree

/-- The template that an inclusion renders: one by its name, the first of several that exists, or what a
variable names. -/
inductive Target where
  | name (name : String)
  | names (names : List String)
  | var (v : Variable)
deriving DecidableEq

inductive Test (η : Type) where
  | expr (e : Expr)
  | host (p : η)

mutual

inductive Callable (η : Type) where
  /-- Renders the definition that this one overrides. -/
  | super (definition : Block η)
  | host (p : η)

inductive Block (η : Type) where
  | mk (name : String) (contents : List (Node η))

inductive Node (η : Type) where
  | literal (v : Value (Callable η))
  | text (t : TemplateText)
  | var (v : Variable)
  | element (tag : String) (attributes : List (String × Node η)) (contents : List (Node η))
  /-- Renders its contents for each item of a list, and `empty` if there is none. -/
  | loop (vars : List String) (list : Variable) (contents empty : List (Node η))
  | cond (test : Test η) (contents otherwise : List (Node η))
  | block (b : Block η)
  /-- Renders a template with more variables, or with none but these. -/
  | inclusion (target : Target) (extra : List (String × Node η)) (only : Bool)
  /-- Renders the next of its values each time. -/
  | cycle (id : Nat) (values : List (Node η)) (name : Option String) (silent : Bool)
  | doctype (version : UInt8)
  /-- At the end of a loop, the contents for an empty list. -/
  | empty (contents : List (Node η))
  /-- At the end of a conditional, the contents for a failed test. -/
  | otherwise (contents : List (Node η))
  | host (p : η)

end

abbrev Val (η : Type) := Value (Callable η)

variable {η : Type}

namespace Block

def name : Block η → String
  | .mk name _ => name

def contents : Block η → List (Node η)
  | .mk _ contents => contents

end Block

namespace Node

def splitEmpty (contents : List (Node η)) : List (Node η) × List (Node η) :=
  match contents.getLast? with
  | some (.empty inner) => (contents.dropLast, inner)
  | _ => (contents, [])

def splitOtherwise (contents : List (Node η)) : List (Node η) × List (Node η) :=
  match contents.getLast? with
  | some (.otherwise inner) => (contents.dropLast, inner)
  | _ => (contents, [])

/-- Text as a node: a literal unless it holds a variable. -/
def ofString (s : String) : Node η :=
  if hasInterpolation s then .text (.ofString s) else .literal (.string s)

def loopOver (vars : List String) (list : Variable) (contents : List (Node η)) : Node η :=
  .loop vars list (splitEmpty contents).1 (splitEmpty contents).2

def loop? [IdentifierChars] (source : String) (contents : List (Node η)) : Except Error (Node η) := do
  let header ← LoopHeader.parse source
  return loopOver header.vars header.list contents

def condOn (test : Test η) (contents : List (Node η)) : Node η :=
  .cond test (splitOtherwise contents).1 (splitOtherwise contents).2

def cond? (source : String) (contents : List (Node η)) : Except Error (Node η) := do
  let e ← Expr.parse source
  return condOn (.expr e) contents

/-- An element; of two attributes of one name the later stays. -/
def elementOf (tag : String) (attributes : List (String × Node η)) (contents : List (Node η)) : Node η :=
  .element tag (Dict.ofList attributes) contents

/-- An inclusion; of two variables of one name the later stays. -/
def inclusionOf (target : Target) (extra : List (String × Node η)) (only : Bool) : Node η :=
  .inclusion target (Dict.ofList extra) only

end Node

mutual

/-- The blocks that a node declares in its contents, each before those inside it. Attributes, the values of
cycles and the variables of inclusions declare none. -/
def Node.blocks : Node η → List (Block η)
  | .element _ _ contents => Node.blocksOfAll contents
  | .loop _ _ contents empty => Node.blocksOfAll contents ++ Node.blocksOfAll empty
  | .cond _ contents otherwise => Node.blocksOfAll contents ++ Node.blocksOfAll otherwise
  | .block b => b :: b.inner
  | .empty contents | .otherwise contents => Node.blocksOfAll contents
  | .literal _ | .text _ | .var _ | .inclusion .. | .cycle .. | .doctype _ | .host _ => []

def Block.inner : Block η → List (Block η)
  | .mk _ contents => Node.blocksOfAll contents

def Node.blocksOfAll : List (Node η) → List (Block η)
  | [] => []
  | n :: ns => n.blocks ++ Node.blocksOfAll ns

end

end TemplateTree
