import TemplateTree.Render.Basic
import TemplateTree.Value.Compare

/-!
# Evaluating expressions

The logical operators return one of their operands and leave the second one alone if the first decides. A
variable that cannot be resolved is nothing.
-/

namespace TemplateTree

open RenderM

variable {η : Type}

def Literal.value : Literal → Val η
  | .string s => .string s
  | .integer i => .integer i
  | .float x => .float x

def UnaryOp.apply (op : UnaryOp) (b : Bool) : Bool :=
  match op with
  | .not => !b
  | .truth => b

/-- The value of a variable, or nothing if it cannot be resolved. -/
def resolveOrNone (resolve : Resolver η) (v : Variable) : RenderM η (Val η) := do
  match ← attempt (resolve v) with
  | .ok value => return value
  | .error e => if e.kind = .variableNotFound then return .none else ofResult (.error e)

def evaluate (resolve : Resolver η) : Expr → RenderM η (Val η)
  | .literal l => return l.value
  | .var v => resolveOrNone resolve v
  | .unary op e => do return .bool (op.apply (← evaluate resolve e).truthy)
  | .binary .and a b => do
    let v ← evaluate resolve a
    if v.truthy then evaluate resolve b else return v
  | .binary .or a b => do
    let v ← evaluate resolve a
    if v.truthy then return v else evaluate resolve b
  | .binary op a b => do
    let v ← evaluate resolve a
    let w ← evaluate resolve b
    return .bool (op.compares v w)

def runTest [HostCode η] (resolve : Resolver η) (render : Renderer η) : Test η → RenderM η Bool
  | .expr e => do return (← evaluate resolve e).truthy
  | .host p => do return (← HostCode.run render p .none).truthy

end TemplateTree
