import TemplateTree.Variable

/-!
# Conditional expressions

The expressions that decide conditionals: literals, variables, two prefix operators and ten binary ones in
four levels of precedence.
-/

namespace TemplateTree

inductive Literal where
  | string (s : String)
  | integer (i : Int64)
  | float (x : Float)
deriving DecidableEq

inductive UnaryOp where
  /-- The negated truth, `!`. -/
  | not
  /-- The truth, `!!`. -/
  | truth
deriving DecidableEq, Repr

inductive BinaryOp where
  | or
  | and
  | eq
  | ne
  | strictEq
  | strictNe
  | lt
  | le
  | gt
  | ge
deriving DecidableEq, Repr

def BinaryOp.precedence : BinaryOp → Nat
  | .or => 1
  | .and => 2
  | .eq | .ne | .strictEq | .strictNe => 3
  | .lt | .le | .gt | .ge => 4

inductive Expr where
  | literal (l : Literal)
  | var (v : Variable)
  | unary (op : UnaryOp) (operand : Expr)
  | binary (op : BinaryOp) (lhs rhs : Expr)
deriving DecidableEq

def Expr.height : Expr → Nat
  | .literal _ | .var _ => 1
  | .unary _ e => e.height + 1
  | .binary _ a b => max a.height b.height + 1

end TemplateTree
