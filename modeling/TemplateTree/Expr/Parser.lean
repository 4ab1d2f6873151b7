import TemplateTree.Error.Basic
import TemplateTree.Expr.Number

/-!
# Reading expressions

Tokens are read from left to right with a stack of what still waits for its operand: prefix operators,
binary operators with their left operands, and open parentheses with all that waits outside of them. An
operator that comes next first completes the waiting operators that bind at least as tightly, so equal
ones group to the left.

No expression is nested deeper than `maxDepth`: neither an operand below prefix operators and open
parentheses, nor an operator above its operands, where a parenthesis counts as a level.
-/

namespace TemplateTree

def maxDepth : Nat := 128

structure Nested where
  expr : Expr
  depth : Nat

namespace Nested

def leaf (e : Expr) : Nested :=
  ⟨e, 1⟩

/-- The expression below prefix operators, the innermost one first. -/
def under (e : Nested) (ops : List UnaryOp) : Nested :=
  ops.foldl (fun e op => ⟨.unary op e.expr, e.depth + 1⟩) e

def inParens (e : Nested) : Nested :=
  { e with depth := e.depth + 1 }

end Nested

structure Waiting where
  lhs : Nested
  op : BinaryOp
  span : Span

/-- A parenthesis that is not closed yet, and what waits outside of it. -/
structure Opened where
  waiting : List Waiting
  prefixes : List UnaryOp
  span : Span

abbrev ExprResult (α : Type) := Except (ExprFault × Span) α

/-- Completes the waiting operators of at least the given precedence, the last one first. -/
def complete (precedence : Nat) : List Waiting → Nested → ExprResult (List Waiting × Nested)
  | [], e => .ok ([], e)
  | w :: ws, e =>
    if precedence ≤ w.op.precedence then
      let depth := 1 + max w.lhs.depth e.depth
      if maxDepth < depth then .error (.tooDeep, w.span)
      else complete precedence ws ⟨.binary w.op w.lhs.expr e.expr, depth⟩
    else .ok (w :: ws, e)

def levels (opened : List Opened) (prefixes : List UnaryOp) : Nat :=
  opened.foldr (fun o n => o.prefixes.length + 1 + n) prefixes.length

def ofOperand (text : List Char) : Expr :=
  match Literal.ofOperand? text with
  | some l => .literal l
  | none => .var (.called (String.ofList text))

/-- How the tokens of a source end: with its end at a byte offset or with a fault. -/
structure Ending where
  fault : Option (ExprFault × Span)
  length : Nat

mutual

/-- Reads on where an operand is due. -/
def readOperand (ending : Ending) (opened : List Opened) (waiting : List Waiting) (prefixes : List UnaryOp) :
    List Lexeme → ExprResult Expr
  | [] => .error (ending.fault.getD (.expectedOperand none, ⟨ending.length, ending.length⟩))
  | l :: ls =>
    if maxDepth < levels opened prefixes then .error (.tooDeep, l.span)
    else match l.token with
      | .unary op => readOperand ending opened waiting (op :: prefixes) ls
      | .openParen => readOperand ending (⟨waiting, prefixes, l.span⟩ :: opened) [] [] ls
      | .string body =>
        let e := Expr.literal (.string (String.ofList (Literal.unescape body)))
        readOperator ending opened waiting ((Nested.leaf e).under prefixes) ls
      | .operand text => readOperator ending opened waiting ((Nested.leaf (ofOperand text)).under prefixes) ls
      | token => .error (.expectedOperand (some token), l.span)

/-- Reads on behind an operand, where an operator, a closing parenthesis or the end is due. -/
def readOperator (ending : Ending) (opened : List Opened) (waiting : List Waiting) (e : Nested) :
    List Lexeme → ExprResult Expr
  | [] =>
    match ending.fault with
    | some fault => .error fault
    | none => do
      let (_, e) ← complete 0 waiting e
      match opened with
      | [] => return e.expr
      | o :: _ => throw (.unclosedParen, o.span)
  | l :: ls =>
    match l.token with
    | .binary op => do
      let (waiting, e) ← complete op.precedence waiting e
      readOperand ending opened (⟨e, op, l.span⟩ :: waiting) [] ls
    | token => do
      let (_, e) ← complete 0 waiting e
      match opened, token with
      | [], .closeParen => throw (.unexpectedClose, l.span)
      | [], token => throw (.expectedOperator token, l.span)
      | o :: opened, .closeParen => readOperator ending opened o.waiting (e.inParens.under o.prefixes) ls
      | _ :: _, token => throw (.expectedClose token, l.span)

end

def Expr.parse (source : String) : Except Error Expr :=
  let lexemes := Lexemes.read source.toList
  let ending : Ending := ⟨lexemes.fault, byteLength source.toList⟩
  match readOperand ending [] [] [] lexemes.list with
  | .ok e => .ok e
  | .error (fault, span) => .error (.ofExpr fault source span)

end TemplateTree
