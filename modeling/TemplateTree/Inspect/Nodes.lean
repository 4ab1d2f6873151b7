import TemplateTree.Inspect.Values
import TemplateTree.Node.Basic

/-!
# Listings of expressions and nodes
-/

namespace TemplateTree

def Variable.listing (v : Variable) : Listing :=
  .record "Variable" [("path", .quoted v.path), ("call_functions", .ofBool v.calls)] false

def Literal.listing : Literal → Listing
  | .string s => .apply "String" [.quoted s]
  | .integer i => .apply "Integer" [.word (toString i.toInt)]
  | .float x => .apply "Float" [.ofFloat x]

def UnaryOp.listing : UnaryOp → Listing
  | .not => .word "Not"
  | .truth => .word "NotNot"

def BinaryOp.listing : BinaryOp → Listing
  | .or => .word "Or"
  | .and => .word "And"
  | .eq => .word "Eq"
  | .ne => .word "Ne"
  | .strictEq => .word "StrictEq"
  | .strictNe => .word "StrictNe"
  | .lt => .word "Lt"
  | .le => .word "Le"
  | .gt => .word "Gt"
  | .ge => .word "Ge"

def Expr.listing : Expr → Listing
  | .literal l => .apply "Literal" [l.listing]
  | .var v => .apply "Var" [v.listing]
  | .unary op e => .apply "Unary" [op.listing, e.listing]
  | .binary op a b => .apply "Binary" [op.listing, a.listing, b.listing]

def Segment.listing : Segment → Listing
  | .text s => .apply "Text" [.quoted s]
  | .var v => .apply "Var" [v.listing]

def TemplateText.listing (t : TemplateText) : Listing :=
  .record "TextNode" [("inner", match t with
    | .literal s => .apply "Static" [.quoted s]
    | .mixed segments => .apply "Dynamic" [.sequence (segments.map Segment.listing)])] false

def Target.listing : Target → Listing
  | .name s => .apply "Name" [.quoted s]
  | .names l => .apply "Names" [.sequence (l.map .quoted)]
  | .var v => .apply "Var" [v.listing]

variable {η : Type}

def Test.listing : Test η → Listing
  | .expr e => .apply "Expr" [e.listing]
  | .host _ => .word "Fn(..)"

def Node.isLiteral : Node η → Bool
  | .literal _ => true
  | _ => false

mutual

def Node.listing : Node η → Listing
  | .literal v => .apply "Literal" [v.listing]
  | .text t => .apply "Text" [t.listing]
  | .var v => .apply "Var" [v.listing]
  | .element tag attributes contents => .apply "Element" [.record "ElementNode" [("tag", .quoted tag),
      ("attributes", .ofDict (Node.entryListings attributes)),
      ("dynamic", .ofBool (attributes.any fun a => !a.2.isLiteral)),
      ("contents", .sequence (Node.listings contents))] false]
  | .loop vars list contents empty => .apply "For" [.record "ForNode" [
      ("vars", .sequence (vars.map .quoted)), ("list", list.listing),
      ("contents", .sequence (Node.listings contents)), ("empty", .sequence (Node.listings empty))] false]
  | .cond test contents otherwise => .apply "If" [.record "IfNode" [("test", test.listing),
      ("contents", .sequence (Node.listings contents)),
      ("else_contents", .sequence (Node.listings otherwise))] false]
  | .block b => .apply "Block" [b.listing]
  | .inclusion target extra only => .apply "Include" [.record "IncludeNode" [("target", target.listing),
      ("extra", .ofDict (Node.entryListings extra)), ("only", .ofBool only)] false]
  | .cycle id values name silent => .apply "Cycle" [.record "CycleNode" [("id", .ofNat id),
      ("values", .sequence (Node.listings values)), ("name", .ofOption (name.map .quoted)),
      ("silent", .ofBool silent)] false]
  | .doctype version => .apply "Doctype" [.record "DoctypeNode" [("version", .ofNat version.toNat)] false]
  | .empty contents => .apply "Empty" [.sequence (Node.listings contents)]
  | .otherwise contents => .apply "Else" [.sequence (Node.listings contents)]
  | .host _ => .apply "Func" [.record "RenderFn" [] true]

def Block.listing : Block η → Listing
  | .mk name contents => .record "BlockNode" [("name", .quoted name),
      ("contents", .sequence (Node.listings contents))] false

def Node.listings : List (Node η) → List Listing
  | [] => []
  | n :: ns => n.listing :: Node.listings ns

def Node.entryListings : List (String × Node η) → List (String × Listing)
  | [] => []
  | (k, n) :: rest => (k, n.listing) :: Node.entryListings rest

end

end TemplateTree
