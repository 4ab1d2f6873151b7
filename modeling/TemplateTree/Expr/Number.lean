import TemplateTree.Expr.Basic
import TemplateTree.Decimal.Reading
import TemplateTree.Integer

/-!
# Number literals

An operand is a number if it is decimal digits with at most one point among them and a digit behind the
point, perhaps after a minus sign. A number without a point is an integer as long as it fits one.
-/

namespace TemplateTree

namespace Literal

/-- Whether a text is a number: `whole`, `whole.fraction` or `.fraction` in digits. -/
def isNumber (digits : List Char) : Bool :=
  let whole := digits.takeWhile (· ≠ '.')
  match digits.dropWhile (· ≠ '.') with
  | [] => !whole.isEmpty && whole.all Char.isDigit
  | _ :: fraction => !fraction.isEmpty && fraction.all Char.isDigit && whole.all Char.isDigit

def ofOperand? (text : List Char) : Option Literal :=
  let digits := match text with
    | '-' :: digits => digits
    | digits => digits
  if isNumber digits then
    match (if digits.contains '.' then none else Decimal.readInt? text).bind integer? with
    | some i => some (.integer i)
    | none => (Decimal.readFloat? text).map .float
  else none

/-- What a quoted text stands for: a backslash and a letter for a control character, a backslash and
anything else for that. -/
def unescape : List Char → List Char
  | '\\' :: c :: cs =>
    (match c with
      | 'n' => '\n'
      | 'r' => '\r'
      | 't' => '\t'
      | '0' => '\x00'
      | c => c) :: unescape cs
  | c :: cs => c :: unescape cs
  | [] => []

end Literal

end TemplateTree
