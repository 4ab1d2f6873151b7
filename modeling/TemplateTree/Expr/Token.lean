import TemplateTree.Expr.Basic
import TemplateTree.Text.Blank
import TemplateTree.Text.Offset

/-!
# Tokens of expressions

A source is cut into operators, quoted strings and operands, with blanks between them. The longest operator
wins, an operand runs as far as it can, and a string ends at the first matching quote that no backslash
stands before. What starts no token is a fault, and the tokens before it are still there: a source is
read up to its fault.
-/

namespace TemplateTree

inductive Token where
  | openParen
  | closeParen
  | unary (op : UnaryOp)
  | binary (op : BinaryOp)
  /-- A quoted string, as it stands between its quotes. -/
  | string (body : List Char)
  | operand (text : List Char)
deriving DecidableEq

namespace Token

/-- The operators with their spellings, the longer ones first. -/
def operators : List (List Char × Token) :=
  [(['=', '=', '='], .binary .strictEq), (['!', '=', '='], .binary .strictNe),
   (['&', '&'], .binary .and), (['|', '|'], .binary .or), (['=', '='], .binary .eq),
   (['!', '='], .binary .ne), (['!', '!'], .unary .truth), (['<', '='], .binary .le),
   (['>', '='], .binary .ge), (['('], .openParen), ([')'], .closeParen), (['!'], .unary .not),
   (['<'], .binary .lt), (['>'], .binary .gt)]

/-- What messages call a token: an operator by its spelling, a string and an operand by their kind. -/
def describe : Token → String
  | .string _ => "string"
  | .operand _ => "operand"
  | token =>
    match operators.find? (·.2 = token) with
    | some (spelling, _) => String.ofList ('\x60' :: spelling ++ ['\x60'])
    | none => ""

end Token

inductive ExprFault where
  | unexpectedCharacter
  | undelimitedString
  | expectedOperand (found : Option Token)
  | expectedOperator (found : Token)
  | unexpectedClose
  | expectedClose (found : Token)
  | unclosedParen
  | tooDeep
deriving DecidableEq

def operatorChars : List Char :=
  ['(', ')', '&', '|', '=', '!', '<', '>', '"', '\'']

/-- Operands hold no blanks, no quotes and no characters of operators. -/
def isOperandChar (c : Char) : Bool :=
  !isBlank c && !operatorChars.contains c

/-- The text up to the closing quote. A backslash takes the next character's meaning away. -/
def quotedBody? (quote : Char) (escaped : Bool) : List Char → Option (List Char)
  | [] => none
  | c :: cs =>
    if c = '\\' ∧ escaped = false then (quotedBody? quote true cs).map (c :: ·)
    else if c = quote ∧ escaped = false then some []
    else (quotedBody? quote false cs).map (c :: ·)

/-- The token at the start of a text and the number of its characters after the first. -/
def readToken (c : Char) (cs : List Char) : Except ExprFault (Token × Nat) :=
  match Token.operators.find? (·.1.isPrefixOf (c :: cs)) with
  | some (spelling, token) => .ok (token, spelling.length - 1)
  | none =>
    if c = '"' ∨ c = '\'' then
      match quotedBody? c false cs with
      | some body => .ok (.string body, body.length + 1)
      | none => .error .undelimitedString
    else if isOperandChar c then
      let rest := cs.takeWhile isOperandChar
      .ok (.operand (c :: rest), rest.length)
    else .error .unexpectedCharacter

structure Lexeme where
  token : Token
  span : Span
deriving DecidableEq

/-- The tokens of a source, and the fault that ends them if one does. -/
structure Lexemes where
  list : List Lexeme
  fault : Option (ExprFault × Span)
deriving DecidableEq

namespace Lexemes

/-- The place of a fault: a string without an end runs to the end of the source. -/
def faultSpan (fault : ExprFault) (start : Nat) (c : Char) (cs : List Char) : Span :=
  match fault with
  | .undelimitedString => ⟨start, start + byteLength (c :: cs)⟩
  | _ => ⟨start, start + c.utf8Size⟩

def readFrom (start : Nat) : List Char → Lexemes
  | [] => ⟨[], none⟩
  | c :: cs =>
    if isBlank c then readFrom (start + c.utf8Size) cs
    else match readToken c cs with
      | .error fault => ⟨[], some (fault, faultSpan fault start c cs)⟩
      | .ok (token, n) =>
        let stop := start + byteLength (c :: cs.take n)
        let rest := readFrom stop (cs.drop n)
        ⟨⟨token, ⟨start, stop⟩⟩ :: rest.list, rest.fault⟩
termination_by cs => cs.length

def read (source : List Char) : Lexemes :=
  readFrom 0 source

end Lexemes

end TemplateTree
