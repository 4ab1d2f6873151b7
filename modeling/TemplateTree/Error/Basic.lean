import TemplateTree.Expr.Token

/-!
# Errors

An error is a cause, the innermost template that was rendering, and for a fault in the source of an
expression the place of the fault. Each cause belongs to one kind of error and has one message.
-/

namespace TemplateTree

inductive ValueKind where
  | none
  | bool
  | integer
  | float
  | string
  | list
  | map
  | function
  | markup
deriving DecidableEq, Repr

def ValueKind.name : ValueKind → String
  | .none => "none"
  | .bool => "bool"
  | .integer => "integer"
  | .float => "float"
  | .string => "string"
  | .list => "list"
  | .map => "map"
  | .function => "function"
  | .markup => "markup"

inductive RenderFault where
  | notText (found : ValueKind)
  | notIterable (found : ValueKind)
  | notUnpackable (found : ValueKind) (count : Nat)
  | notTemplateName (found : ValueKind)
  | notContext (found : ValueKind)
  | notSerializable (found : ValueKind)
  | notKey (found : ValueKind)
  | integerOutOfRange
  | valueBeforeKey
  | reported (message : String)
deriving DecidableEq

inductive Cause where
  /-- No frame binds the first segment of a path. -/
  | unboundName (name : String)
  | missingProperty (name : String) (owner : ValueKind)
  | noFrame
  | expression (fault : ExprFault)
  | loopHeader (source : String)
  | duplicateBlock (name : String)
  | noTemplate (names : List String)
  | cyclicParents (name : String) (visited : List String)
  | includeDepth (limit : Nat)
  | render (fault : RenderFault)
deriving DecidableEq

inductive ErrorKind where
  | variableNotFound
  | contextPop
  | templateSyntax
  | templateNotFound
  | cyclicTemplate
  | render
deriving DecidableEq, Repr

structure Error where
  cause : Cause
  template : Option String
  /-- The source of an expression and the place of the fault in it. -/
  place : Option (String × Span)
deriving DecidableEq

def ErrorKind.name : ErrorKind → String
  | .variableNotFound => "VariableNotFound"
  | .contextPop => "ContextPop"
  | .templateSyntax => "TemplateSyntax"
  | .templateNotFound => "TemplateNotFound"
  | .cyclicTemplate => "CyclicTemplate"
  | .render => "Render"

def Cause.kind : Cause → ErrorKind
  | .unboundName _ | .missingProperty .. => .variableNotFound
  | .noFrame => .contextPop
  | .expression _ | .loopHeader _ | .duplicateBlock _ => .templateSyntax
  | .noTemplate _ => .templateNotFound
  | .cyclicParents .. | .includeDepth _ => .cyclicTemplate
  | .render _ => .render

def ExprFault.message : ExprFault → String
  | .unexpectedCharacter => "unexpected character"
  | .undelimitedString => "undelimited string"
  | .expectedOperand none => "expected expression, found end of input"
  | .expectedOperand (some token) => "expected expression, found " ++ token.describe
  | .expectedOperator token => "expected operator, found " ++ token.describe
  | .unexpectedClose => "unexpected `)`"
  | .expectedClose token => "expected `)`, found " ++ token.describe
  | .unclosedParen => "unclosed parenthesis"
  | .tooDeep => "expression nested too deeply"

def RenderFault.message : RenderFault → String
  | .notText found => "expected renderable value, but found " ++ found.name
  | .notIterable found => "expected iterable, but found " ++ found.name
  | .notUnpackable found count =>
    "cannot unpack " ++ found.name ++ " into " ++ toString count ++ " loop variables"
  | .notTemplateName found => "expected template name, but found " ++ found.name
  | .notContext found => "expected map for context, but found " ++ found.name
  | .notSerializable found => "cannot serialize " ++ found.name
  | .notKey found => "map key must be a string, found " ++ found.name
  | .integerOutOfRange => "out of range integral type conversion attempted"
  | .valueBeforeKey => "serialize_value called before serialize_key"
  | .reported message => message

def Cause.message : Cause → String
  | .unboundName name => "could not find `" ++ name ++ "` in the context"
  | .missingProperty name owner => "could not find `" ++ name ++ "` in " ++ owner.name
  | .noFrame => "pop() was called more times than push()"
  | .expression fault => fault.message
  | .loopHeader source => "invalid for expression: `" ++ source ++ "`"
  | .duplicateBlock name => "Block with name '" ++ name ++ "' appears more than once."
  | .noTemplate names => "template not found: " ++ ", ".intercalate names
  | .cyclicParents name visited =>
    "template `" ++ name ++ "` extends itself through `" ++ "` -> `".intercalate visited ++ "`"
  | .includeDepth limit => "reached the maximum include depth (" ++ toString limit ++ ")"
  | .render fault => fault.message

namespace Error

def ofCause (cause : Cause) : Error :=
  ⟨cause, none, none⟩

def ofRender (fault : RenderFault) : Error :=
  ofCause (.render fault)

/-- A fault at a place of a source. An empty source has no places. -/
def ofExpr (fault : ExprFault) (source : String) (span : Span) : Error :=
  ⟨.expression fault, none, if source = "" then none else some (source, span)⟩

def kind (e : Error) : ErrorKind :=
  e.cause.kind

def message (e : Error) : String :=
  e.cause.message

/-- Names the template that was rendering, unless one further in is named already. -/
def inTemplate (e : Error) (name : String) : Error :=
  { e with template := e.template.or (some name) }

def line (e : Error) : String :=
  let place := match e.place with
    | some (_, span) => " between bytes " ++ toString span.start ++ " and " ++ toString span.stop
    | none => ""
  let template := match e.template with
    | some name => " in template `" ++ name ++ "`"
    | none => ""
  e.message ++ place ++ template

end Error

end TemplateTree
