import TemplateTree.Error.Basic
import TemplateTree.Text.Identifier

/-!
# Loop headers

The header of a loop names its variables and the path of its list, as in `key, value in data.pairs`. The
last ` in ` divides the two. Variables are separated by a comma and at most one space.
-/

namespace TemplateTree

structure LoopHeader where
  vars : List String
  list : Variable
deriving DecidableEq

/-- Splits a text at the last place where a separator stands. -/
def splitAtLast? (sep : List Char) : List Char → Option (List Char × List Char)
  | [] => none
  | c :: cs =>
    match splitAtLast? sep cs with
    | some (before, after) => some (c :: before, after)
    | none => if sep.isPrefixOf (c :: cs) then some ([], (c :: cs).drop sep.length) else none

def isPathChar [IdentifierChars] (c : Char) : Bool :=
  c = '.' || isIdentifierChar c

def isPath [IdentifierChars] (path : List Char) : Bool :=
  !path.isEmpty && path.all isPathChar

/-- A variable behind a comma may have one space before it. -/
def dropOneSpace : List Char → List Char
  | ' ' :: cs => cs
  | cs => cs

def isLoopVar (name : List Char) : Bool :=
  !name.isEmpty && !name.any isBlank

namespace LoopHeader

def splitVars (text : List Char) : List (List Char) :=
  match splitAtChar ',' text with
  | [] => []
  | first :: rest => first :: rest.map dropOneSpace

def ofParts? [IdentifierChars] (vars : List (List Char)) (path : List Char) : Option LoopHeader :=
  if isPath path && vars.all isLoopVar then some ⟨vars.map String.ofList, .called (String.ofList path)⟩
  else none

def parse? [IdentifierChars] (source : List Char) : Option LoopHeader :=
  (splitAtLast? " in ".toList source).bind fun p => ofParts? (splitVars p.1) p.2

def parse [IdentifierChars] (source : String) : Except Error LoopHeader :=
  match parse? source.toList with
  | some header => .ok header
  | none => .error (.ofCause (.loopHeader source))

end LoopHeader

end TemplateTree
