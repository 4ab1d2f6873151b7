import TemplateTree.Text.Split

/-!
# Variables

A variable is a dotted path. Its first segment names a binding and every further one a property of what
the path has reached so far. A called variable calls the functions it meets on the way.
-/

namespace TemplateTree

structure Variable where
  path : String
  /-- Whether functions met on the path are called. -/
  calls : Bool
deriving DecidableEq, Repr

namespace Variable

def called (path : String) : Variable :=
  ⟨path, true⟩

def uncalled (path : String) : Variable :=
  ⟨path, false⟩

def segments (v : Variable) : String × List String :=
  match splitAtChar '.' v.path.toList with
  | [] => ("", [])
  | first :: rest => (String.ofList first, rest.map String.ofList)

end Variable

end TemplateTree
