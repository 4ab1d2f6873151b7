import TemplateTree.Decimal.Writing
import TemplateTree.Error.Basic
import TemplateTree.Integer
import TemplateTree.Markup

/-!
# Values

The data that a template resolves, binds and renders. Values are polymorphic in what their functions are.
Functions and markup are told apart by identity, not by what they hold.
-/

namespace TemplateTree

/-- The identity of a function or of markup: it came with the data, or a render made it. -/
inductive Identity where
  | given (n : Nat)
  | made (n : Nat)
deriving DecidableEq, Repr

/-- Maps are dictionaries: their entries are in the order of the keys. -/
inductive Value (φ : Type) where
  | none
  | bool (b : Bool)
  | integer (i : Int64)
  | float (x : Float)
  | string (s : String)
  | list (items : List (Value φ))
  | map (entries : List (String × Value φ))
  | function (id : Identity) (f : φ)
  | markup (id : Identity) (m : Markup)

namespace Value

variable {φ : Type}

instance : Inhabited (Value φ) := ⟨.none⟩

def kind : Value φ → ValueKind
  | .none => .none
  | .bool _ => .bool
  | .integer _ => .integer
  | .float _ => .float
  | .string _ => .string
  | .list _ => .list
  | .map _ => .map
  | .function .. => .function
  | .markup .. => .markup

/-- Nothing, false, zero, NaN and the empty string are false; empty lists and maps are true. -/
def truthy : Value φ → Bool
  | .none => false
  | .bool b => b
  | .integer i => i != 0
  | .float x => !(x == 0) && !x.isNaN
  | .string s => s != ""
  | .list _ | .map _ | .function .. | .markup .. => true

def ofNat (n : Nat) : Value φ :=
  .integer (countInteger n)

def ofChars (s : String) : List (Value φ) :=
  s.toList.map fun c => .string (String.singleton c)

/-- The position that a property name is in a list: decimal digits, perhaps behind a plus sign. -/
def position? (name : String) : Option Nat :=
  let n? := match name.toList with
    | '+' :: cs => Decimal.readNat? cs
    | cs => Decimal.readNat? cs
  n?.filter (· < UInt64.size)

/-- The property of a value: an entry of a map, an item of a list, or the length of a list or string. -/
def property? (v : Value φ) (name : String) : Option (Value φ) :=
  match v with
  | .map entries => Dict.get? entries name
  | .list items =>
    if name = "length" then some (ofNat items.length) else (position? name).bind (items[·]?)
  | .string s => if name = "length" then some (ofNat s.length) else Option.none
  | _ => Option.none

mutual

/-- Whether two values are equal: alike in every part, with NaN different from itself and functions and
markup the same ones. -/
def same : Value φ → Value φ → Bool
  | .none, .none => true
  | .bool a, .bool b => a == b
  | .integer a, .integer b => a == b
  | .float a, .float b => a == b
  | .string a, .string b => a == b
  | .list a, .list b => sameItems a b
  | .map a, .map b => sameEntries a b
  | .function i _, .function j _ => i == j
  | .markup i _, .markup j _ => i == j
  | _, _ => false

def sameItems : List (Value φ) → List (Value φ) → Bool
  | [], [] => true
  | a :: as, b :: bs => same a b && sameItems as bs
  | _, _ => false

def sameEntries : List (String × Value φ) → List (String × Value φ) → Bool
  | [], [] => true
  | (k, a) :: as, (l, b) :: bs => k == l && same a b && sameEntries as bs
  | _, _ => false

end

mutual

/-- The text of a value. Lists are written item by item with nothing between; maps and functions have no
text. -/
def text : Value φ → Except RenderFault String
  | .none => .ok ""
  | .bool b => .ok (if b then "true" else "false")
  | .integer i => .ok (toString i.toInt)
  | .float x => .ok (FloatFormat.rendered.write x)
  | .string s => .ok s
  | .list items => textAll items
  | .map _ => .error (.notText .map)
  | .function .. => .error (.notText .function)
  | .markup _ m => .ok m.html

def textAll : List (Value φ) → Except RenderFault String
  | [] => .ok ""
  | v :: vs => do return (← v.text) ++ (← textAll vs)

end

mutual

/-- The items of a list, of the lists in it and so on; any other value is one item. -/
def flat : Value φ → List (Value φ)
  | .list items => flatten items
  | v => [v]

def flatten : List (Value φ) → List (Value φ)
  | [] => []
  | v :: vs => v.flat ++ flatten vs

end

end Value

end TemplateTree
