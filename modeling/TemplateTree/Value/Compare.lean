import TemplateTree.Value.Basic
import TemplateTree.Text.Blank

/-!
# Comparison of values

The comparison operators of expressions. Loose equality and order convert: lists, maps and markup become
text, and text is read as a number where a number is compared with it. Strict equality converts between
integers and floats alone. NaN is neither equal to anything nor before or after it.
-/

namespace TemplateTree

/-- The order of two floats; there is none if one of them is NaN. -/
def compareFloats (a b : Float) : Option Ordering :=
  if a < b then some .lt
  else if b < a then some .gt
  else if a == b then some .eq
  else none

def nan : Float := 0 / 0

/-- The number that a text is, once blanks are trimmed: zero for the empty text, infinity by its name,
hexadecimal digits behind `0x`, or a decimal number. Any other text is NaN. -/
def numberOfText (s : String) : Float :=
  match trimBlank s.toList with
  | [] => 0
  | c :: cs =>
    let unsigned := if c = '-' ∨ c = '+' then cs else c :: cs
    if unsigned = "Infinity".toList then
      if c = '-' then -(1 / 0) else 1 / 0
    else match c :: cs with
      | '0' :: 'x' :: hex | '0' :: 'X' :: hex =>
        match Decimal.readHex? (if hex.head? = some '+' then hex.drop 1 else hex) with
        | some n => if n < UInt64.size then n.toUInt64.toFloat else nan
        | none => nan
      | text =>
        if unsigned.head?.any fun c => c.isDigit || c = '.' then (Decimal.readFloat? text).getD nan
        else nan

namespace Value

variable {φ : Type}

def isObject : Value φ → Bool
  | .list _ | .map _ | .function .. | .markup .. => true
  | _ => false

mutual

/-- The text that stands for a list, a map or markup in a comparison; no other value has one. -/
def objectText? : Value φ → Option String
  | .list items => some (",".intercalate (itemTexts items))
  | .map _ => some "[object Object]"
  | .markup _ m => some m.html
  | _ => Option.none

/-- The texts of the items of a list. Nothing and functions have the empty text. -/
def itemTexts : List (Value φ) → List String
  | [] => []
  | v :: vs => (v.objectText?.getD (v.text.toOption.getD "")) :: itemTexts vs

end

/-- Lists, maps and markup as text, other values as they are. -/
def primitive (v : Value φ) : Value φ :=
  match v.objectText? with
  | some s => .string s
  | Option.none => v

def number (v : Value φ) : Float :=
  match v.primitive with
  | .none => 0
  | .bool b => if b then 1 else 0
  | .integer i => i.toFloat
  | .float x => x
  | .string s => numberOfText s
  | _ => nan

/-- Equality of values that are not both objects, nor both of one scalar kind. -/
def sameNumber (a b : Value φ) : Bool :=
  a.number == b.number

def looseScalar (a b : Value φ) : Bool :=
  match a, b with
  | .integer a, .integer b => a == b
  | .string a, .string b => a == b
  | .bool a, .bool b => a == b
  | a, b => sameNumber a b

def loose (a b : Value φ) : Bool :=
  match a, b with
  | .none, .none => true
  | .none, _ | _, .none => false
  | a, b =>
    if a.isObject && b.isObject then same a b
    else match a, b with
      | .function .., _ | _, .function .. => false
      | a, b => looseScalar a.primitive b.primitive

def strict (a b : Value φ) : Bool :=
  match a, b with
  | .integer a, .integer b => a == b
  | .integer _, .float _ | .float _, .integer _ | .float _, .float _ => sameNumber a b
  | a, b => same a b

/-- The order of two values: strings by their characters, integers and all else by number. -/
def order (a b : Value φ) : Option Ordering :=
  match a.primitive, b.primitive with
  | .string a, .string b => some (compare a b)
  | .integer a, .integer b => some (compare a b)
  | a, b => compareFloats a.number b.number

end Value

/-- The outcome of a comparison operator. The logical operators compare nothing. -/
def BinaryOp.compares {φ : Type} (op : BinaryOp) (a b : Value φ) : Bool :=
  match op with
  | .eq => a.loose b
  | .ne => !a.loose b
  | .strictEq => a.strict b
  | .strictNe => !a.strict b
  | .lt => (a.order b).any (· == .lt)
  | .le => (a.order b).any (· != .gt)
  | .gt => (a.order b).any (· == .gt)
  | .ge => (a.order b).any (· != .lt)
  | .and | .or => false

end TemplateTree
