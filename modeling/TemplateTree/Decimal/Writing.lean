import TemplateTree.Decimal.Shortest

/-!
# Writing floats

A float is written with the digits of its shortest decimal. A format fixes the rest: the name of
infinity, which numbers are written with a power of ten, and whether a whole number keeps a point.
-/

namespace TemplateTree

structure FloatFormat where
  infinity : String
  /-- Whole numbers end in a point and a zero. -/
  keepsPoint : Bool
  /-- The least and the greatest power of ten of the first digit that is written by position. Without
  bounds every number is. -/
  positional : Option (Int × Int)

namespace FloatFormat

def plain : FloatFormat :=
  ⟨"inf", false, none⟩

def rendered : FloatFormat :=
  { plain with infinity := "Infinity" }

/-- The format of numbers in listings: whole numbers keep a point, and numbers below one in ten thousand
or from ten to the sixteenth on have a power of ten. -/
def listed : FloatFormat :=
  ⟨"inf", true, some (-4, 15)⟩

def byPosition (keepsPoint : Bool) (s : Scientific) : List Char :=
  let digits := Nat.toDigits 10 s.significand
  if 0 ≤ s.exponent then
    digits ++ List.replicate s.exponent.toNat '0' ++ (if keepsPoint then ['.', '0'] else [])
  else
    let places := (-s.exponent).toNat
    let padded := List.replicate (places + 1 - digits.length) '0' ++ digits
    padded.take (padded.length - places) ++ '.' :: padded.drop (padded.length - places)

/-- A decimal number with a power of ten, one digit before the point. -/
def byPower (s : Scientific) : List Char :=
  let digits := Nat.toDigits 10 s.significand
  let power := s.exponent + (digits.length - 1 : Nat)
  let mantissa := match digits with
    | [] => []
    | [d] => [d]
    | d :: ds => d :: '.' :: ds
  mantissa ++ 'e' :: (toString power).toList

def isPositional (f : FloatFormat) (s : Scientific) : Bool :=
  match f.positional with
  | none => true
  | some (least, greatest) =>
    let power := s.exponent + ((Nat.toDigits 10 s.significand).length - 1 : Nat)
    least ≤ power && power ≤ greatest

def magnitude (f : FloatFormat) (x : Float) : List Char :=
  if x.isInf then f.infinity.toList
  else
    let b := Binary.ofFloat x
    if b.significand = 0 then byPosition f.keepsPoint ⟨0, 0⟩
    else
      let s := b.shortest
      if f.isPositional s then byPosition f.keepsPoint s else byPower s

def write (f : FloatFormat) (x : Float) : String :=
  if x.isNaN then "NaN"
  else String.ofList ((if Binary.signBit ≤ x.toBits.toNat then ['-'] else []) ++ f.magnitude x)

end FloatFormat

end TemplateTree
