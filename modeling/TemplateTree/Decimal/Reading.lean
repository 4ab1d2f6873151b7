/-!
# Reading decimal numbers

A decimal number is digits with at most one point among them and, perhaps, a power of ten behind. It is
read as an exact significand and exponent, and rounded to a float only then, to the nearest and of two
equally near ones to the even one.
-/

namespace TemplateTree

/-- The number `significand * 10 ^ exponent`. -/
structure Scientific where
  significand : Nat
  exponent : Int
deriving DecidableEq, Repr

namespace Scientific

def toFloat (s : Scientific) : Float :=
  Float.ofScientific s.significand (s.exponent < 0) s.exponent.natAbs

def toFloat32 (s : Scientific) : Float32 :=
  Float32.ofScientific s.significand (s.exponent < 0) s.exponent.natAbs

end Scientific

namespace Decimal

def digitsValue (base : Nat) (digits : List Nat) : Nat :=
  digits.foldl (fun n d => base * n + d) 0

def digit (c : Char) : Nat :=
  c.toNat - '0'.toNat

def natValue (cs : List Char) : Nat :=
  digitsValue 10 (cs.map digit)

def readNat? (cs : List Char) : Option Nat :=
  if cs ≠ [] ∧ cs.all Char.isDigit then some (natValue cs) else none

def readInt? : List Char → Option Int
  | '-' :: cs => (readNat? cs).map fun n => -(n : Int)
  | '+' :: cs => (readNat? cs).map fun n => (n : Int)
  | cs => (readNat? cs).map fun n => (n : Int)

/-- The power of ten behind the digits: nothing, or an exponent mark and an integer. -/
def readPower? : List Char → Option Int
  | [] => some 0
  | c :: cs => if c = 'e' ∨ c = 'E' then readInt? cs else none

def readUnsigned? (cs : List Char) : Option Scientific :=
  let whole := cs.takeWhile Char.isDigit
  let rest := cs.dropWhile Char.isDigit
  let (fraction, rest) := match rest with
    | '.' :: rest => (rest.takeWhile Char.isDigit, rest.dropWhile Char.isDigit)
    | rest => ([], rest)
  if whole ++ fraction = [] then none
  else (readPower? rest).map fun p => ⟨natValue (whole ++ fraction), p - fraction.length⟩

structure FloatReading (α : Type) where
  decimal : Scientific → α
  infinity : α
  nan : α
  negate : α → α

/-- The names of the floats that are no decimal numbers, in any case of letters. -/
def readName? {α : Type} (r : FloatReading α) (cs : List Char) : Option α :=
  let name := String.ofList (cs.map Char.toLower)
  if name = "inf" ∨ name = "infinity" then some r.infinity
  else if name = "nan" then some r.nan
  else none

def readMagnitude? {α : Type} (r : FloatReading α) (cs : List Char) : Option α :=
  ((readUnsigned? cs).map r.decimal).or (readName? r cs)

/-- A decimal number or a name, perhaps with a sign before it. -/
def readAs? {α : Type} (r : FloatReading α) : List Char → Option α
  | '-' :: cs => (readMagnitude? r cs).map r.negate
  | '+' :: cs => readMagnitude? r cs
  | cs => readMagnitude? r cs

def readFloat? (cs : List Char) : Option Float :=
  readAs? ⟨Scientific.toFloat, 1 / 0, 0 / 0, fun x => -x⟩ cs

def readFloat32? (cs : List Char) : Option Float32 :=
  readAs? ⟨Scientific.toFloat32, 1 / 0, 0 / 0, fun x => -x⟩ cs

def readHex? (cs : List Char) : Option Nat :=
  let value? (c : Char) : Option Nat :=
    if c.isDigit then some (c.toNat - '0'.toNat)
    else if 'a' ≤ c ∧ c ≤ 'f' then some (c.toNat - 'a'.toNat + 10)
    else if 'A' ≤ c ∧ c ≤ 'F' then some (c.toNat - 'A'.toNat + 10)
    else none
  if cs = [] then none
  else (cs.mapM value?).map (digitsValue 16)

end Decimal

end TemplateTree
