import TemplateTree.Decimal.Reading

/-!
# The shortest decimal of a float

A float stands for every real number that rounds to it. Its shortest decimal is the one with the fewest
digits among those numbers, and the nearest of these; of two equally near ones it is the larger. The
search goes by exact arithmetic: for one digit, two digits and so on the two neighbours of the float on
that decimal grid are tried.
-/

namespace TemplateTree

/-- A positive number `significand * 2 ^ exponent`, the magnitude of a finite float. -/
structure Binary where
  significand : Nat
  exponent : Int
deriving DecidableEq, Repr

namespace Binary

def signBit : Nat := 0x8000000000000000

def leadingBit : Nat := 0x10000000000000

def ofFloat (x : Float) : Binary :=
  let bits := x.toBits.toNat % signBit
  let biased := bits / leadingBit
  let fraction := bits % leadingBit
  if biased = 0 then ⟨fraction, -1074⟩ else ⟨leadingBit + fraction, (biased : Int) - 1075⟩

/-- The values that round to a float, in units of a quarter of its last place: from `low` to `high`
around `mid`, with the ends if the significand is even. -/
structure Interval where
  low : Nat
  mid : Nat
  high : Nat
  closed : Bool

/-- The lower neighbour of a power of two is half as far away as the upper one. -/
def interval (b : Binary) : Interval :=
  let below := if b.significand = leadingBit ∧ b.exponent > -1074 then 1 else 2
  ⟨4 * b.significand - below, 4 * b.significand, 4 * b.significand + 2, b.significand % 2 == 0⟩

def unit (b : Binary) : Nat × Nat :=
  if b.exponent ≥ 2 then (Nat.pow 2 (b.exponent - 2).toNat, 1) else (1, Nat.pow 2 (2 - b.exponent).toNat)

/-- The number of digits before the point of a fraction, negative if it starts with zeros after the
point: the `k` with `10 ^ (k - 1) ≤ num / den < 10 ^ k`. -/
def magnitude (num den : Nat) : Int :=
  if den ≤ num then (Nat.toDigits 10 (num / den)).length
  else 1 - ((Nat.toDigits 10 ((den - 1) / num)).length : Int)

/-- The neighbours of `num / den` on the grid of multiples of `10 ^ place`, tried against an interval. -/
def onGrid? (i : Interval) (num den : Nat) (place : Int) : Option Scientific :=
  let up := Nat.pow 10 place.toNat
  let down := Nat.pow 10 (-place).toNat
  let scaled (n : Nat) : Nat := n * num * down
  let step := den * up
  let inside (d : Nat) : Bool :=
    if i.closed then scaled i.low ≤ d * step && d * step ≤ scaled i.high
    else scaled i.low < d * step && d * step < scaled i.high
  let d := scaled i.mid / step
  let below := scaled i.mid - d * step
  let above := (d + 1) * step - scaled i.mid
  if inside d && inside (d + 1) then some ⟨if below < above then d else d + 1, place⟩
  else if inside d then some ⟨d, place⟩
  else if inside (d + 1) then some ⟨d + 1, place⟩
  else none

def dropZeros : Nat → Scientific → Scientific
  | 0, s => s
  | n + 1, s =>
    if s.significand % 10 = 0 then dropZeros n ⟨s.significand / 10, s.exponent + 1⟩ else s

/-- The shortest decimal of a positive float. Seventeen digits tell any two floats apart. -/
def shortest (b : Binary) : Scientific :=
  let (num, den) := b.unit
  let i := b.interval
  let top := magnitude (i.mid * num) den
  let found := (List.range 17).findSome? fun n : Nat => onGrid? i num den (top - (n + 1 : Nat))
  dropZeros 20 (found.getD ⟨b.significand, 0⟩)

end Binary

end TemplateTree
