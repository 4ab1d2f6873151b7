import TemplateTree.Value.Convert

/-!
# Shapes of data

Data as a program describes it when it hands it over: scalars, sequences, maps with keys of any shape,
records, and contents tagged with the name of a variant. The value of a shape has strings for keys and a
map of one entry for a tag. Values are data too and have shapes, but functions and markup are refused.
-/

namespace TemplateTree

mutual

/-- A shape is handed over for a value whose functions are of type `φ`. -/
inductive Shape (φ : Type) where
  | unit
  | bool (b : Bool)
  | integer (i : Int64)
  /-- An unsigned word, which has to fit an integer. -/
  | word (n : UInt64)
  | float (x : Float)
  | char (c : Char)
  | text (s : String)
  | bytes (bs : List UInt8)
  /-- Contents that stand for themselves. -/
  | wrapped (s : Shape φ)
  | tagged (variant : String) (s : Shape φ)
  | list (items : List (Shape φ))
  | record (fields : List (String × Shape φ))
  /-- A map by its keys and values, in the order in which they are handed over. -/
  | parts (ps : List (MapPart φ))
  | refused (fault : RenderFault)

/-- A key waits for the value that comes next; one that comes before it takes its place. -/
inductive MapPart (φ : Type) where
  | key (s : Shape φ)
  | value (s : Shape φ)

end

variable {φ : Type}

/-- The key that a value makes: a string, an integer in digits or a truth value by its name. -/
def Value.key : Value φ → Except RenderFault String
  | .string s => .ok s
  | .integer i => .ok (toString i.toInt)
  | .bool b => .ok (if b then "true" else "false")
  | v => .error (.notKey v.kind)

namespace Shape

def map (entries : List (Shape φ × Shape φ)) : Shape φ :=
  .parts (entries.flatMap fun e => [.key e.1, .value e.2])

/-- A map that is given a value before any key. -/
def keyless (s : Shape φ) : Shape φ :=
  .parts [.value s]

mutual

/-- The shape of a value. -/
def value : Value φ → Shape φ
  | .none => .unit
  | .bool b => .bool b
  | .integer i => .integer i
  | .float x => .float x
  | .string s => .text s
  | .list items => .list (values items)
  | .map entries => .parts (valueParts entries)
  | .function .. => .refused (.notSerializable .function)
  | .markup .. => .refused (.notSerializable .markup)

def values : List (Value φ) → List (Shape φ)
  | [] => []
  | v :: vs => value v :: values vs

def valueParts : List (String × Value φ) → List (MapPart φ)
  | [] => []
  | (k, v) :: rest => .key (.text k) :: .value (value v) :: valueParts rest

end

mutual

def toValue : Shape φ → Except RenderFault (Value φ)
  | .unit => .ok .none
  | .bool b => .ok (.bool b)
  | .integer i => .ok (.integer i)
  | .word n =>
    match integer? n.toNat with
    | some i => .ok (.integer i)
    | none => .error .integerOutOfRange
  | .float x => .ok (.float x)
  | .char c => .ok (.string (String.singleton c))
  | .text s => .ok (.string s)
  | .bytes bs => .ok (.list (bs.map fun b => .ofNat b.toNat))
  | .wrapped s => s.toValue
  | .tagged variant s => do return .map [(variant, ← s.toValue)]
  | .list items => do return .list (← toValues items)
  | .record fields => do return .map (← fieldValues [] fields)
  | .parts ps => do return .map (← partValues [] none ps)
  | .refused fault => .error fault

def toValues : List (Shape φ) → Except RenderFault (List (Value φ))
  | [] => .ok []
  | s :: rest => do
    let v ← s.toValue
    return v :: (← toValues rest)

def fieldValues (d : Dict (Value φ)) : List (String × Shape φ) → Except RenderFault (Dict (Value φ))
  | [] => .ok d
  | (name, s) :: rest => do
    let v ← s.toValue
    fieldValues (d.insert name v) rest

/-- The entries of a map with the key that waits for its value. A value that no key waits for is not looked
at, and a key that waits at the end is dropped. -/
def partValues (d : Dict (Value φ)) (waiting : Option String) :
    List (MapPart φ) → Except RenderFault (Dict (Value φ))
  | [] => .ok d
  | .key s :: rest => do
    let key ← (← s.toValue).key
    partValues d (some key) rest
  | .value s :: rest =>
    match waiting with
    | none => .error .valueBeforeKey
    | some key => do
      let v ← s.toValue
      partValues (d.insert key v) none rest

end

end Shape

end TemplateTree
