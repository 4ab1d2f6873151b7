import TemplateTree.Value.Basic

/-!
# Values of data

Plain data as values. Numbers that are too great for an integer become the greatest one, a character
becomes a string, something missing becomes nothing.
-/

namespace TemplateTree

class ToValue (α φ : Type) where
  toValue : α → Value φ

export ToValue (toValue)

variable {α φ : Type}

instance : ToValue (Value φ) φ := ⟨id⟩

instance : ToValue Unit φ := ⟨fun _ => .none⟩

instance : ToValue Bool φ := ⟨.bool⟩

instance : ToValue Int8 φ := ⟨fun i => .integer i.toInt64⟩

instance : ToValue Int16 φ := ⟨fun i => .integer i.toInt64⟩

instance : ToValue Int32 φ := ⟨fun i => .integer i.toInt64⟩

instance : ToValue Int64 φ := ⟨.integer⟩

instance : ToValue Nat φ := ⟨.ofNat⟩

instance : ToValue UInt8 φ := ⟨fun n => .ofNat n.toNat⟩

instance : ToValue UInt16 φ := ⟨fun n => .ofNat n.toNat⟩

instance : ToValue UInt32 φ := ⟨fun n => .ofNat n.toNat⟩

instance : ToValue UInt64 φ := ⟨fun n => .ofNat n.toNat⟩

instance : ToValue Float φ := ⟨.float⟩

instance : ToValue Float32 φ := ⟨fun x => .float x.toFloat⟩

instance : ToValue Char φ := ⟨fun c => .string (String.singleton c)⟩

instance : ToValue String φ := ⟨.string⟩

instance [ToValue α φ] : ToValue (Option α) φ :=
  ⟨fun o => match o with
    | some a => toValue a
    | none => .none⟩

instance [ToValue α φ] : ToValue (List α) φ := ⟨fun l => .list (l.map toValue)⟩

instance [ToValue α φ] : ToValue (Array α) φ := ⟨fun l => .list (l.toList.map toValue)⟩

/-- Pairs of a key and a value make a map. -/
def Value.ofPairs [ToValue α φ] (pairs : List (String × α)) : Value φ :=
  .map (Dict.ofList (pairs.map fun p => (p.1, toValue p.2)))

end TemplateTree
