import TemplateTree.Decimal.Writing

/-!
# Listings

A listing shows how data is built: constructors with their arguments, records with their fields, sequences and
dictionaries, all on one line.
-/

namespace TemplateTree

inductive Listing where
  | word (s : String)
  | quoted (s : String)
  | apply (name : String) (arguments : List Listing)
  /-- A record; one that is `partly` shown has more fields. -/
  | record (name : String) (fields : List (String × Listing)) (partly : Bool)
  | sequence (items : List Listing)
  | dictionary (entries : List (Listing × Listing))

namespace Listing

def quoteChar (c : Char) : List Char :=
  if c = '"' then ['\\', '"']
  else if c = '\\' then ['\\', '\\']
  else if c = '\n' then ['\\', 'n']
  else if c = '\r' then ['\\', 'r']
  else if c = '\t' then ['\\', 't']
  else if c = '\x00' then ['\\', '0']
  else if c.toNat < 0x20 ∨ 0x7F ≤ c.toNat ∧ c.toNat ≤ 0x9F then
    ['\\', 'u', '{'] ++ Nat.toDigits 16 c.toNat ++ ['}']
  else [c]

def quote (s : String) : String :=
  "\"" ++ String.ofList (s.toList.flatMap quoteChar) ++ "\""

def inBraces (s : String) : String :=
  "\x7b" ++ s ++ "\x7d"

mutual

def text : Listing → String
  | .word s => s
  | .quoted s => quote s
  | .apply name arguments => name ++ "(" ++ ", ".intercalate (texts arguments) ++ ")"
  | .record name fields partly =>
    name ++ " " ++ inBraces
      (" " ++ ", ".intercalate (fieldTexts fields ++ if partly then [".."] else []) ++ " ")
  | .sequence items => "[" ++ ", ".intercalate (texts items) ++ "]"
  | .dictionary entries => inBraces (", ".intercalate (entryTexts entries))

def texts : List Listing → List String
  | [] => []
  | l :: ls => l.text :: texts ls

def fieldTexts : List (String × Listing) → List String
  | [] => []
  | (name, l) :: rest => (name ++ ": " ++ l.text) :: fieldTexts rest

def entryTexts : List (Listing × Listing) → List String
  | [] => []
  | (k, l) :: rest => (k.text ++ ": " ++ l.text) :: entryTexts rest

end

/-! ## Listings of plain data -/

def ofBool (b : Bool) : Listing :=
  .word (if b then "true" else "false")

def ofNat (n : Nat) : Listing :=
  .word (toString n)

def ofFloat (x : Float) : Listing :=
  .word (FloatFormat.listed.write x)

def ofOption : Option Listing → Listing
  | none => .word "None"
  | some l => .apply "Some" [l]

def ofDict (entries : List (String × Listing)) : Listing :=
  .dictionary (entries.map fun e => (.quoted e.1, e.2))

end Listing

end TemplateTree
