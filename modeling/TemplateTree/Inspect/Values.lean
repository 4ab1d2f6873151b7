import TemplateTree.Inspect.Listing
import TemplateTree.Value.Basic

/-!
# Listings of values and markup
-/

namespace TemplateTree

mutual

def MarkupTree.listing : MarkupTree → Listing
  | .element tag attributes children => .apply "Element" [MarkupTree.elementListing tag attributes
      (MarkupTree.listings children)]
  | .text s => .apply "Text" [.quoted s]
  | .raw s => .apply "Raw" [.quoted s]

def MarkupTree.listings : List MarkupTree → List Listing
  | [] => []
  | t :: ts => t.listing :: MarkupTree.listings ts

def MarkupTree.elementListing (tag : String) (attributes : List (String × String)) (children : List Listing) :
    Listing :=
  .record "Element" [("tag", .quoted tag),
    ("attributes", .ofDict (attributes.map fun a => (a.1, .quoted a.2))),
    ("children", .sequence children)] false

end

/-- Markup by what is in it; the root of a tree is shown without the name of its kind if it is an element. -/
def Markup.listing (m : Markup) : Listing :=
  .apply "Markup" [match m with
    | .safe s => .apply "SafeString" [.quoted s]
    | .tree (.element tag attributes children) =>
      MarkupTree.elementListing tag attributes (MarkupTree.listings children)
    | .tree t => t.listing
    | .fragment ts => .record "Fragment" [("children", .sequence (MarkupTree.listings ts))] false]

namespace Value

variable {φ : Type}

mutual

def listing : Value φ → Listing
  | .none => .word "None"
  | .bool b => .apply "Bool" [.ofBool b]
  | .integer i => .apply "Integer" [.word (toString i.toInt)]
  | .float x => .apply "Float" [.ofFloat x]
  | .string s => .apply "String" [.quoted s]
  | .list items => .apply "List" [.sequence (listings items)]
  | .map entries => .apply "Map" [.ofDict (entryListings entries)]
  | .function .. => .apply "Function" [.record "Function" [] true]
  | .markup _ m => .apply "Markup" [m.listing]

def listings : List (Value φ) → List Listing
  | [] => []
  | v :: vs => v.listing :: listings vs

def entryListings : List (String × Value φ) → List (String × Listing)
  | [] => []
  | (k, v) :: rest => (k, v.listing) :: entryListings rest

end

end Value

end TemplateTree
