import TemplateTree.Render.Basic

/-!
# Rendering loops

A loop goes over the items of a list, the entries of a map as pairs, or the characters of a string. All its
rounds share one frame. The variable `forloop` counts the rounds from both ends, marks the first and the
last one and holds the state of the loop around.
-/

namespace TemplateTree

open RenderM

variable {η : Type}

def loopItems : Val η → Except RenderFault (List (Val η))
  | .list items => .ok items
  | .map entries => .ok (entries.map fun e => .list [.string e.1, e.2])
  | .string s => .ok (Value.ofChars s)
  | v => .error (.notIterable v.kind)

/-- Binds an item to the variables of a loop: as a whole to a single one, else part by part. -/
def bindItem (vars : List String) (item : Val η) : RenderM η Unit :=
  match vars, item with
  | [var], item => bindVar var item
  | vars, .list parts => update (·.setAll vars parts)
  | vars, .string s => update (·.setAll vars (Value.ofChars s))
  | vars, item => fail (.render (.notUnpackable item.kind vars.length))

/-- The state of a loop in round `i`, counted from 0, of `n`. -/
def loopState (parent : Val η) (i n : Nat) : Val η :=
  .map [("counter", .ofNat (i + 1)), ("counter0", .ofNat i), ("first", .bool (i == 0)),
    ("last", .bool (i == n - 1)), ("parentloop", parent), ("revcounter", .ofNat (n - i)),
    ("revcounter0", .ofNat (n - i - 1))]

def renderRounds (render : Renderer η) (vars : List String) (contents : List (Node η)) (parent : Val η)
    (n : Nat) : Nat → List (Val η) → RenderM η (List (Val η))
  | _, [] => pure []
  | i, item :: items => do
    bindItem vars item
    bindVar "forloop" (loopState parent i n)
    let here ← renderAll render contents
    let rest ← renderRounds render vars contents parent n (i + 1) items
    return here ++ rest

def renderLoop (resolve : Resolver η) (render : Renderer η) (vars : List String) (list : Variable)
    (contents empty : List (Node η)) : RenderM η (Val η) := do
  match ← ofFault (loopItems (← resolve list)) with
  | [] => return .list (← renderAll render empty)
  | items =>
    let parent := ((← get).get? "forloop").getD (.map [])
    return .list (← inFrame [] (renderRounds render vars contents parent items.length 0 items))

end TemplateTree
