import Mathlib.Data.Set.Basic
import TemplateTree.Render.Block
import TemplateTree.Render.Template

/-!
# Frames and queues

What a context shows of its variables and of the definitions in its queues, and how each operation on contexts
changes it. A context is restored if all of this is as it was, except for some names in the top frame.
-/

namespace TemplateTree

variable {η : Type}

theorem Blocks.queue_insert (bs : Blocks η) (name other : String) (q : List (Block η)) :
    Blocks.queue (Dict.insert bs name q) other = if name = other then q else bs.queue other := by
  unfold Blocks.queue
  rw [Dict.get?_insert]
  split <;> rfl

namespace Context

def top (c : Context η) : Dict (Val η) :=
  match c.stack with
  | [] => c.globals
  | frame :: _ => frame

/-- The definitions that are queued for a name, if a template renders. -/
def queue? (c : Context η) (name : String) : Option (List (Block η)) :=
  c.render.blocks.map (·.queue name)

/-- `d` has the variables and the surroundings of `c`, except for some names in the top frame. -/
structure SameScope (names : Set String) (c d : Context η) : Prop where
  height : d.stack.length = c.stack.length
  below : d.frames.tail = c.frames.tail
  top : ∀ name ∉ names, d.top.get? name = c.top.get? name
  depth : d.depth = c.depth
  saved : d.saved = c.saved

/-- `d` is like `c`, with the same definitions in the queue of each block, except for some names in the
top frame. -/
structure Restored (names : Set String) (c d : Context η) : Prop extends SameScope names c d where
  queue : ∀ name, d.queue? name = c.queue? name

variable {names : Set String} {c d e : Context η}

theorem SameScope.refl (c : Context η) : SameScope names c c :=
  ⟨rfl, rfl, fun _ _ => rfl, rfl, rfl⟩

theorem SameScope.trans (h₁ : SameScope names c d) (h₂ : SameScope names d e) : SameScope names c e :=
  ⟨h₂.height.trans h₁.height, h₂.below.trans h₁.below, fun x hx => (h₂.top x hx).trans (h₁.top x hx),
    h₂.depth.trans h₁.depth, h₂.saved.trans h₁.saved⟩

theorem Restored.refl (c : Context η) : Restored names c c :=
  ⟨.refl c, fun _ => rfl⟩

theorem Restored.trans (h₁ : Restored names c d) (h₂ : Restored names d e) : Restored names c e :=
  ⟨h₁.toSameScope.trans h₂.toSameScope, fun x => (h₂.queue x).trans (h₁.queue x)⟩

theorem SameScope.mono {names' : Set String} (h : SameScope names c d) (hsub : names ⊆ names') :
    SameScope names' c d :=
  ⟨h.height, h.below, fun x hx => h.top x fun hx' => hx (hsub hx'), h.depth, h.saved⟩

theorem Restored.mono {names' : Set String} (h : Restored names c d) (hsub : names ⊆ names') :
    Restored names' c d :=
  ⟨h.toSameScope.mono hsub, h.queue⟩

theorem restored_set {name : String} (hname : name ∈ names) (v : Val η) :
    Restored names c (c.set name v) := by
  have hne : ∀ x ∉ names, name ≠ x := fun x hx h => hx (h ▸ hname)
  obtain ⟨globals, stack, render, saved, depth, made⟩ := c
  cases stack with
  | nil => exact ⟨⟨rfl, rfl, fun x hx => Dict.get?_insert_of_ne (hne x hx) globals v, rfl, rfl⟩, fun _ => rfl⟩
  | cons frame stack =>
    exact ⟨⟨rfl, rfl, fun x hx => Dict.get?_insert_of_ne (hne x hx) frame v, rfl, rfl⟩, fun _ => rfl⟩

theorem get?_set (c : Context η) (name x : String) (v : Val η) :
    (c.set name v).get? x = if name = x then some v else c.get? x := by
  obtain ⟨globals, stack, render, saved, depth, made⟩ := c
  cases stack <;> by_cases h : name = x <;>
    simp [get?, frames, set, mapTop, List.findSome?_cons, Dict.get?_insert, h]

theorem get?_push (c : Context η) (frame : Dict (Val η)) (x : String) :
    (c.push frame).get? x = (frame.get? x).or (c.get? x) := by
  simp only [get?, frames, push, List.cons_append, List.findSome?_cons]
  cases frame.get? x <;> rfl

theorem get?_withGlobals (globals : Dict (Val η)) (x : String) :
    (withGlobals globals).get? x = globals.get? x := by
  simp [get?, frames, withGlobals]

theorem get?_of_frames {c d : Context η} (h : d.frames = c.frames) (x : String) : d.get? x = c.get? x := by
  rw [get?, h, get?]

theorem queue?_set (c : Context η) (name x : String) (v : Val η) : (c.set name v).queue? x = c.queue? x := by
  obtain ⟨globals, stack, render, saved, depth, made⟩ := c
  cases stack <;> rfl

/-- Under a further frame nothing below has changed, and without that frame all is as it was. -/
theorem SameScope.pop? {frame : Dict (Val η)} (h : SameScope names (c.push frame) d) :
    ∃ f d', d.pop? = some (f, d') ∧ SameScope ∅ c d' ∧ d'.frames = c.frames ∧ d'.render = d.render := by
  obtain ⟨globals, stack, render, saved, depth, made⟩ := d
  cases stack with
  | nil => cases h.height
  | cons f stack =>
    have hframes : stack ++ [globals] = c.stack ++ [c.globals] := h.below
    have hlength : stack.length = c.stack.length := Nat.succ.inj h.height
    obtain ⟨rfl, hglobals⟩ := List.append_inj hframes hlength
    obtain rfl := List.singleton_inj.mp hglobals
    exact ⟨f, _, rfl, ⟨rfl, rfl, fun _ _ => rfl, h.depth, h.saved⟩, rfl, rfl⟩

theorem Restored.pop? {frame : Dict (Val η)} (h : Restored names (c.push frame) d) :
    ∃ f d', d.pop? = some (f, d') ∧ Restored ∅ c d' ∧ d'.frames = c.frames := by
  obtain ⟨f, d', hpop, hscope, hframes, hrender⟩ := h.toSameScope.pop?
  refine ⟨f, d', hpop, ⟨hscope, fun x => ?_⟩, hframes⟩
  rw [queue?, hrender]
  exact h.queue x

/-! ## Queues -/

theorem queued?_eq (c : Context η) (name : String) : queued? c name = (c.queue? name).bind List.head? := by
  unfold queued? queue?
  cases c.render.blocks <;> rfl

theorem queue?_of_queued? {c : Context η} {name : String} {definition : Block η}
    (h : queued? c name = some definition) : ∃ rest, c.queue? name = some (definition :: rest) := by
  rw [queued?_eq] at h
  obtain ⟨q, hq, h⟩ := Option.bind_eq_some_iff.mp h
  obtain ⟨rest, rfl⟩ := List.head?_eq_some_iff.mp h
  exact ⟨rest, hq⟩

theorem queue?_pop {c : Context η} {name : String} {b : Block η} {rest : List (Block η)}
    (h : c.queue? name = some (b :: rest)) (x : String) :
    (c.mapBlocks (·.pop name)).queue? x = if name = x then some rest else c.queue? x := by
  obtain ⟨bs, hbs, h⟩ := Option.map_eq_some_iff.mp h
  have hpop : bs.pop name = Dict.insert bs name rest := by simp only [Blocks.pop, h]
  simp only [queue?, mapBlocks, hbs, Option.map_some, hpop, Blocks.queue_insert]
  split <;> rfl

theorem queue?_push (c : Context η) (name : String) (b : Block η) (x : String) :
    (c.mapBlocks (·.push name b)).queue? x =
      if name = x then (c.queue? name).map (b :: ·) else c.queue? x := by
  unfold queue? mapBlocks
  cases c.render.blocks with
  | none => split <;> rfl
  | some bs =>
    simp only [Option.map_some, Blocks.push, Blocks.queue_insert]
    split <;> rfl

theorem queueBlocks_scope {names : Set String} : ∀ (templates : List (Template η)) (c : Context η),
    SameScope names c (queueBlocks c templates)
  | [], c => .refl c
  | t :: templates, c =>
    SameScope.trans (d := c.addLevel t.blocks) ⟨rfl, rfl, fun _ _ => rfl, rfl, rfl⟩
      (queueBlocks_scope templates _)

end Context

end TemplateTree
