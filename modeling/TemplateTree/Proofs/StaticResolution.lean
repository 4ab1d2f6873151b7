import TemplateTree.Mode.Parenthesized
import TemplateTree.Mode.Tree
import TemplateTree.Proofs.Termination

/-!
# Static resolution of blocks

A reading of inheritance without queues. Each block name has a list of definitions that never changes,
the most derived one first. A block renders the first one, and what a definition overrides are those
behind it; a render only has to know the definition that it is in. Rendering a template does the same if
`block` is read in no other way than by `block.name` and `block.super`, and no block is nested in
itself.
-/

namespace TemplateTree

open RenderM

variable {η α : Type}

/-! ## The reference -/

namespace Static

/-- The definition that renders: the name of its block, and the definitions that it overrides. -/
structure Scope (η : Type) where
  name : String
  overridden : List (Block η)

def inForce (definitions : String → List (Block η)) (b : Block η) : List (Block η) :=
  match definitions b.name with
  | [] => [b]
  | bs => bs

/-- Renders the first of some definitions in a frame of its own, or nothing. -/
def renderDefinitions (render : Option (Scope η) → Renderer η) : List (Block η) → RenderM η (Val η)
  | [] => return .list []
  | b :: overridden => do
    return .list (← inFrame [] (renderDefinition (render (some ⟨b.name, overridden⟩)) b))

variable [HostCode η]

/-- The value of a variable, with the properties of `block` read off the scope. -/
def resolve (render : Option (Scope η) → Renderer η) (scope : Option (Scope η)) (v : Variable) :
    RenderM η (Val η) :=
  match scope with
  | none => TemplateTree.resolve (render scope) v
  | some s =>
    if v = .called "block.super" then renderDefinitions render s.overridden
    else if v = .called "block.name" then return .string s.name
    else TemplateTree.resolve (render scope) v

def renderStep (engine : Engine η) (definitions : String → List (Block η))
    (render : Option (Scope η) → Renderer η) (scope : Option (Scope η)) : Node η → RenderM η (Val η)
  | .literal v => return v
  | .text t => renderText (resolve render scope) t
  | .var v => resolve render scope v
  | .element tag attributes contents =>
    renderElement engine (resolve render scope) (render scope) tag attributes contents
  | .loop vars list contents empty =>
    renderLoop (resolve render scope) (render scope) vars list contents empty
  | .cond test contents otherwise => renderCond (resolve render scope) (render scope) test contents otherwise
  | .block b => renderDefinitions render (inForce definitions b)
  | .cycle id values name silent => renderCycle (render scope) id values name silent
  | .doctype version => renderDoctype engine version
  | .inclusion .. | .empty _ | .otherwise _ => return .list []
  | .host p => HostCode.run (render scope) p .none

def renderNode (engine : Engine η) (definitions : String → List (Block η)) :
    Nat → Option (Scope η) → Renderer η
  | 0, _, _ => exhausted
  | depth + 1, scope, n => renderStep engine definitions (renderNode engine definitions depth) scope n

def renderChain (engine : Engine η) (chain : Chain η) (depth : Nat) : RenderM η (Val η) :=
  bracket (update (·.enter)) (fun _ => leaveTemplate) (inTemplate chain.root.name
    (renderFragment engine (renderNode engine chain.definitions depth none) chain.root.contents))

end Static

/-! ## What static resolution asks for -/

abbrev FunctionFree : Val η → Prop :=
  Value.Admits (fun _ => False) (fun _ => True)

/-- A mode that makes functions of nothing but functions. -/
structure Mode.WithoutFunctions (m : Mode (Callable η)) : Prop where
  element : ∀ id tag (as : Dict (Val η)) vs v, (∀ e ∈ as, FunctionFree e.2) → (∀ w ∈ vs, FunctionFree w) →
    m.element id tag as vs = .ok v → FunctionFree v
  fragment : ∀ id vs v, (∀ w ∈ vs, FunctionFree w) → m.fragment id vs = .ok v → FunctionFree v
  raw : ∀ id s v, m.raw id s = .ok v → FunctionFree v

theorem functionFree_of_map {ε β : Type} {x : Except ε β} {f : β → Val η} {v : Val η} (h : x.map f = .ok v)
    (hf : ∀ b, FunctionFree (f b)) : FunctionFree v := by
  obtain ⟨b, -, rfl⟩ := Except.ok_of_map h
  exact hf b

theorem Html.withoutFunctions : (mode : Mode (Callable η)).WithoutFunctions where
  element _ _ _ _ _ _ _ h := functionFree_of_map h fun _ => Value.admits_markup.mpr trivial
  fragment _ _ _ _ h := functionFree_of_map h fun _ => Value.admits_markup.mpr trivial
  raw _ _ _ h := Except.ok.inj h ▸ Value.admits_markup.mpr trivial

theorem Tree.withoutFunctions : (mode : Mode (Callable η)).WithoutFunctions where
  element _ _ _ _ _ _ _ h := functionFree_of_map h fun _ => Value.admits_markup.mpr trivial
  fragment _ _ _ _ h := functionFree_of_map h fun _ => Value.admits_markup.mpr trivial
  raw _ _ _ h := Except.ok.inj h ▸ Value.admits_markup.mpr trivial

theorem Parenthesized.withoutFunctions : (mode : Mode (Callable η)).WithoutFunctions where
  element _ _ _ _ _ _ _ h := functionFree_of_map h fun _ => Value.admits_string _
  fragment _ _ _ hvs h := Except.ok.inj h ▸ Value.admits_list.mpr hvs
  raw _ _ _ h := Except.ok.inj h ▸ Value.admits_string _

namespace Node

def binds : Node η → List String
  | .loop vars _ _ _ => vars
  | .cycle _ _ name _ => name.toList
  | _ => []

/-- The node by itself reads `block` only by the name and the definition overridden, does not bind it,
holds no function and is no inclusion. -/
structure Lexical (n : Node η) : Prop where
  reads : ∀ v ∈ n.variables, v.segments.1 = "block" → v = .called "block.name" ∨ v = .called "block.super"
  binds : "block" ∉ n.binds
  literal : ∀ v, n = .literal v → FunctionFree v
  inclusion : ∀ target extra only, n ≠ .inclusion target extra only

theorem lexical_literal {v : Val η} (h : FunctionFree v) : (Node.literal v).Lexical := by
  refine ⟨nofun, List.not_mem_nil, fun w hw => ?_, nofun⟩
  rw [← Node.literal.inj hw]
  exact h

theorem lexical_var {v : Variable}
    (h : v.segments.1 = "block" → v = .called "block.name" ∨ v = .called "block.super") :
    (Node.var v : Node η).Lexical := by
  refine ⟨fun w hw => ?_, List.not_mem_nil, nofun, nofun⟩
  rw [List.mem_singleton.mp hw]
  exact h

theorem lexical_block (b : Block η) : (Node.block b).Lexical :=
  ⟨nofun, List.not_mem_nil, nofun, nofun⟩

end Node

/-- Whether a block is directly in the definition of another one, or anywhere in its contents. -/
def Chain.Nests (c : Chain η) (x y : String) : Prop :=
  ∃ b b', c.Holds (.block b) ∧ b.name = x ∧ (∃ n ∈ b.contents, n.Contains (.block b')) ∧ b'.name = y

/-- A chain whose blocks can be resolved statically. -/
structure Chain.Lexical (c : Chain η) : Prop where
  nodes : ∀ n, c.Holds n → n.Lexical
  acyclic : ∀ x, ¬ Relation.TransGen c.Nests x x

namespace Node

/-- Every block in the node ranks lower than `bound`. -/
def BelowRank (rank : String → Nat) (bound : Nat) (n : Node η) : Prop :=
  n.Throughout fun m => ∀ b, m = .block b → rank b.name < bound

structure Ranked (rank : String → Nat) (n : Node η) : Prop where
  lexical : n.Lexical
  below : ∀ b, n = .block b → ∀ m ∈ b.contents, m.BelowRank rank (rank b.name)

variable {rank : String → Nat}

theorem belowRank_var (bound : Nat) (v : Variable) : (Node.var v : Node η).BelowRank rank bound :=
  throughout_iff.mpr ⟨nofun, nofun⟩

theorem belowRank_literal (bound : Nat) (v : Val η) : (Node.literal v).BelowRank rank bound :=
  throughout_iff.mpr ⟨nofun, nofun⟩

theorem belowRank_block {bound : Nat} {b : Block η} (hb : rank b.name < bound)
    (h : ∀ m ∈ b.contents, m.BelowRank rank bound) : (Node.block b).BelowRank rank bound := by
  refine throughout_iff.mpr ⟨fun b' hb' => ?_, h⟩
  rw [← Node.block.inj hb']
  exact hb

theorem ranked_var {v : Variable}
    (h : v.segments.1 = "block" → v = .called "block.name" ∨ v = .called "block.super") :
    (Node.var v : Node η).Throughout (Ranked rank) :=
  throughout_iff.mpr ⟨⟨lexical_var h, nofun⟩, nofun⟩

theorem ranked_literal {v : Val η} (h : FunctionFree v) : (Node.literal v).Throughout (Ranked rank) :=
  throughout_iff.mpr ⟨⟨lexical_literal h, nofun⟩, nofun⟩

theorem ranked_block {b : Block η} (h : ∀ m ∈ b.contents, m.Throughout (Ranked rank))
    (hbelow : ∀ m ∈ b.contents, m.BelowRank rank (rank b.name)) :
    (Node.block b).Throughout (Ranked rank) := by
  refine throughout_iff.mpr ⟨⟨lexical_block b, fun b' hb' => ?_⟩, h⟩
  rw [← Node.block.inj hb']
  exact hbelow

end Node

/-- Blocks cannot be nested in themselves if blocks inside of a definition rank lower than its own block. -/
theorem Chain.lexical_of_ranked {c : Chain η} {rank : String → Nat}
    (h : ∀ t ∈ c.templates, ∀ n ∈ t.contents, n.Throughout (Node.Ranked rank)) : c.Lexical := by
  have hnodes : ∀ n, c.Holds n → n.Ranked rank := by
    intro n hn
    obtain ⟨t, ht, m, hm, hcontains⟩ := hn
    exact h t ht m hm n hcontains
  have hnests : ∀ x y, c.Nests x y → rank y < rank x := by
    intro x y hxy
    obtain ⟨b, b', hb, rfl, ⟨n, hn, hb'⟩, rfl⟩ := hxy
    exact (hnodes _ hb).below b rfl n hn _ hb' b' rfl
  refine ⟨fun n hn => (hnodes n hn).lexical, fun x hx => ?_⟩
  have hless : ∀ y, Relation.TransGen c.Nests x y → rank y < rank x := by
    intro y hy
    induction hy with
    | single h => exact hnests _ _ h
    | tail _ h ih => exact (hnests _ _ h).trans ih
  exact Nat.lt_irrefl _ (hless x hx)

/-! ## Contexts without queues -/

namespace Context

def withoutBlocks (c : Context η) : Context η :=
  { c with render := { c.render with blocks := none } }

def bindBlock (c : Context η) (b : Block η) : Context η :=
  Context.set { c with made := c.made + 1 } "block"
    (.map [("name", .string b.name), ("super", .function (.made c.made) (.super b))])

theorem withoutBlocks_set (c : Context η) (name : String) (v : Val η) :
    (c.set name v).withoutBlocks = c.withoutBlocks.set name v := by
  obtain ⟨globals, stack, render, saved, depth, made⟩ := c
  cases stack <;> rfl

theorem withoutBlocks_bindBlock (c : Context η) (b : Block η) :
    (c.bindBlock b).withoutBlocks = c.withoutBlocks.bindBlock b :=
  withoutBlocks_set _ _ _

theorem withoutBlocks_pop? {c c' : Context η} {f : Dict (Val η)} (h : c.pop? = some (f, c')) :
    c.withoutBlocks.pop? = some (f, c'.withoutBlocks) := by
  obtain ⟨globals, stack, render, saved, depth, made⟩ := c
  cases stack with
  | nil => cases h
  | cons frame stack =>
    obtain ⟨rfl, rfl⟩ := Prod.mk.inj (Option.some.inj h)
    rfl

end Context

theorem renderOperative_of_cons {render : Renderer η} {b definition : Block η}
    {rest : List (Block η)} {c : Context η} (h : c.queue? b.name = some (definition :: rest)) :
    renderOperative render b c = bracket (update (·.mapBlocks (·.pop b.name)))
      (fun _ => update (·.mapBlocks (·.push b.name definition))) (renderDefinition render definition) c := by
  have hqueued : queued? c b.name = some definition := by
    rw [Context.queued?_eq, h]
    rfl
  unfold renderOperative
  rw [RenderM.get_bind_apply, hqueued]

theorem renderOperative_of_nil {render : Renderer η} {b : Block η} {c : Context η}
    (h : c.queue? b.name = some []) : renderOperative render b c = renderDefinition render b c := by
  have hqueued : queued? c b.name = none := by
    rw [Context.queued?_eq, h]
    rfl
  unfold renderOperative
  rw [RenderM.get_bind_apply, hqueued]

/-! ## Contexts in a scope -/

def Chain.Inner (chain : Chain η) : Option (Static.Scope η) → String → Prop
  | none, _ => True
  | some s, y => Relation.TransGen chain.Nests s.name y

/-- While the definition of a scope renders, the queue of its block holds what it overrides, and the blocks
inside of it have all their definitions. -/
structure Within (chain : Chain η) (scope : Option (Static.Scope η)) (c : Context η) : Prop where
  data : ∀ name v, (name = "block" → scope = none) → c.get? name = some v → FunctionFree v
  block : ∀ s, scope = some s → ∃ id b, b.name = s.name ∧
    c.get? "block" = some (.map [("name", .string b.name), ("super", .function id (.super b))])
  current : ∀ s, scope = some s → c.queue? s.name = some s.overridden
  overridden : ∀ s, scope = some s → ∀ b ∈ s.overridden, b.name = s.name ∧ chain.Holds (.block b)
  inner : ∀ y, chain.Inner scope y → c.queue? y = some (chain.definitions y)

def Static.Related (chain : Chain η) (scope : Option (Static.Scope η)) (c d : Context η) : Prop :=
  d = c.withoutBlocks ∧ Within chain scope c

section
variable {chain : Chain η} {scope : Option (Static.Scope η)} {c c' : Context η}

theorem Within.of_frames (h : Within chain scope c) (hframes : c'.frames = c.frames)
    (hqueue : ∀ x, c'.queue? x = c.queue? x) : Within chain scope c' := by
  have hget (x : String) : c'.get? x = c.get? x := Context.get?_of_frames hframes x
  refine ⟨fun name v hname hv => ?_, fun s hs => ?_, fun s hs => ?_, h.overridden, fun y hy => ?_⟩
  · exact h.data name v hname (hget name ▸ hv)
  · rw [hget]
    exact h.block s hs
  · rw [hqueue]
    exact h.current s hs
  · rw [hqueue]
    exact h.inner y hy

theorem Within.set (h : Within chain scope c) {name : String} (hname : name ≠ "block") {v : Val η}
    (hv : FunctionFree v) : Within chain scope (c.set name v) := by
  refine ⟨fun x w hx hw => ?_, fun s hs => ?_, fun s hs => ?_, h.overridden, fun y hy => ?_⟩
  · rw [Context.get?_set] at hw
    split at hw
    · rw [← Option.some.inj hw]
      exact hv
    · exact h.data x w hx hw
  · rw [Context.get?_set, if_neg hname]
    exact h.block s hs
  · rw [Context.queue?_set]
    exact h.current s hs
  · rw [Context.queue?_set]
    exact h.inner y hy

theorem Within.bindBlock (hchain : chain.Lexical) (h : Within chain scope c)
    {b : Block η} {rest : List (Block η)} (hframes : ∀ x, c'.get? x = c.get? x)
    (hqueue : ∀ x, c'.queue? x = if b.name = x then some rest else c.queue? x)
    (hrest : ∀ b' ∈ rest, b'.name = b.name ∧ chain.Holds (.block b'))
    (hinner : ∀ y, Relation.TransGen chain.Nests b.name y → chain.Inner scope y) :
    Within chain (some ⟨b.name, rest⟩) (c'.bindBlock b) := by
  refine ⟨fun name v hname hv => ?_, fun s hs => ?_, fun s hs => ?_, fun s hs => ?_, fun y hy => ?_⟩
  · have hne : name ≠ "block" := fun h => nomatch hname h
    rw [Context.bindBlock, Context.get?_set, if_neg hne.symm] at hv
    exact h.data name v (fun h => absurd h hne) ((hframes name).symm.trans hv)
  · obtain rfl := Option.some.inj hs
    refine ⟨.made c'.made, b, rfl, ?_⟩
    rw [Context.bindBlock, Context.get?_set, if_pos rfl]
  · obtain rfl := Option.some.inj hs
    rw [Context.bindBlock, Context.queue?_set]
    exact (hqueue b.name).trans (if_pos rfl)
  · obtain rfl := Option.some.inj hs
    exact hrest
  · have hne : b.name ≠ y := by
      intro heq
      subst heq
      exact hchain.acyclic _ hy
    rw [Context.bindBlock, Context.queue?_set]
    exact ((hqueue y).trans (if_neg hne)).trans (h.inner y (hinner y hy))

theorem steady_related : Steady (Static.Related chain scope) where
  made := by
    intro c _ hcd
    obtain ⟨rfl, -⟩ := hcd
    rfl
  fresh := by
    intro c _ hcd
    obtain ⟨rfl, h⟩ := hcd
    exact ⟨rfl, h.of_frames rfl fun _ => rfl⟩

theorem moves_related {id : Nat} : Moves (Static.Related chain scope) id where
  position := by
    intro c _ hcd
    obtain ⟨rfl, -⟩ := hcd
    rfl
  setPosition := by
    intro c _ i hcd
    obtain ⟨rfl, h⟩ := hcd
    exact ⟨rfl, h.of_frames rfl fun _ => rfl⟩

theorem binds_related {name : String} (hname : name ≠ "block") :
    Binds (Static.Related chain scope) FunctionFree name := by
  intro c _ v hcd hv
  obtain ⟨rfl, h⟩ := hcd
  exact ⟨(c.withoutBlocks_set name v).symm, h.set hname hv⟩

theorem related_of_restored (h : Within chain scope c) (hc' : Context.Restored Set.univ (c.push []) c') :
    ∃ f c'', c'.pop? = some (f, c'') ∧ c'.withoutBlocks.pop? = some (f, c''.withoutBlocks) ∧
      Static.Related chain scope c'' c''.withoutBlocks := by
  obtain ⟨f, c'', hpop, hrestored, hframes⟩ := hc'.pop?
  exact ⟨f, c'', hpop, Context.withoutBlocks_pop? hpop, rfl, h.of_frames hframes hrestored.queue⟩

theorem framed_related (h : Within chain scope c) :
    Framed (Static.Related chain scope)
      (fun c' d' => Static.Related chain scope c' d' ∧ Context.Restored Set.univ (c.push []) c') [] c
      c.withoutBlocks where
  push := by
    refine ⟨⟨rfl, ?_⟩, .refl _⟩
    refine ⟨fun name v hname hv => ?_, fun s hs => ?_, h.current, h.overridden, h.inner⟩
    · rw [Context.get?_push] at hv
      exact h.data name v hname hv
    · rw [Context.get?_push]
      exact h.block s hs
  pop := by
    intro c' _ hcd
    obtain ⟨⟨rfl, -⟩, hc'⟩ := hcd
    obtain ⟨f, c'', hpop, hpop', hrelated⟩ := related_of_restored h hc'
    exact ⟨f, f, c'', _, hpop, hpop', hrelated⟩

end

/-! ## Definitions -/

structure Chain.Places (chain : Chain η) (scope : Option (Static.Scope η)) (n : Node η) : Prop where
  holds : chain.Holds n
  inner : ∀ b, n.Contains (.block b) → chain.Inner scope b.name

theorem Chain.Places.child {chain : Chain η} {scope : Option (Static.Scope η)} {n m : Node η}
    (h : chain.Places scope n) (hm : m ∈ n.children) : chain.Places scope m :=
  ⟨h.holds.child hm, fun b hb => h.inner b (.head hm hb)⟩

theorem Chain.places_of_mem {chain : Chain η} {b : Block η}
    (hb : chain.Holds (.block b)) (rest : List (Block η)) {n : Node η} (hn : n ∈ b.contents) :
    chain.Places (some ⟨b.name, rest⟩) n :=
  ⟨hb.child hn, fun b' hb' => .single ⟨b, b', hb, rfl, ⟨n, hn, hb'⟩, rfl⟩⟩

section
variable {engine : Engine Empty} {chain : Chain Empty} {render : Renderer Empty}
  {render' : Option (Static.Scope Empty) → Renderer Empty} (hchain : chain.Lexical)
  (hrestores : ∀ n, Restores n.bound (render n))
  (hrender : ∀ scope n, chain.Places scope n →
    Lockstep True (Static.Related chain scope) FunctionFree (render n) (render' scope n))
include hchain hrestores hrender

/-- The definition at the front of the queue, or the block itself behind an empty queue, renders as the
first one of the list that the queue stands for. -/
theorem renderBlock_alike {scope : Option (Static.Scope Empty)} {c : Context Empty} (h : Within chain scope c)
    {b definition : Block Empty} {q rest : List (Block Empty)} (hq : c.queue? b.name = some q)
    (hfirst : q = definition :: rest ∨ q = [] ∧ definition = b ∧ rest = [])
    (hdefinitions : ∀ b' ∈ definition :: rest, b'.name = b.name ∧ chain.Holds (.block b'))
    (hinner : ∀ y, Relation.TransGen chain.Nests b.name y → chain.Inner scope y) :
    Alike True (Static.Related chain scope) FunctionFree (renderBlock render b c)
      (Static.renderDefinitions render' (definition :: rest) c.withoutBlocks) := by
  obtain ⟨hname, hholds⟩ := hdefinitions definition (List.mem_cons_self ..)
  let Twin := fun c d : Context Empty => d = c.withoutBlocks
  -- entered with the definition off its queue
  have hdefinition (c' : Context Empty) (hframes : ∀ x, c'.get? x = c.get? x)
      (hqueue : ∀ x, c'.queue? x = if b.name = x then some rest else c.queue? x) :
      Alike True Twin (fun vs => ∀ v ∈ vs, FunctionFree v) (renderDefinition render definition c')
        (renderDefinition (render' (some ⟨definition.name, rest⟩)) definition c'.withoutBlocks) := by
    have hwithin : Within chain (some ⟨definition.name, rest⟩) (c'.bindBlock definition) := by
      refine h.bindBlock hchain hframes (hname ▸ hqueue) ?_ (hname ▸ hinner)
      intro b' hb'
      rw [hname]
      exact hdefinitions b' (List.mem_cons_of_mem _ hb')
    have hcontents := renderAll_lockstep fun n hn => hrender _ n (Chain.places_of_mem hholds rest hn)
    have hrelated : Static.Related chain (some ⟨definition.name, rest⟩) (c'.bindBlock definition)
        (c'.withoutBlocks.bindBlock definition) := ⟨(c'.withoutBlocks_bindBlock definition).symm, hwithin⟩
    exact (hcontents _ _ hrelated).mono (fun _ _ h => h.1) fun _ => id
  have hoperative : Alike True Twin (fun vs => ∀ v ∈ vs, FunctionFree v)
      (renderOperative render b (c.push []))
      (renderDefinition (render' (some ⟨definition.name, rest⟩)) definition (c.push []).withoutBlocks) := by
    have hq : (c.push []).queue? b.name = some q := hq
    rcases hfirst with rfl | ⟨rfl, rfl, rfl⟩
    · rw [renderOperative_of_cons hq]
      refine .bracket_left rfl (hdefinition _ (Context.get?_push c []) (Context.queue?_pop hq)) ?_
      intro c₂ _ heq
      subst heq
      exact ⟨_, rfl, rfl⟩
    · rw [renderOperative_of_nil hq]
      refine hdefinition _ (Context.get?_push c []) fun x => ?_
      split
      · next hx => exact hx ▸ hq
      · rfl
  have hrestored : ∀ r c', renderOperative render b (c.push []) = some (r, c') →
      Context.Restored Set.univ (c.push []) c' := by
    intro r c' hr
    exact ((restores_operative hrestores b).outcome trivial hr).2
  refine Alike.bind (P := fun vs => ∀ v ∈ vs, FunctionFree v) ?_ fun vs hvs =>
    .pure (Value.admits_list.mpr hvs)
  refine .bracket rfl rfl (hoperative.and hrestored) ?_
  intro c₂ _ hcd
  obtain ⟨rfl, h₂⟩ := hcd
  obtain ⟨f, c₃, hpop, hpop', hrelated⟩ := related_of_restored h h₂
  exact ⟨c₃, _, popFrame_discard hpop, popFrame_discard hpop', hrelated⟩

/-! ## Nodes -/

omit hchain hrestores hrender in
theorem resolve_super {c : Context Empty} {id : Identity} {x : String} {b : Block Empty}
    (h : c.get? "block" = some (.map [("name", .string x), ("super", .function id (.super b))])) :
    resolve render (.called "block.super") c = renderSuper render b c := by
  have hsegments : (Variable.called "block.super").segments = ("block", ["super"]) := by decide
  rw [resolve_eq, RenderM.get_bind_apply, hsegments, h]
  show (renderSuper render b >>= pure) c = renderSuper render b c
  rw [bind_pure]

omit hchain hrestores hrender in
theorem resolve_name {c : Context Empty} {x : String} {w : Val Empty}
    (h : c.get? "block" = some (.map [("name", .string x), ("super", w)])) :
    resolve render (.called "block.name") c = some (.ok (.string x), c) := by
  have hsegments : (Variable.called "block.name").segments = ("block", ["name"]) := by decide
  rw [resolve_eq, RenderM.get_bind_apply, hsegments, h]
  rfl

theorem resolve_related {scope : Option (Static.Scope Empty)} {v : Variable}
    (hv : v.segments.1 = "block" → v = .called "block.name" ∨ v = .called "block.super") :
    Lockstep True (Static.Related chain scope) FunctionFree (resolve render v)
      (Static.resolve render' scope v) := by
  have hplain (h : v.segments.1 = "block" → scope = none) :
      Lockstep True (Static.Related chain scope) FunctionFree
      (resolve render v) (resolve (render' scope) v) := by
    refine resolve_lockstep v ?_ ?_ fun _ f _ hf => hf.elim
    · intro c _ hcd
      obtain ⟨rfl, -⟩ := hcd
      rfl
    · intro c _ w hcd hw
      obtain ⟨rfl, hc⟩ := hcd
      exact hc.data _ w h hw
  cases scope with
  | none => exact hplain fun _ => rfl
  | some s =>
    simp only [Static.resolve]
    by_cases hsuper : v = .called "block.super"
    · rw [if_pos hsuper, hsuper]
      intro c _ hcd
      obtain ⟨rfl, hc⟩ := hcd
      obtain ⟨id, b, hname, hget⟩ := hc.block s rfl
      have hq : c.queue? b.name = some s.overridden := hname ▸ hc.current s rfl
      rw [resolve_super hget]
      unfold renderSuper
      rw [RenderM.get_bind_apply, Context.queued?_eq, hq]
      cases hrest : s.overridden with
      | nil => exact .result admits_nil ⟨rfl, hc⟩
      | cons definition rest =>
        rw [hrest] at hq
        refine renderBlock_alike hchain hrestores hrender hc hq (.inl rfl) (fun b' hb' => ?_) fun y hy => ?_
        · rw [hname]
          exact hc.overridden s rfl b' (hrest ▸ hb')
        · show Relation.TransGen chain.Nests s.name y
          rw [← hname]
          exact hy
    · rw [if_neg hsuper]
      by_cases hname : v = .called "block.name"
      · rw [if_pos hname, hname]
        intro c _ hcd
        obtain ⟨rfl, hc⟩ := hcd
        obtain ⟨id, b, hname, hget⟩ := hc.block s rfl
        rw [resolve_name hget, hname]
        exact .result (Value.admits_string _) ⟨rfl, hc⟩
      · rw [if_neg hname]
        exact hplain fun h => (hv h).elim (absurd · hname) (absurd · hsuper)

theorem renderStep_related (hmode : engine.mode.WithoutFunctions) {scope : Option (Static.Scope Empty)}
    {n : Node Empty} (hn : chain.Places scope n) :
    Lockstep True (Static.Related chain scope) FunctionFree (renderStep engine render n)
      (Static.renderStep engine chain.definitions render' scope n) := by
  have hlexical := hchain.nodes n hn.holds
  have hvar (v : Variable) (hv : v ∈ n.variables) : Lockstep True (Static.Related chain scope) FunctionFree
      (resolve render v) (Static.resolve render' scope v) :=
    resolve_related hchain hrestores hrender (hlexical.reads v hv)
  have hchild (m : Node Empty) (hm : m ∈ n.children) := hrender scope m (hn.child hm)
  cases n with
  | literal v => exact .pure (hlexical.literal v rfl)
  | text t => exact renderText_lockstep hvar
  | var v => exact hvar v (List.mem_singleton.mpr rfl)
  | element tag attributes contents =>
    refine renderElement_lockstep (A := fun _ => FunctionFree) steady_related rfl (fun e he => ?_)
      (fun m hm => hchild m (List.mem_append_right _ hm)) fun id => hmode.element id tag
    have hmem : e.2 ∈ (Node.element tag attributes contents).children :=
      List.mem_append_left _ (List.mem_map_of_mem he)
    have he := hchain.nodes e.2 (hn.child hmem).holds
    refine renderAttribute_lockstep (fun v hv => ?_) he.literal (hchild e.2 hmem)
    refine resolve_related hchain hrestores hrender (he.reads v ?_)
    rw [hv]
    exact List.mem_singleton.mpr rfl
  | loop vars list contents fallback =>
    refine renderLoop_lockstep (hvar list (List.mem_singleton.mpr rfl))
      (fun m hm => hchild m (List.mem_append_right _ hm)) ?_ ?_
    · intro c _ hcd
      obtain ⟨rfl, hc⟩ := hcd
      exact ⟨rfl, fun v => hc.data _ v nofun⟩
    · intro c _ hcd
      obtain ⟨rfl, hc⟩ := hcd
      refine ⟨_, framed_related hc, fun x hx => ?_, fun m hm => ?_⟩
      · have hne : x ≠ "block" := by
          intro heq
          subst heq
          exact (List.mem_cons.mp hx).elim nofun hlexical.binds
        intro c' d' v hcd hv
        obtain ⟨hrelated, hrestored⟩ := hcd
        exact ⟨binds_related hne c' d' v hrelated hv,
          hrestored.trans (Context.restored_set (Set.mem_univ x) v)⟩
      · have hrestore := (hrestores m).mono stable_true (Set.subset_univ _)
        exact (hchild m (List.mem_append_left _ hm)).and_restored hrestore _
  | cond test contents fallback =>
    cases test with
    | expr e => exact renderCond_lockstep hvar hchild
    | host p => cases p
  | block b =>
    intro c _ hcd
    obtain ⟨rfl, hc⟩ := hcd
    have hb := hn.inner b .refl
    have hq := hc.inner b.name hb
    have hinner : ∀ y, Relation.TransGen chain.Nests b.name y → chain.Inner scope y := by
      intro y hy
      cases scope with
      | none => trivial
      | some s => exact Relation.TransGen.trans hb hy
    show Alike _ _ _ (renderBlock render b c)
      (Static.renderDefinitions render' (Static.inForce chain.definitions b) c.withoutBlocks)
    unfold Static.inForce
    cases hdefinitions : chain.definitions b.name with
    | nil =>
      rw [hdefinitions] at hq
      refine renderBlock_alike hchain hrestores hrender hc hq (.inr ⟨rfl, rfl, rfl⟩) ?_ hinner
      intro b' hb'
      rw [List.mem_singleton.mp hb']
      exact ⟨rfl, hn.holds⟩
    | cons definition rest =>
      rw [hdefinitions] at hq
      refine renderBlock_alike hchain hrestores hrender hc hq (.inl rfl) ?_ hinner
      intro b' hb'
      exact Chain.holds_of_mem_definitions (hdefinitions ▸ hb')
  | inclusion target extra only => exact absurd rfl (hlexical.inclusion target extra only)
  | cycle id values name silent =>
    refine renderCycle_lockstep moves_related hchild admits_nil fun x hx => binds_related ?_
    intro heq
    subst heq
    exact hlexical.binds (hx ▸ List.mem_singleton.mpr rfl)
  | doctype version => exact renderDoctype_lockstep steady_related rfl fun id v => hmode.raw id _ v
  | empty contents => exact .pure admits_nil
  | otherwise contents => exact .pure admits_nil
  | host p => cases p

end

theorem renderNode_related {engine : Engine Empty} {chain : Chain Empty} (hchain : chain.Lexical)
    (hmode : engine.mode.WithoutFunctions) :
    ∀ (depth : Nat) (scope : Option (Static.Scope Empty)) (n : Node Empty),
      chain.Places scope n →
      Lockstep True (Static.Related chain scope) FunctionFree (renderNode engine depth n)
        (Static.renderNode engine chain.definitions depth scope n)
  | 0, _, _, _ => fun _ _ _ => .exhausted trivial
  | depth + 1, _, _, hn =>
    renderStep_related hchain (restores_renderNode engine depth)
      (renderNode_related hchain hmode depth) hmode hn

/-! ## Templates -/

theorem Context.withoutBlocks_queueBlocks : ∀ (ts : List (Template η)) (c : Context η),
    (queueBlocks c ts).withoutBlocks = c.withoutBlocks
  | [], _ => rfl
  | t :: ts, c => withoutBlocks_queueBlocks ts (c.addLevel t.blocks)

/-- A chain that can be resolved statically renders as it is resolved statically, from any context without
functions. -/
theorem renderTemplate_eq_static {engine : Engine Empty}
    (hmode : engine.mode.WithoutFunctions) {t : Template Empty}
    {chain : Chain Empty} (hderives : engine.Derives t chain) (hnames : (chain.templates.map (·.name)).Nodup)
    (hchain : chain.Lexical) {c : Context Empty} (hdata : ∀ name v, c.get? name = some v → FunctionFree v)
    (depth : Nat) :
    renderTemplate engine (renderNode engine depth) t c = Static.renderChain engine chain depth c := by
  let c₀ := queueBlocks c.enter chain.templates
  have hwithout : c₀.withoutBlocks = c.enter := Context.withoutBlocks_queueBlocks _ _
  have hframes : c₀.frames = c.frames := by
    show c₀.withoutBlocks.frames = c.enter.frames
    rw [hwithout]
  have hwithin : Within chain none c₀ := by
    refine ⟨fun name v _ hv => hdata name v ?_, nofun, nofun, nofun, fun x _ =>
      chain.queue?_queueBlocks rfl x⟩
    rw [Context.get?, hframes] at hv
    exact hv
  have hplaces : ∀ n ∈ chain.root.contents, chain.Places none n := by
    intro n hn
    exact ⟨⟨chain.root, chain.root_mem, n, hn, .refl⟩, fun _ _ => trivial⟩
  have hfragment := renderFragment_lockstep steady_related (rfl : engine.mode = engine.mode)
    (fun n hn => renderNode_related hchain hmode depth none n (hplaces n hn)) fun id => hmode.fragment id
  have hroot := (inTemplate_lockstep hfragment : Lockstep _ _ _ (inTemplate chain.root.name _) _) c₀ c.enter
    ⟨hwithout.symm, hwithin⟩
  rw [← renderChain_of_ok (hderives.chain_eq hnames)] at hroot
  have hsaved : ∀ r c', renderChain engine (renderNode engine depth) t c.enter = some (r, c') →
      c'.saved = c.render :: c.saved := fun r c' => saved_of_renderChain (restores_renderNode engine depth)
  refine eq_of_alike (.bracket rfl rfl (hroot.and hsaved) ?_)
  intro c₂ _ hcd
  obtain ⟨⟨rfl, -⟩, hsaved⟩ := hcd
  have hsaved' : c₂.withoutBlocks.saved = c.render :: c.saved := hsaved
  exact ⟨_, _, leaveTemplate_of_saved hsaved, leaveTemplate_of_saved hsaved', rfl⟩

/-- What inheritance renders is what static resolution renders, and every render ends. -/
theorem inheritance_is_static_resolution {engine : Engine Empty} (hmode : engine.mode.WithoutFunctions)
    {t : Template Empty} {chain : Chain Empty} (hderives : engine.Derives t chain)
    (hnames : (chain.templates.map (·.name)).Nodup) (hchain : chain.Lexical) {c : Context Empty}
    (hdata : ∀ name v, c.get? name = some v → FunctionFree v) :
    (∃ r c', engine.renderWith t c = some (r, c') ∧
      Static.renderChain engine chain (engine.depthForTemplate t) c = some (r, c')) ∧
    ∀ depth, renderTemplate engine (renderNode engine depth) t c =
      Static.renderChain engine chain depth c := by
  have hstatic := renderTemplate_eq_static hmode hderives hnames hchain hdata
  obtain ⟨r, c', hr⟩ := exists_renderWith engine t c
  exact ⟨⟨r, c', hr, hstatic _ ▸ hr⟩, hstatic⟩

/-- A block that three templates define, with another one in the second definition, which calls `super`
twice. -/
theorem super_called_twice_is_static_resolution :
    let root : Block Empty := .mk "main" [.literal (.string "root ")]
    let inner : Block Empty := .mk "sub" [.var (.called "block.name")]
    let middle : Block Empty :=
      .mk "main" [.var (.called "block.super"), .block inner, .var (.called "block.super")]
    let child : Block Empty := .mk "main" [.var (.called "block.super"), .var (.called "who")]
    let base : Template Empty := ⟨"base", none, [.block root], [("main", root)], rfl⟩
    let part : Template Empty :=
      ⟨"part", some "base", [.block middle], [("main", middle), ("sub", inner)],
        declare_pair (by decide) (by decide)⟩
    let page : Template Empty := ⟨"page", some "part", [.block child], [("main", child)], rfl⟩
    let engine : Engine Empty := { Engine.html with templates := [("base", base), ("part", part)] }
    let c : Context Empty := Context.withGlobals [("who", .string "you")]
    (∃ r c', engine.renderWith page c = some (r, c')) ∧
      (renderTemplate engine (renderNode engine 9) page c).bind
        (fun r => r.1.toOption.bind fun v => v.text.toOption) = some "root subroot you" := by
  intro root inner middle child base part page engine c
  have hname : (Node.var (.called "block.name") : Node Empty).Throughout (Node.Ranked String.length) :=
    Node.ranked_var fun _ => .inl rfl
  have hsuper : (Node.var (.called "block.super") : Node Empty).Throughout (Node.Ranked String.length) :=
    Node.ranked_var fun _ => .inr rfl
  have hroot : (Node.block root).Throughout (Node.Ranked String.length) := by
    refine Node.ranked_block (List.forall_mem_singleton.mpr ?_) (List.forall_mem_singleton.mpr ?_)
    · exact Node.ranked_literal (Value.admits_string _)
    · exact Node.belowRank_literal _ _
  have hinner : (Node.block inner).Throughout (Node.Ranked String.length) := by
    refine Node.ranked_block (List.forall_mem_singleton.mpr hname) (List.forall_mem_singleton.mpr ?_)
    exact Node.belowRank_var _ _
  have hmiddle : (Node.block middle).Throughout (Node.Ranked String.length) := by
    have hbelow : (Node.block inner).BelowRank String.length "main".length :=
      Node.belowRank_block (by decide) (List.forall_mem_singleton.mpr (Node.belowRank_var _ _))
    refine Node.ranked_block ?_ ?_
    · exact List.forall_mem_cons.mpr
        ⟨hsuper, List.forall_mem_cons.mpr ⟨hinner, List.forall_mem_singleton.mpr hsuper⟩⟩
    · refine List.forall_mem_cons.mpr ⟨Node.belowRank_var _ _, List.forall_mem_cons.mpr ⟨hbelow, ?_⟩⟩
      exact List.forall_mem_singleton.mpr (Node.belowRank_var _ _)
  have hchild : (Node.block child).Throughout (Node.Ranked String.length) := by
    have hwho : (Node.var (.called "who") : Node Empty).Throughout (Node.Ranked String.length) :=
      Node.ranked_var (by decide)
    refine Node.ranked_block ?_ ?_
    · exact List.forall_mem_cons.mpr ⟨hsuper, List.forall_mem_singleton.mpr hwho⟩
    · refine List.forall_mem_cons.mpr ⟨Node.belowRank_var _ _, ?_⟩
      exact List.forall_mem_singleton.mpr (Node.belowRank_var _ _)
  have hlexical : (⟨[page, part], base⟩ : Chain Empty).Lexical := by
    refine Chain.lexical_of_ranked (List.forall_mem_cons.mpr ⟨List.forall_mem_singleton.mpr hchild, ?_⟩)
    refine List.forall_mem_cons.mpr ⟨List.forall_mem_singleton.mpr hmiddle, ?_⟩
    exact List.forall_mem_singleton.mpr (List.forall_mem_singleton.mpr hroot)
  have hderives : engine.Derives page ⟨[page, part], base⟩ :=
    .parent rfl rfl (.parent rfl rfl (.root rfl))
  have hdata : ∀ name v, c.get? name = some v → FunctionFree v := by
    intro name v hv
    have hmem : (name, v) ∈ c.globals := Dict.mem_of_get? ((Context.get?_withGlobals _ name).symm.trans hv)
    obtain ⟨-, rfl⟩ := Prod.mk.inj (List.mem_singleton.mp hmem)
    exact Value.admits_string _
  obtain ⟨⟨r, c', hr, -⟩, hstatic⟩ :=
    inheritance_is_static_resolution Html.withoutFunctions hderives (by decide) hlexical hdata
  refine ⟨⟨r, c', hr⟩, ?_⟩
  rw [hstatic 9]
  decide +kernel

end TemplateTree
