import TemplateTree.Proofs.Extension
import TemplateTree.Proofs.Invariance
import TemplateTree.Proofs.Overriding
import TemplateTree.Proofs.Termination

/-!
# Turns of cycles

The cycles that render in one frame take turns independently of each other: each one renders its values
in order, from the first one on, whatever renders in between. This holds of cycles that only render on
their own, so the values of none may reach another one: a value that is a block renders what is queued
for it, and there may be cycles in that. Templates that render in between have a frame of their own, in
which all cycles are at their start.
-/

namespace TemplateTree

open RenderM

variable {η α : Type}

/-- A cycle has at least one value. -/
structure Cycle (η : Type) where
  id : Nat
  values : List (Node η)
  name : Option String
  silent : Bool
  nonempty : values ≠ []

namespace Cycle

def node (k : Cycle η) : Node η :=
  .cycle k.id k.values k.name k.silent

/-- The value for a turn, the turns being counted from 0. -/
def value (k : Cycle η) (j : Nat) : Node η :=
  k.values.get ⟨j % k.values.length, Nat.mod_lt j (List.length_pos_of_ne_nil k.nonempty)⟩

/-- What a turn comes to once its value has rendered. Only a result moves the cycle on and is bound to
its name. -/
def turn (k : Cycle η) (j : Nat) : Except Error (Val η) × Context η → Except Error (Val η) × Context η
  | (.error e, c) => (.error e, c)
  | (.ok v, c) =>
    let c := c.setPosition k.id ((j + 1) % k.values.length)
    (.ok (if k.silent then .list [] else v), k.name.elim c (c.set · v))

end Cycle

/-! ## Positions -/

theorem Positions.get_cons (k j : Nat) (p : Positions) (x : Nat) :
    Positions.get ((k, j) :: p) x = if k = x then j else Positions.get p x := by
  unfold get
  rw [List.lookup_cons]
  by_cases hx : k = x
  · simp [hx]
  · have hne : (x == k) = false := beq_false_of_ne (Ne.symm hx)
    rw [hne, if_neg hx]

theorem Positions.get_set (p : Positions) (id i x : Nat) :
    (p.set id i).get x = if id = x then i else p.get x := by
  induction p with
  | nil => exact get_cons id i [] x
  | cons e p ih =>
    obtain ⟨k, j⟩ := e
    by_cases hk : k = id
    · subst hk
      rw [set, if_pos rfl, get_cons, get_cons]
      split <;> rfl
    · rw [set, if_neg hk, get_cons, get_cons, ih]
      by_cases hx : k = x
      · subst hx
        rw [if_pos rfl, if_pos rfl, if_neg (Ne.symm hk)]
      · rw [if_neg hx, if_neg hx]

namespace Context

theorem position_setPosition (c : Context η) (id i x : Nat) :
    (c.setPosition id i).position x = if id = x then i else c.position x :=
  Positions.get_set _ _ _ _

theorem render_set (c : Context η) (name : String) (v : Val η) : (c.set name v).render = c.render := by
  obtain ⟨globals, stack, render, saved, depth, made⟩ := c
  cases stack <;> rfl

theorem position_of_render {c d : Context η} (h : d.render = c.render) (id : Nat) :
    d.position id = c.position id := by
  rw [position, h, position]

theorem position_set (c : Context η) (name : String) (v : Val η) (id : Nat) :
    (c.set name v).position id = c.position id :=
  position_of_render (c.render_set name v) id

end Context

namespace Cycle

theorem value_mod (k : Cycle η) (j : Nat) : k.value (j % k.values.length) = k.value j := by
  simp only [value, Nat.mod_mod]

theorem position_turn (k : Cycle η) (j : Nat) (o : Except Error (Val η) × Context η) (x : Nat) :
    (k.turn j o).2.position x =
      if k.id = x ∧ o.1.isOk then (j + 1) % k.values.length else o.2.position x := by
  obtain ⟨_ | v, c⟩ := o
  · simp [turn, Except.isOk, Except.toBool]
  · have hrender : (k.turn j (.ok v, c)).2.render =
        (c.setPosition k.id ((j + 1) % k.values.length)).render := by
      unfold turn
      cases k.name with
      | none => rfl
      | some name => exact Context.render_set _ name v
    rw [Context.position_of_render hrender, Context.position_setPosition]
    simp [Except.isOk, Except.toBool]

end Cycle

theorem renderCycle_apply (render : Renderer η) (k : Cycle η) {j : Nat} {c : Context η}
    (hj : c.position k.id = j % k.values.length) :
    renderCycle render k.id k.values k.name k.silent c = (render (k.value j) c).map (k.turn j) := by
  have hvalue : k.values[j % k.values.length]? = some (k.value j) := List.getElem?_eq_getElem _
  unfold renderCycle
  rw [RenderM.get_bind_apply]
  simp only [hj, Nat.mod_mod, hvalue, Nat.mod_add_mod]
  rw [RenderM.bind_apply]
  cases render (k.value j) c with
  | none => rfl
  | some o =>
    obtain ⟨_ | v, d⟩ := o
    · rfl
    · simp only [Option.map_some, Cycle.turn]
      cases k.name <;> rfl

/-! ## Renders without turns -/

def Node.isOther (ids : List Nat) : Node η → Bool
  | .cycle id _ _ _ => !ids.contains id
  | _ => true

/-- Renders a node as long as none of these cycles renders in its frame. Those in included templates
have other frames. -/
def renderSparing (engine : Engine Empty) (ids : List Nat) : Nat → Renderer Empty
  | 0, _ => exhausted
  | depth + 1, n =>
    if n.isOther ids then renderStepVia engine (renderSparing engine ids depth) (renderNode engine depth) n
    else exhausted

/-- Rendered in this context, a node lets none of these cycles render in the same frame. -/
def Engine.Spares (engine : Engine Empty) (ids : List Nat) (n : Node Empty) (c : Context Empty) : Prop :=
  ∃ depth, (renderSparing engine ids depth n c).isSome

section
variable (engine : Engine Empty) (ids : List Nat)

theorem renderSparing_extends (depth : Nat) (n : Node Empty) :
    Extends (renderSparing engine ids depth n) (renderNode engine depth n) := by
  induction depth generalizing n with
  | zero => exact .refl _
  | succ depth ih =>
    rw [renderSparing, renderNode, ← renderStepVia_self]
    split
    · exact renderStepVia_extends ih (fun p => p.elim) (fun _ => .refl _) n
    · intro c o ho
      cases ho

theorem restores_renderSparing (depth : Nat) (n : Node Empty) :
    Restores n.bound (renderSparing engine ids depth n) := by
  intro start hstart
  refine keeps_of_outcome fun c r c' hc hr => ?_
  have hkeeps : Keeps _ _ (renderNode engine depth n) := restores_renderNode engine depth n start hstart
  exact hkeeps.outcome hc (renderSparing_extends engine ids depth n c _ hr)

theorem renderSparing_keeps (position : Nat → Nat) : ∀ (depth : Nat) (n : Node Empty),
    AgreeUnder (fun c => ∀ id ∈ ids, c.position id = position id) (renderSparing engine ids depth)
      (renderSparing engine ids depth) n
  | 0, _ => fun _ _ _ => .exhausted trivial
  | depth + 1, n => by
    have hI : Sheltered (fun _ => True) fun c : Context Empty => ∀ id ∈ ids, c.position id = position id :=
      { queues := fun _ _ _ _ _ _ _ _ _ _ _ => trivial
        parts := fun _ _ _ _ hc _ hrender id hid => (Context.position_of_render hrender id).trans (hc id hid)
        push := fun _ hc => hc
        bindBlock := fun c v hc id hid => (c.position_set _ v id).trans (hc id hid)
        mapBlocks := fun _ _ hc _ => hc }
    unfold AgreeUnder
    rw [renderSparing]
    split
    · next hn =>
      refine renderStepVia_under hI (restores_renderSparing engine ids depth)
        (fun m _ => renderSparing_keeps position depth m) ?_
        (restores_renderNode engine depth) (fun _ _ => trivial) ?_
      · exact fun c x v hc id hid => (c.position_set x v id).trans (hc id hid)
      · rintro k values name silent rfl c i hc id hid
        have hne : k ≠ id := by
          rintro rfl
          simp [Node.isOther, hid] at hn
        rw [Context.position_setPosition, if_neg hne, hc id hid]
    · exact fun _ _ _ => .exhausted trivial

theorem renderSparing_agrees : ∀ (depth : Nat) {n : Node Empty}, n.Throughout (·.isOther ids) →
    AgreeUnder (Context.Queues (·.isOther ids)) (renderNode engine depth) (renderSparing engine ids depth) n
  | 0, _, _ => fun _ _ _ => .exhausted trivial
  | depth + 1, n, hn => by
    have hI : Sheltered (·.isOther ids) (Context.Queues (η := Empty) (·.isOther ids)) :=
      { queues := fun _ hc => hc
        parts := fun _ _ _ _ hc _ hrender => hc.of_render hrender
        push := fun _ hc => hc
        bindBlock := fun c v hc => hc.of_queue? (Context.queue?_set c _ · v)
        mapBlocks := fun _ _ _ hc => hc }
    unfold AgreeUnder
    rw [renderSparing, renderNode, ← renderStepVia_self, if_pos hn.here]
    exact renderStepVia_under hI (restores_renderNode engine depth)
      (fun m hm => renderSparing_agrees depth hm)
      (fun c x v hc => hc.of_queue? (Context.queue?_set c x · v)) (restores_renderNode engine depth) hn
      fun _ _ _ _ _ _ _ hc => hc

end

theorem renderOne_of_renderNode {engine : Engine Empty} {depth : Nat} {n : Node Empty} {c : Context Empty}
    {o : Except Error (Val Empty) × Context Empty} (h : renderNode engine depth n c = some o) :
    engine.renderOne n c = some o := by
  obtain ⟨r, c', hr⟩ := exists_renderOne engine n c
  have hagree : Agree (renderNode engine (engine.depthFor c [n]) n) (renderNode engine depth n) :=
    .of_extends (renderNode_extends engine (Nat.le_max_left _ depth) n)
      (renderNode_extends engine (Nat.le_max_right ..) n)
  rw [hr, hagree c _ _ hr h]

namespace Engine.Spares

variable {engine : Engine Empty} {ids : List Nat} {n : Node Empty} {c : Context Empty}

theorem of_throughout (hn : n.Throughout (·.isOther ids)) (hqueues : c.Queues (·.isOther ids)) :
    engine.Spares ids n c := by
  obtain ⟨r, c', hr⟩ := exists_renderOne engine n c
  refine ⟨engine.depthFor c [n], ?_⟩
  have halike := renderSparing_agrees engine ids (engine.depthFor c [n]) hn c c ⟨rfl, hqueues⟩
  rw [← halike.eq, ← Engine.renderOne, hr]
  rfl

theorem inclusion (name : String) (only : Bool) : engine.Spares ids (.inclusion (.name name) [] only) c := by
  obtain ⟨r, c', hr⟩ := exists_renderOne engine (.inclusion (.name name) [] only) c
  refine ⟨engine.depthFor c [.inclusion (.name name) [] only], ?_⟩
  unfold Engine.renderOne at hr
  generalize engine.depthFor c [.inclusion (.name name) [] only] = depth at hr ⊢
  cases depth with
  | zero => cases hr
  | succ depth =>
    -- with no variables to render, all that renders is the template, and that renders as it always does
    have hsame (render : Renderer Empty) :
        renderInclusionVia engine (resolve render) render (renderNode engine depth) (.name name) [] only =
          renderInclusion engine (resolve (renderNode engine depth)) (renderNode engine depth)
            (.name name) [] only := by
      rw [← renderInclusionVia_self]
      simp only [renderInclusionVia, findTarget, renderExtras]
    show (renderInclusionVia engine (resolve (renderSparing engine ids depth))
      (renderSparing engine ids depth) (renderNode engine depth) (.name name) [] only c).isSome
    rw [hsame]
    exact Option.isSome_iff_exists.mpr ⟨_, hr⟩

theorem position (h : engine.Spares ids n c) {o : Except Error (Val Empty) × Context Empty}
    (ho : engine.renderOne n c = some o) {id : Nat} (hid : id ∈ ids) : o.2.position id = c.position id := by
  obtain ⟨depth, hdepth⟩ := h
  obtain ⟨p, hp⟩ := Option.isSome_iff_exists.mp hdepth
  have hnode := renderOne_of_renderNode (renderSparing_extends engine ids depth n c p hp)
  obtain rfl := Option.some.inj (ho.symm.trans hnode)
  have hkeeps : Keeps _ _ (renderSparing engine ids depth n) :=
    renderSparing_keeps engine ids c.position depth n
  exact (hkeeps.outcome (fun _ _ => rfl) hp).2 id hid

end Engine.Spares

/-! ## Templates in between -/

/-- What a template renders does not depend on what is queued around it, nor on where the cycles around
it are. -/
theorem renderTemplate_frame (engine : Engine Empty) (depth : Nat) (t : Template Empty) (c : Context Empty)
    (frame : RenderFrame Empty) :
    renderTemplate engine (renderNode engine depth) t { c with render := frame } =
      (renderTemplate engine (renderNode engine depth) t c).map fun o =>
        (o.1, { o.2 with render := frame }) := by
  have hrestores := restores_renderNode engine depth
  have hrender := Overriding.renderNode_related engine depth
  rw [renderTemplate_apply hrestores, renderTemplate_apply hrestores]
  -- without queues and without what is saved, both start in the same context
  have hc := map_of_alike (Overriding.renderChain_related hrender engine [] t (c := c.enter) rfl)
  have hd := map_of_alike
    (Overriding.renderChain_related hrender engine [] t (c := Context.enter { c with render := frame }) rfl)
  have hbare := hd.symm.trans hc
  let leave (o : Except Error (Val Empty) × Context Empty) : Except Error (Val Empty) × Context Empty :=
    (o.1, { o.2 with render := frame, saved := c.saved })
  have hleave := congrArg (Option.map leave) hbare
  rw [Option.map_map, Option.map_map] at hleave
  rw [Option.map_map]
  exact hleave

theorem renderTemplate_root {engine : Engine Empty} {t : Template Empty} {chain : Chain Empty}
    (h : engine.chain t = .ok chain) (depth : Nat) (c : Context Empty) :
    renderTemplate engine (renderNode engine depth) t c =
      (inTemplate chain.root.name (renderFragment engine (renderNode engine depth) chain.root.contents)
        (queueBlocks c.enter chain.templates)).map fun o =>
          (o.1, { o.2 with render := c.render, saved := c.saved }) := by
  rw [renderTemplate_apply (restores_renderNode engine depth), renderChain_of_ok h]

theorem cycles_queueBlocks : ∀ (ts : List (Template η)) (c : Context η),
    (queueBlocks c ts).render.cycles = c.render.cycles
  | [], _ => rfl
  | t :: ts, c => cycles_queueBlocks ts (c.addLevel t.blocks)

/-! ## Turns in one frame -/

theorem renderOne_cycle (engine : Engine Empty) (k : Cycle Empty) {j : Nat} {c : Context Empty}
    (hj : c.position k.id = j % k.values.length) :
    ∃ o, engine.renderOne (k.value j) c = some o ∧ engine.renderOne k.node c = some (k.turn j o) := by
  obtain ⟨r, c', hr⟩ := exists_renderOne engine k.node c
  have hnode := hr
  unfold Engine.renderOne at hnode
  generalize engine.depthFor c [k.node] = depth at hnode
  cases depth with
  | zero => cases hnode
  | succ depth =>
    have hturn : (renderNode engine depth (k.value j) c).map (k.turn j) = some (r, c') := by
      rw [← renderCycle_apply (renderNode engine depth) k hj]
      exact hnode
    obtain ⟨o, ho, heq⟩ := Option.map_eq_some_iff.mp hturn
    exact ⟨o, renderOne_of_renderNode ho, heq ▸ hr⟩

/-- What renders in a frame: a cycle, a template by itself, or another node, such as an inclusion. -/
inductive Part (η : Type) where
  | cycle (k : Cycle η)
  | template (t : Template η)
  | node (n : Node η)

namespace Part

def render (engine : Engine Empty) : Part Empty → Context Empty → Outcome Empty (Val Empty)
  | .cycle k, c => engine.renderOne k.node c
  | .template t, c => engine.renderWith t c
  | .node n, c => engine.renderOne n c

/-- The ids of the cycles that have taken a turn: a cycle has if it did not fail. -/
def turns : Part Empty → Except Error (Val Empty) → List Nat
  | .cycle k, .ok _ => [k.id]
  | _, _ => []

/-- Of these cycles none renders but the part itself, and that one's next value spares them all. -/
def Spares (engine : Engine Empty) (cycles : List (Cycle Empty)) (c : Context Empty) : Part Empty → Prop
  | .cycle k => k ∈ cycles ∧ engine.Spares (cycles.map Cycle.id) (k.value (c.position k.id)) c
  | .template _ => True
  | .node n => engine.Spares (cycles.map Cycle.id) n c

end Part

/-- Parts that render one after another, each in the context that the one before has left: the turns
taken, the last one first, and the context behind them. -/
inductive Turns (engine : Engine Empty) (cycles : List (Cycle Empty)) (start : Context Empty) :
    List Nat → Context Empty → Prop
  | start : Turns engine cycles start [] start
  | part {past : List Nat} {c c' : Context Empty} {p : Part Empty} {r : Except Error (Val Empty)}
      (before : Turns engine cycles start past c) (spares : p.Spares engine cycles c)
      (renders : p.render engine c = some (r, c')) : Turns engine cycles start (p.turns r ++ past) c'

def Context.Counts (cycles : List (Cycle Empty)) (past : List Nat) (c : Context Empty) : Prop :=
  ∀ k ∈ cycles, c.position k.id = past.count k.id % k.values.length

section
variable {engine : Engine Empty} {cycles : List (Cycle Empty)} {past : List Nat} {c : Context Empty}

theorem position_of_template {t : Template Empty} {o : Except Error (Val Empty) × Context Empty}
    (h : engine.renderWith t c = some o) (id : Nat) : o.2.position id = c.position id :=
  Context.position_of_render (renderTemplate_restored (restores_renderNode engine _) h).2.2 id

theorem Context.Counts.of_position (h : c.Counts cycles past) {c' : Context Empty}
    (hposition : ∀ id ∈ cycles.map Cycle.id, c'.position id = c.position id) : c'.Counts cycles past :=
  fun k hk => (hposition k.id (List.mem_map_of_mem hk)).trans (h k hk)

theorem position_of_turn {k : Cycle Empty} {j : Nat}
    (hspares : engine.Spares (cycles.map Cycle.id) (k.value j) c)
    {o : Except Error (Val Empty) × Context Empty}
    (ho : engine.renderOne (k.value j) c = some o) {x : Cycle Empty}
    (hx : x ∈ cycles) : (k.turn j o).2.position x.id =
      if k.id = x.id ∧ o.1.isOk then (j + 1) % k.values.length else c.position x.id := by
  rw [k.position_turn, hspares.position ho (List.mem_map_of_mem hx)]

theorem Context.Counts.part (hdistinct : (cycles.map Cycle.id).Nodup)
    (h : c.Counts cycles past) {p : Part Empty} (hspares : p.Spares engine cycles c)
    {r : Except Error (Val Empty)} {c' : Context Empty} (hr : p.render engine c = some (r, c')) :
    c'.Counts cycles (p.turns r ++ past) := by
  cases p with
  | cycle k =>
    obtain ⟨hk, hvalue⟩ := hspares
    rw [h k hk, k.value_mod] at hvalue
    obtain ⟨o, ho, hnode⟩ := renderOne_cycle engine k (h k hk)
    have hturn : k.turn (past.count k.id) o = (r, c') := Option.some.inj (hnode.symm.trans hr)
    intro x hx
    have hposition := position_of_turn hvalue ho hx
    rw [hturn] at hposition
    obtain ⟨e | v, d⟩ := o
    · obtain ⟨rfl, -⟩ := Prod.mk.inj hturn
      have hfailed : ¬ (k.id = x.id ∧ (Except.error e : Except Error (Val Empty)).isOk) :=
        fun h => nomatch h.2
      rw [hposition, if_neg hfailed]
      exact h x hx
    · obtain ⟨rfl, -⟩ := Prod.mk.inj hturn
      show c'.position x.id = (k.id :: past).count x.id % x.values.length
      -- no other cycle has this id, so the one that has moved is the one that is counted up
      by_cases hid : k.id = x.id
      · obtain rfl := List.inj_on_of_nodup_map hdistinct hk hx hid
        rw [hposition, if_pos ⟨rfl, rfl⟩, List.count_cons_self]
      · rw [hposition, if_neg (fun h => hid h.1), List.count_cons_of_ne hid]
        exact h x hx
  | template t => exact h.of_position fun id _ => position_of_template hr id
  | node n => exact h.of_position fun id hid => hspares.position hr hid

theorem Turns.counts {start : Context Empty} (hdistinct : (cycles.map Cycle.id).Nodup)
    (hstart : start.render.cycles = []) (h : Turns engine cycles start past c) : c.Counts cycles past := by
  induction h with
  | start =>
    intro k _
    rw [Context.position, hstart, List.count_nil, Nat.zero_mod]
    rfl
  | part _ hspares hr ih => exact ih.part hdistinct hspares hr

end

/-- After `j` turns a cycle stands at its value `j`, counted around, and with the next turn it renders
that value. -/
structure Cycle.Stands (engine : Engine Empty) (cycles : List (Cycle Empty))
    (c : Context Empty) (k : Cycle Empty) (j : Nat) : Prop where
  position : c.position k.id = j % k.values.length
  bounded : c.position k.id < k.values.length
  next : engine.Spares (cycles.map Cycle.id) (k.value j) c →
    ∃ o, engine.renderOne (k.value j) c = some o ∧ engine.renderOne k.node c = some (k.turn j o) ∧
      ∀ x ∈ cycles, (k.turn j o).2.position x.id =
        if k.id = x.id ∧ o.1.isOk then (j + 1) % k.values.length else c.position x.id

/-- A template renders in a frame of its own, in which all cycles are at their start, and the frame
around it is no matter to it. -/
structure RendersApart (engine : Engine Empty) (depth : Nat) (t : Template Empty)
    (c : Context Empty) : Prop where
  around : ∀ frame, renderTemplate engine (renderNode engine depth) t { c with render := frame } =
    (renderTemplate engine (renderNode engine depth) t c).map fun o => (o.1, { o.2 with render := frame })
  start : ∀ chain, engine.chain t = .ok chain → (queueBlocks c.enter chain.templates).render.cycles = []
  root : ∀ chain, engine.chain t = .ok chain → renderTemplate engine (renderNode engine depth) t c =
    (inTemplate chain.root.name (renderFragment engine (renderNode engine depth) chain.root.contents)
      (queueBlocks c.enter chain.templates)).map fun o =>
        (o.1, { o.2 with render := c.render, saved := c.saved })

/-- Cycles that render in one frame, and never inside of each other, take turns independently of each
other, whatever renders in between. -/
theorem cycles_take_turns (engine : Engine Empty) {cycles : List (Cycle Empty)}
    (hdistinct : (cycles.map Cycle.id).Nodup) {start : Context Empty} (hstart : start.render.cycles = []) :
    (∀ past c, Turns engine cycles start past c →
      (∀ k ∈ cycles, k.Stands engine cycles c (past.count k.id)) ∧
      (∀ n, engine.Spares (cycles.map Cycle.id) n c →
        ∃ o, engine.renderOne n c = some o ∧ ∀ k ∈ cycles, o.2.position k.id = c.position k.id) ∧
      ∀ t, ∃ o, engine.renderWith t c = some o ∧ ∀ id, o.2.position id = c.position id) ∧
    (∀ depth t c, RendersApart engine depth t c) ∧
    ∀ n c, n.Throughout (·.isOther (cycles.map Cycle.id)) → c.Queues (·.isOther (cycles.map Cycle.id)) →
      engine.Spares (cycles.map Cycle.id) n c := by
  refine ⟨fun past c hturns => ⟨fun k hk => ?_, fun n hn => ?_, fun t => ?_⟩, fun depth t c => ?_, ?_⟩
  · have hposition := hturns.counts hdistinct hstart k hk
    obtain ⟨o, ho, hnode⟩ := renderOne_cycle engine k hposition
    exact
      { position := hposition
        bounded := hposition ▸ Nat.mod_lt _ (List.length_pos_of_ne_nil k.nonempty)
        next := fun hspares => ⟨o, ho, hnode, fun x hx => position_of_turn hspares ho hx⟩ }
  · obtain ⟨r, c', hr⟩ := exists_renderOne engine n c
    exact ⟨_, hr, fun k hk => hn.position hr (List.mem_map_of_mem hk)⟩
  · obtain ⟨r, c', hr⟩ := exists_renderWith engine t c
    exact ⟨_, hr, position_of_template hr⟩
  · exact
      { around := renderTemplate_frame engine depth t c
        start := fun chain _ => cycles_queueBlocks chain.templates c.enter
        root := fun chain h => renderTemplate_root h depth c }
  · exact fun n c hn hqueues => .of_throughout hn hqueues

/-- The letters turn twice, around the inclusion of a part with the same letters, and the rows once
without being seen. -/
theorem letters_turn_around_inclusion :
    let letters : Cycle Empty :=
      ⟨2, [.literal (.string "a"), .literal (.string "b"), .literal (.string "c")], none,
        false, List.cons_ne_nil _ _⟩
    let rows : Cycle Empty :=
      ⟨1, [.literal (.string "odd"), .literal (.string "even")], some "row", true, List.cons_ne_nil _ _⟩
    let part : Template Empty := ⟨"part", none, [letters.node], [], rfl⟩
    let engine : Engine Empty := Engine.html.add part
    let cycles := [rows, letters]
    ∃ c, Turns engine cycles .empty [1, 2, 2] c ∧ letters.Stands engine cycles c 2 ∧
      rows.Stands engine cycles c 1 := by
  intro letters rows part engine cycles
  have hletters : letters ∈ cycles := List.mem_cons_of_mem _ (List.mem_singleton.mpr rfl)
  have hrows : rows ∈ cycles := List.mem_cons_self ..
  let c₁ : Context Empty := ⟨[], [], ⟨none, [(2, 1)]⟩, [], 0, 0⟩
  let c₂ : Context Empty := { c₁ with made := 1 }
  let c₃ : Context Empty := ⟨[], [], ⟨none, [(2, 2)]⟩, [], 0, 1⟩
  let c₄ : Context Empty := ⟨[("row", .string "odd")], [], ⟨none, [(2, 2), (1, 1)]⟩, [], 0, 1⟩
  have h₁ : Turns engine cycles .empty [2] c₁ :=
    .part (p := .cycle letters) (r := .ok (.string "a")) .start ⟨hletters, 1, rfl⟩ rfl
  have h₂ : Turns engine cycles .empty [2] c₂ :=
    .part (p := .node (.inclusion (.name "part") [] false)) h₁ (.inclusion "part" false) rfl
  have h₃ : Turns engine cycles .empty [2, 2] c₃ :=
    .part (p := .cycle letters) (r := .ok (.string "b")) h₂ ⟨hletters, 1, rfl⟩ rfl
  have h₄ : Turns engine cycles .empty [1, 2, 2] c₄ :=
    .part (p := .cycle rows) (r := .ok (.list [])) h₃ ⟨hrows, 1, rfl⟩ rfl
  have hstands := ((cycles_take_turns engine (by decide) rfl).1 _ _ h₄).1
  exact ⟨c₄, h₄, hstands letters hletters, hstands rows hrows⟩

/-- The value of the rows is a block and no cycle, but a cycle is queued for the block and moves on with
the rows. -/
theorem queued_cycle_moves_on :
    let letters : Cycle Empty :=
      ⟨2, [.literal (.string "a"), .literal (.string "b")], none, false, List.cons_ne_nil _ _⟩
    let rows : Cycle Empty := ⟨1, [.block (.mk "x" [])], none, false, List.cons_ne_nil _ _⟩
    let overriding : Block Empty := .mk "x" [letters.node]
    let page : Template Empty := ⟨"page", some "base", [.block overriding], [("x", overriding)], rfl⟩
    let base : Template Empty := ⟨"base", none, [rows.node, .block (.mk "x" [])], [("x", .mk "x" [])], rfl⟩
    let c := queueBlocks Context.empty.enter [page, base]
    ([rows, letters].map Cycle.id).Nodup ∧
    (∀ k ∈ [rows, letters], ∀ n ∈ k.values, ∀ ids, n.Throughout (·.isOther ids)) ∧
    c.render.cycles = [] ∧ c.position letters.id = 0 ∧
    (Engine.html.renderOne rows.node c).map (fun o => (o.1.isOk, o.2.position letters.id)) =
      some (true, 1) := by
  intro letters rows overriding page base c
  have hliteral (s : String) (ids : List Nat) :
      (Node.literal (.string s) : Node Empty).Throughout (·.isOther ids) :=
    Node.throughout_iff.mpr ⟨rfl, List.forall_mem_nil _⟩
  have hblock (ids : List Nat) : (Node.block (.mk "x" []) : Node Empty).Throughout (·.isOther ids) :=
    Node.throughout_iff.mpr ⟨rfl, List.forall_mem_nil _⟩
  refine ⟨by decide, ?_, rfl, rfl, by decide +kernel⟩
  refine List.forall_mem_cons.mpr ⟨List.forall_mem_singleton.mpr hblock, List.forall_mem_singleton.mpr ?_⟩
  exact List.forall_mem_cons.mpr ⟨hliteral "a", List.forall_mem_singleton.mpr (hliteral "b")⟩

end TemplateTree
