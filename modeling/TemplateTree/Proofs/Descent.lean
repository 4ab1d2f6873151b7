import Mathlib.Algebra.BigOperators.Finprod
import TemplateTree.Proofs.Extension
import TemplateTree.Proofs.Termination

/-!
# Renders go down

Rendering recurs on smaller nodes, on nodes of definitions that have left their queue, and on nodes of
included templates, one inclusion deeper. So each call is lower than the one it comes from, in a
lexicographic measure. A renderer that recurs along the measure, and not otherwise, has the outcomes of
all renders that go deep enough.
-/

namespace TemplateTree

variable {η : Type}

/-! ## The measure -/

/-- The number of definitions in all queues of the innermost template. -/
noncomputable def Context.queued (c : Context η) : Nat :=
  ∑ᶠ name, ((c.queue? name).getD []).length

/-- What there is to go down: inclusions, then definitions, then the node itself. -/
noncomputable def Engine.descent (engine : Engine η) (n : Node η) (c : Context η) : Nat × Nat × Nat :=
  (engine.maxIncludeDepth - c.depth, c.queued, sizeOf n)

abbrev Lower : Nat × Nat × Nat → Nat × Nat × Nat → Prop :=
  Prod.Lex (· < ·) (Prod.Lex (· < ·) (· < ·))

/-- Renders without a bound on the depth, with `active` inclusions under way. A call that is not lower
has no outcome, nor has one that comes from an inclusion when as many as allowed are under way. -/
noncomputable def renderDown [HostCode η] (engine : Engine η) (active : Nat)
    (n : Node η) : RenderM η (Val η) :=
  fun c => renderStepVia engine
    (fun m d =>
      if _h : Lower (engine.descent m d) (engine.descent n c) then renderDown engine active m d else none)
    (fun m d =>
      if _h : Lower (engine.descent m d) (engine.descent n c) ∧ active < engine.maxIncludeDepth then
        renderDown engine (active + 1) m d
      else none) n c
termination_by c => engine.descent n c
decreasing_by
  · exact _h
  · exact _h.1

/-! ## Sizes and queues -/

theorem Node.sizeOf_lt_of_child {n m : Node η} (h : m ∈ n.children) : sizeOf m < sizeOf n := by
  have hentries {es : List (String × Node η)} (hm : m ∈ es.map (·.2)) : sizeOf m < sizeOf es := by
    obtain ⟨⟨name, m⟩, he, rfl⟩ := List.mem_map.mp hm
    have hlt := List.sizeOf_lt_of_mem he
    simp at hlt ⊢
    omega
  cases n with
  | element tag attributes contents =>
    rw [element.sizeOf_spec]
    rcases List.mem_append.mp h with h | h
    · have := hentries h
      omega
    · have := List.sizeOf_lt_of_mem h
      omega
  | loop vars list contents fallback =>
    rw [loop.sizeOf_spec]
    rcases List.mem_append.mp h with h | h <;> have := List.sizeOf_lt_of_mem h <;> omega
  | cond test contents fallback =>
    rw [cond.sizeOf_spec]
    rcases List.mem_append.mp h with h | h <;> have := List.sizeOf_lt_of_mem h <;> omega
  | block b =>
    obtain ⟨name, contents⟩ := b
    have : sizeOf m < sizeOf contents := List.sizeOf_lt_of_mem h
    rw [block.sizeOf_spec, Block.mk.sizeOf_spec]
    omega
  | inclusion target extra only =>
    have := hentries h
    rw [inclusion.sizeOf_spec]
    omega
  | cycle id values name silent =>
    have : sizeOf m < sizeOf values := List.sizeOf_lt_of_mem h
    rw [cycle.sizeOf_spec]
    omega
  | empty contents =>
    have : sizeOf m < sizeOf contents := List.sizeOf_lt_of_mem h
    rw [empty.sizeOf_spec]
    omega
  | otherwise contents =>
    have : sizeOf m < sizeOf contents := List.sizeOf_lt_of_mem h
    rw [otherwise.sizeOf_spec]
    omega
  | _ => cases h

namespace Context

theorem finite_queued (c : Context η) :
    (Function.support fun name => ((c.queue? name).getD []).length).Finite := by
  cases hblocks : c.render.blocks with
  | none => simp [queue?, hblocks]
  | some bs =>
    refine (List.finite_toSet (bs.map (·.1))).subset fun name hname => ?_
    have hqueue : (bs.queue name).length ≠ 0 := by simpa [queue?, hblocks] using hname
    cases hget : bs.get? name with
    | none => simp [Blocks.queue, hget] at hqueue
    | some q => exact List.mem_map.mpr ⟨_, Dict.mem_of_get? hget, rfl⟩

theorem queued_pop {c : Context η} {name : String} {b : Block η} {rest : List (Block η)}
    (h : c.queue? name = some (b :: rest)) : c.queued = (c.mapBlocks (·.pop name)).queued + 1 := by
  have hsplit : ∀ x, ((c.queue? x).getD []).length =
      (((c.mapBlocks (·.pop name)).queue? x).getD []).length + if x = name then 1 else 0 := by
    intro x
    rw [queue?_pop h]
    by_cases hx : x = name
    · subst hx
      simp [h]
    · simp [hx, Ne.symm hx]
  have hone : ∑ᶠ x, (if x = name then 1 else 0) = 1 := by
    rw [finsum_eq_single _ name fun x hx => if_neg hx, if_pos rfl]
  unfold queued
  rw [finsum_congr hsplit, finsum_add_distrib (finite_queued _), hone]
  exact (Set.finite_singleton name).subset fun x hx => by simpa using hx

end Context

/-! ## Descending -/

/-- As many inclusions are under way as the context counts, and `q` definitions are queued. -/
structure Context.Stage (active q : Nat) (c : Context η) : Prop where
  depth : c.depth = active
  queued : c.queued = q

theorem stable_stage {active q : Nat} : Stable (Context.Stage (η := η) active q) where
  restored := by
    intro c d hc hd
    refine ⟨hd.depth.trans hc.depth, ?_⟩
    rw [← hc.queued, Context.queued, Context.queued, funext hd.queue]
  push := fun c frame hc => ⟨hc.depth, hc.queued⟩

theorem RestoresFrom.congr {T : Prop} {G : Context η → Prop} {names : Set String}
    {α : Type} {x y : RenderM η α} (hG : Stable G) (heq : ∀ c, G c → x c = y c)
    (h : RestoresFrom T G names y) : RestoresFrom T G names x := by
  refine .of_alike hG fun c hc => ?_
  rw [heq c hc]
  exact h.alike hc

/-- Where the inclusions under way are counted right, nodes render to an end. -/
theorem restores_renderDown (engine : Engine Empty) (active q : Nat) (n : Node Empty) :
    RestoresFrom False (Context.Stage active q) n.bound (renderDown engine active n) := by
  -- at one stage the measure of the node is the same in all contexts, so one renderer serves them all
  let here := (engine.maxIncludeDepth - active, q, sizeOf n)
  let inside : Renderer Empty := fun m d =>
    if Lower (engine.descent m d) here then renderDown engine active m d else none
  let included : Renderer Empty := fun m d =>
    if Lower (engine.descent m d) here ∧ active < engine.maxIncludeDepth then
      renderDown engine (active + 1) m d
    else none
  have hstep : ∀ c, c.Stage active q →
      renderDown engine active n c = renderStepVia engine inside included n c := by
    intro c hc
    rw [renderDown, Engine.descent, hc.depth, hc.queued]
    rfl
  have hlower {a p : Nat} {m : Node Empty} {d : Context Empty} (hd : d.Stage a p)
      (h : Lower (engine.maxIncludeDepth - a, p, sizeOf m) here) : Lower (engine.descent m d) here := by
    rwa [Engine.descent, hd.depth, hd.queued]
  refine .congr stable_stage hstep (restores_renderStepVia stable_stage ?queues ?inclusions ?children)
  case queues =>
    intro c name definition rest hc hq
    have hpop := Context.queued_pop hq
    rw [hc.queued] at hpop
    refine ⟨Context.Stage active (q - 1), stable_stage, ⟨hc.depth, by omega⟩, fun m hm => ?_⟩
    have hdown : Lower (engine.maxIncludeDepth - active, q - 1, sizeOf m) here :=
      .right _ (.left _ _ (by omega))
    exact .congr stable_stage (fun d hd => if_pos (hlower hd hdown))
      (restores_renderDown engine active (q - 1) m)
  case inclusions =>
    intro c name t hc hdepth _ chain c' _ hstarts
    have hactive : active < engine.maxIncludeDepth := hc.depth ▸ hdepth
    have hdepth' : c'.depth = active + 1 := by rw [hstarts.depth, hc.depth]
    refine ⟨Context.Stage (active + 1) c'.queued, stable_stage, ⟨hdepth', rfl⟩, fun m hm => ?_⟩
    have hdown : Lower (engine.maxIncludeDepth - (active + 1), c'.queued, sizeOf m) here :=
      .left _ _ (by omega)
    exact .congr stable_stage (fun d hd => if_pos ⟨hlower hd hdown, hactive⟩)
      (restores_renderDown engine (active + 1) c'.queued m)
  case children =>
    intro m hm
    have hdown : Lower (engine.maxIncludeDepth - active, q, sizeOf m) here :=
      .right _ (.right _ (Node.sizeOf_lt_of_child hm))
    exact .congr stable_stage (fun d hd => if_pos (hlower hd hdown)) (restores_renderDown engine active q m)
termination_by (engine.maxIncludeDepth - active, q, sizeOf n)
decreasing_by all_goals assumption

/-- The recursion along the measure leads nowhere else than a render of bounded depth. -/
theorem renderDown_agree (engine : Engine Empty) : ∀ (depth active : Nat) (n : Node Empty),
    Agree (renderDown engine active n) (renderNode engine depth n)
  | 0, _, _ => by
    intro c o p _ hp
    rw [renderNode] at hp
    cases hp
  | depth + 1, active, n => by
    intro c o p ho hp
    rw [renderDown] at ho
    rw [renderNode, ← renderStepVia_self] at hp
    refine renderStepVia_agree (fun m d o p ho => ?_) (fun m d o p ho => ?_) n c o p ho hp
    · split at ho
      · exact renderDown_agree engine depth active m d o p ho
      · cases ho
    · split at ho
      · exact renderDown_agree engine depth (active + 1) m d o p ho
      · cases ho

/-! ## Templates -/

theorem exists_renderDown (engine : Engine Empty) (t : Template Empty)
    {c : Context Empty} (hc : c.depth = 0) :
    ∃ o, renderTemplate engine (renderDown engine 0) t c = some o := by
  have hroot : RootRestores False engine (renderDown engine 0) t c.depth := by
    intro chain c' _ hstarts
    exact ⟨Context.Stage 0 c'.queued, stable_stage, ⟨hstarts.depth.trans hc, rfl⟩,
      fun n _ => restores_renderDown engine 0 c'.queued n⟩
  have halike := renderTemplate_alike hroot
  cases hrender : renderTemplate engine (renderDown engine 0) t c with
  | some o => exact ⟨o, rfl⟩
  | none =>
    rw [hrender] at halike
    cases halike with
    | exhausted h => exact h.elim

/-- Without host code a template renders to an end, from which no greater depth leads elsewhere: the one
to which the recursion along the measure comes, with never more inclusions under way than are allowed.
-/
theorem render_descends_to_end (engine : Engine Empty) (t : Template Empty)
    (c : Context Empty) (hc : c.depth = 0) : ∃ o, renderTemplate engine (renderDown engine 0) t c = some o ∧
      ∀ depth, engine.depthForTemplate t ≤ depth →
        renderTemplate engine (renderNode engine depth) t c = some o := by
  obtain ⟨o, ho⟩ := exists_renderDown engine t hc
  obtain ⟨r, c', hrender⟩ := exists_renderWith engine t c
  obtain rfl : o = (r, c') :=
    renderTemplate_agree (renderDown_agree engine (engine.depthForTemplate t) 0) engine
      t c o (r, c') ho hrender
  refine ⟨(r, c'), ho, fun depth hdepth => ?_⟩
  exact renderTemplate_extends (renderNode_extends engine hdepth) engine t c (r, c') hrender

/-- A template that includes itself ends where no more inclusions are allowed. -/
theorem self_inclusion_ends :
    let t : Template Empty := ⟨"page", none, [.inclusion (.name "page") [] false], [], rfl⟩
    let engine : Engine Empty := { Engine.html.add t with maxIncludeDepth := 2 }
    ∃ e c, renderTemplate engine (renderDown engine 0) t Context.empty = some (.error e, c) ∧
      e.kind = .cyclicTemplate := by
  intro t engine
  obtain ⟨o, hdown, hnode⟩ := render_descends_to_end engine t Context.empty rfl
  obtain ⟨e, c, hlimit, hkind⟩ :
      ∃ e c, renderTemplate engine (renderNode engine (engine.depthForTemplate t)) t
      Context.empty = some (.error e, c) ∧ e.kind = .cyclicTemplate := ⟨_, _, rfl, rfl⟩
  obtain rfl := Option.some.inj ((hnode _ (Nat.le_refl _)).symm.trans hlimit)
  exact ⟨e, c, hdown, hkind⟩

end TemplateTree
