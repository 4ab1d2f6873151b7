import TemplateTree.Proofs.StaticResolution

/-!
# What `block.super` renders

A reading of inheritance in which no queue changes. Each node renders in a scope, which holds for each
block the definitions that the one being rendered overrides: a template starts with all definitions of
its chain, and inside of a definition those behind it are left. `block.super` renders the first of what
is left for its block. Every render does the same, inclusions and all; so inside of a definition
`block.super` renders the definition that this one overrides. But an included template has a scope of
its own, whatever `block` it sees: there the same `block.super` renders what the chain of the included
template defines under the name of the block.
-/

namespace TemplateTree

open RenderM

variable {η α : Type}

/-! ## Scopes -/

namespace Overriding

/-- For each block name, the definitions that are overridden where a node renders, the most derived one
first. -/
abbrev Scope (η : Type) := String → List (Block η)

def Scope.within (scope : Scope η) (name : String) (overridden : List (Block η)) : Scope η :=
  fun x => if name = x then overridden else scope x

def renderOperative (render : Scope η → Renderer η) (scope : Scope η) (b : Block η) :
    RenderM η (List (Val η)) :=
  match scope b.name with
  | [] => renderDefinition (render scope) b
  | definition :: overridden => renderDefinition (render (scope.within b.name overridden)) definition

def renderBlock (render : Scope η → Renderer η) (scope : Scope η) (b : Block η) : RenderM η (Val η) := do
  return .list (← inFrame [] (renderOperative render scope b))

def renderSuper (render : Scope η → Renderer η) (scope : Scope η) (b : Block η) : RenderM η (Val η) :=
  match scope b.name with
  | [] => return .list []
  | _ :: _ => renderBlock render scope b

/-- Renders a template in the scope of its own chain, wherever it is included. -/
def renderTemplate (engine : Engine η) (render : Scope η → Renderer η) (t : Template η) : RenderM η (Val η) :=
  bracket (update (·.enter)) (fun _ => leaveTemplate) (ofResult (engine.chain t) >>= fun chain =>
    inTemplate chain.root.name (renderFragment engine (render chain.definitions) chain.root.contents))

variable [HostCode η]

def call (render : Scope η → Renderer η) (scope : Scope η) (f : Callable η)
    (receiver : Val η) : RenderM η (Val η) :=
  match f with
  | .super b => renderSuper render scope b
  | .host p => HostCode.run (render scope) p receiver

def renderStep (engine : Engine η) (render : Scope η → Renderer η) (scope : Scope η) :
    Node η → RenderM η (Val η)
  | .literal v => return v
  | .text t => renderText (resolveBy (call render scope)) t
  | .var v => resolveBy (call render scope) v
  | .element tag attributes contents =>
    renderElement engine (resolveBy (call render scope)) (render scope) tag attributes contents
  | .loop vars list contents empty =>
    renderLoop (resolveBy (call render scope)) (render scope) vars list contents empty
  | .cond test contents otherwise =>
    renderCond (resolveBy (call render scope)) (render scope) test contents otherwise
  | .block b => renderBlock render scope b
  | .inclusion target extra only =>
    renderInclusionBy engine (resolveBy (call render scope)) (render scope)
      (renderTemplate engine render) target extra only
  | .cycle id values name silent => renderCycle (render scope) id values name silent
  | .doctype version => renderDoctype engine version
  | .empty _ | .otherwise _ => return .list []
  | .host p => HostCode.run (render scope) p .none

def renderNode (engine : Engine η) : Nat → Scope η → Renderer η
  | 0, _, _ => exhausted
  | depth + 1, scope, n => renderStep engine (renderNode engine depth) scope n

end Overriding

/-! ## Contexts without queues -/

namespace Context

/-- The context with no queues, and with other frames saved below. -/
def bare (c : Context η) (saved : List (RenderFrame η)) : Context η :=
  { c.withoutBlocks with saved := saved }

theorem bare_set (c : Context η) (saved : List (RenderFrame η)) (name : String) (v : Val η) :
    (c.set name v).bare saved = (c.bare saved).set name v := by
  obtain ⟨globals, stack, render, _, depth, made⟩ := c
  cases stack <;> rfl

theorem bare_pop? {c c' : Context η} {f : Dict (Val η)} (h : c.pop? = some (f, c'))
    (saved : List (RenderFrame η)) : (c.bare saved).pop? = some (f, c'.bare saved) := by
  obtain ⟨globals, stack, render, _, depth, made⟩ := c
  cases stack with
  | nil => cases h
  | cons frame stack =>
    obtain ⟨rfl, rfl⟩ := Prod.mk.inj (Option.some.inj h)
    rfl

theorem bare_queueBlocks (saved : List (RenderFrame η)) : ∀ (ts : List (Template η)) (c : Context η),
    (queueBlocks c ts).bare saved = c.bare saved
  | [], _ => rfl
  | t :: ts, c => bare_queueBlocks saved ts (c.addLevel t.blocks)

end Context

namespace Overriding

/-- The queues of the one context are the scope in which the other one has none. -/
structure Related (scope : Scope η) (saved : List (RenderFrame η)) (c d : Context η) : Prop where
  bare : d = c.bare saved
  queue : ∀ x, (c.queue? x).getD [] = scope x

section
variable {scope : Scope η} {saved : List (RenderFrame η)} {c : Context η}

theorem Related.of_restored (h : ∀ x, (c.queue? x).getD [] = scope x) {c' : Context η}
    (hqueue : ∀ x, c'.queue? x = c.queue? x) : Related scope saved c' (c'.bare saved) :=
  ⟨rfl, fun x => by rw [hqueue, h]⟩

theorem steady_related : Steady (Related scope saved) where
  made := by
    intro c _ hcd
    obtain ⟨rfl, -⟩ := hcd
    rfl
  fresh := by
    intro c _ hcd
    obtain ⟨rfl, h⟩ := hcd
    exact ⟨rfl, h⟩

theorem moves_related {id : Nat} : Moves (Related scope saved) id where
  position := by
    intro c _ hcd
    obtain ⟨rfl, -⟩ := hcd
    rfl
  setPosition := by
    intro c _ i hcd
    obtain ⟨rfl, h⟩ := hcd
    exact ⟨rfl, h⟩

theorem binds_related {P : Val η → Prop} (name : String) : Binds (Related scope saved) P name := by
  intro c _ v hcd _
  obtain ⟨rfl, h⟩ := hcd
  rw [← Context.bare_set]
  exact .of_restored h (Context.queue?_set c name · v)

theorem framed_related (h : ∀ x, (c.queue? x).getD [] = scope x) (frame : Dict (Val η)) :
    Framed (Related scope saved)
      (fun c' d' => Related scope saved c' d' ∧ Context.Restored Set.univ (c.push frame) c') frame c
      (c.bare saved) where
  push := ⟨⟨rfl, h⟩, .refl _⟩
  pop := by
    intro c' _ hcd
    obtain ⟨⟨rfl, -⟩, hc'⟩ := hcd
    obtain ⟨f, c'', hpop, hrestored, -⟩ := hc'.pop?
    exact ⟨f, f, c'', _, hpop, Context.bare_pop? hpop saved, .of_restored h hrestored.queue⟩

theorem inFrame_related {P : α → Prop} {x y : RenderM η α} (hx : Restores Set.univ x)
    (h : Lockstep True (Related scope saved) P x y) (frame : Dict (Val η)) :
    Lockstep True (Related scope saved) P (inFrame frame x) (inFrame frame y) := by
  refine inFrame_lockstep fun c _ hcd => ?_
  obtain ⟨rfl, hqueue⟩ := hcd
  exact ⟨_, framed_related hqueue frame, h.and_restored hx _⟩

theorem deeper_related {P : α → Prop} {x y : RenderM η α} (h : Lockstep True (Related scope saved) P x y) :
    Lockstep True (Related scope saved) P (deeper x) (deeper y) := by
  intro c _ hcd
  obtain ⟨rfl, hqueue⟩ := hcd
  refine .bracket rfl rfl (h _ _ ⟨rfl, hqueue⟩) fun c₂ _ h₂ => ?_
  obtain ⟨rfl, h₂⟩ := h₂
  exact ⟨_, _, rfl, rfl, rfl, h₂⟩

/-- A step that restores the queues stays in its scope, whatever the scope of what it runs. -/
theorem related_of_bare {P : α → Prop} {x y : RenderM η α} (hx : Restores Set.univ x)
    (hqueue : ∀ x, (c.queue? x).getD [] = scope x)
    (h : Alike True (fun c d => d = c.bare saved) P (x c) (y (c.bare saved))) :
    Alike True (Related scope saved) P (x c) (y (c.bare saved)) := by
  have hrestored : ∀ r c', x c = some (r, c') → Context.Restored Set.univ c c' :=
    fun r c' hr => (hx.outcome trivial hr).2
  refine (h.and hrestored).mono (fun c' _ hcd => ?_) fun _ => id
  obtain ⟨rfl, hc'⟩ := hcd
  exact .of_restored hqueue hc'.queue

end

/-! ## Definitions -/

section
variable {engine : Engine Empty} {render : Renderer Empty} {render' : Scope Empty → Renderer Empty}
  (hrestores : ∀ n, Restores n.bound (render n))
  (hrender : ∀ scope saved n, Lockstep True (Related scope saved) AnyValue (render n) (render' scope n))
include hrestores hrender

variable {scope : Scope Empty} {saved : List (RenderFrame Empty)}

omit hrestores in
theorem renderDefinition_related (scope : Scope Empty) (saved : List (RenderFrame Empty)) (b : Block Empty) :
    Lockstep True (Related scope saved) (fun _ => True) (renderDefinition render b)
      (renderDefinition (render' scope) b) := by
  refine Lockstep.bind (P := fun _ => True) ?_ fun _ _ => ?_
  · refine (newIdentity_lockstep steady_related).bind fun id _ => ?_
    exact bindVar_lockstep (P := fun _ => True) (binds_related "block") trivial
  · exact (renderAll_lockstep fun n _ => hrender scope saved n).weaken fun _ _ => trivial

/-- A definition that is off its queue renders in the scope of the definitions behind it. -/
theorem renderOperative_related (b : Block Empty) :
    Lockstep True (Related scope saved) (fun _ => True) (TemplateTree.renderOperative render b)
      (renderOperative render' scope b) := by
  intro c _ hcd
  obtain ⟨rfl, hqueue⟩ := hcd
  have hb := hqueue b.name
  refine related_of_bare (restores_operative hrestores b) hqueue ?_
  unfold renderOperative
  cases hq : queued? c b.name with
  | none =>
    have hscope : scope b.name = [] := by
      rw [← hb]
      rw [Context.queued?_eq] at hq
      cases h : c.queue? b.name with
      | none => rfl
      | some q =>
        rw [h] at hq
        exact List.head?_eq_none_iff.mp hq
    rw [hscope]
    unfold TemplateTree.renderOperative
    rw [RenderM.get_bind_apply, hq]
    exact (renderDefinition_related hrender scope saved b c _ ⟨rfl, hqueue⟩).mono
      (fun _ _ h => h.bare) fun _ => id
  | some definition =>
    obtain ⟨overridden, hrest⟩ := Context.queue?_of_queued? hq
    have hscope : scope b.name = definition :: overridden := by
      rw [← hb, hrest]
      rfl
    rw [hscope, renderOperative_of_cons hrest]
    have hpopped : ∀ x, ((c.mapBlocks (·.pop b.name)).queue? x).getD [] =
        scope.within b.name overridden x := by
      intro x
      rw [Context.queue?_pop hrest, Scope.within]
      split
      · rfl
      · exact hqueue x
    refine .bracket_left rfl (renderDefinition_related hrender _ saved definition _ _ ⟨rfl, hpopped⟩) ?_
    intro c₂ _ h₂
    obtain ⟨rfl, -⟩ := h₂
    exact ⟨_, rfl, rfl⟩

theorem renderBlock_related (b : Block Empty) :
    Lockstep True (Related scope saved) AnyValue (TemplateTree.renderBlock render b)
      (renderBlock render' scope b) := by
  have hoperative : Lockstep True (Related scope saved) _ _ _ := renderOperative_related hrestores hrender b
  exact (inFrame_related (restores_operative hrestores b) hoperative []).map Value.list
    fun _ _ => anyValue_of _

theorem renderSuper_related (b : Block Empty) :
    Lockstep True (Related scope saved) AnyValue (TemplateTree.renderSuper render b)
      (renderSuper render' scope b) := by
  intro c _ hcd
  obtain ⟨rfl, hqueue⟩ := hcd
  have hb := hqueue b.name
  unfold TemplateTree.renderSuper renderSuper
  rw [RenderM.get_bind_apply, Context.queued?_eq]
  cases h : c.queue? b.name with
  | none =>
    rw [h] at hb
    rw [← hb]
    exact .result (anyValue_of _) ⟨rfl, hqueue⟩
  | some q =>
    rw [h] at hb
    rw [← hb]
    cases q with
    | nil => exact .result (anyValue_of _) ⟨rfl, hqueue⟩
    | cons definition overridden => exact renderBlock_related hrestores hrender b c _ ⟨rfl, hqueue⟩

theorem resolve_related (v : Variable) :
    Lockstep True (Related scope saved) AnyValue (resolve render v) (resolveBy (call render' scope) v) := by
  rw [← resolveBy_call]
  refine resolveBy_lockstep v ?_ (fun _ _ w _ _ => anyValue_of w) fun _ f _ _ => ?_
  · intro c _ hcd
    obtain ⟨rfl, -⟩ := hcd
    rfl
  · cases f with
    | super b => exact renderSuper_related hrestores hrender b
    | host p => cases p

/-! ## Templates -/

omit hrestores in
/-- What a template renders once its own state is in place. -/
theorem renderChain_related (engine : Engine Empty) (saved : List (RenderFrame Empty)) (t : Template Empty)
    {c : Context Empty} (hblocks : c.render.blocks = none) :
    Alike True (fun c d => d = c.bare saved) AnyValue (renderChain engine render t c)
      ((ofResult (engine.chain t) >>= fun chain => inTemplate chain.root.name
        (renderFragment engine (render' chain.definitions) chain.root.contents)) (c.bare saved)) := by
  cases hchain : engine.chain t with
  | error e =>
    have hsettled : Settled (fun _ => True) (engine.chain t) := settled_followParents
    rw [hchain] at hsettled
    rw [renderChain_of_error hchain]
    exact .error hsettled rfl
  | ok chain =>
    rw [renderChain_of_ok hchain]
    have hroot : Lockstep True (Related chain.definitions saved) AnyValue
        (inTemplate chain.root.name (renderFragment engine render chain.root.contents))
        (inTemplate chain.root.name
          (renderFragment engine (render' chain.definitions) chain.root.contents)) :=
      inTemplate_lockstep (renderFragment_lockstep steady_related rfl (fun n _ => hrender _ saved n)
        fun _ _ v _ _ => anyValue_of v)
    have hstart : Related chain.definitions saved (queueBlocks c chain.templates) (c.bare saved) := by
      refine ⟨(Context.bare_queueBlocks saved _ c).symm, fun x => ?_⟩
      rw [chain.queue?_queueBlocks hblocks]
      rfl
    exact (hroot _ _ hstart).mono (fun _ _ h => h.bare) fun _ => id

theorem renderTemplate_related (t : Template Empty) :
    Lockstep True (Related scope saved) AnyValue (TemplateTree.renderTemplate engine render t)
      (renderTemplate engine render' t) := by
  intro c _ hcd
  obtain ⟨rfl, hqueue⟩ := hcd
  have hchain := renderChain_related hrender engine ((c.bare saved).render :: saved) t (c := c.enter) rfl
  have hsaved : ∀ r c', renderChain engine render t c.enter = some (r, c') → c'.saved = c.render :: c.saved :=
    fun r c' => saved_of_renderChain hrestores
  refine .bracket rfl rfl (hchain.and hsaved) fun c₂ _ h₂ => ?_
  obtain ⟨rfl, hsaved₂⟩ := h₂
  exact ⟨_, _, leaveTemplate_of_saved hsaved₂, leaveTemplate_of_saved rfl, rfl, hqueue⟩

/-! ## Nodes -/

theorem renderInclusion_related {target : Target} {extra : List (String × Node Empty)} {only : Bool} :
    Lockstep True (Related scope saved) AnyValue
      (renderInclusion engine (resolve render) render target extra only)
      (renderInclusionBy engine (resolveBy (call render' scope)) (render' scope)
        (renderTemplate engine render') target extra only) := by
  rw [← renderInclusionVia_self, ← renderInclusionBy_template]
  have htemplate (t : Template Empty) (scope : Scope Empty) (saved : List (RenderFrame Empty)) :
      Lockstep True (Related scope saved) AnyValue (TemplateTree.renderTemplate engine render t)
        (renderTemplate engine render' t) := renderTemplate_related hrestores hrender t
  refine renderInclusionBy_lockstep (Q := fun _ => True) (fun _ _ _ => trivial)
    (fun v _ => resolve_related hrestores hrender v) (fun e _ => hrender scope saved e.2) ?_ ?_ ?_
  · intro c _ hcd
    obtain ⟨rfl, -⟩ := hcd
    rfl
  · intro t frame c _ _ _ hcd _
    obtain ⟨rfl, hqueue⟩ := hcd
    have halike := htemplate t (fun _ => []) [] (c.isolated frame) _ ⟨rfl, fun _ => rfl⟩
    show Alike _ _ _ ((TemplateTree.renderTemplate engine render t (c.isolated frame)).map _)
      ((renderTemplate engine render' t ((c.bare saved).isolated frame)).map _)
    generalize TemplateTree.renderTemplate engine render t (c.isolated frame) = o at halike ⊢
    generalize hp : renderTemplate engine render' t ((c.isolated frame).bare []) = p at halike
    have hp' : renderTemplate engine render' t ((c.bare saved).isolated frame) = p := hp
    rw [hp']
    cases halike with
    | exhausted hT => exact .exhausted hT
    | result ha h =>
      obtain ⟨rfl, -⟩ := h
      exact .result ha ⟨rfl, hqueue⟩
    | error he h =>
      obtain ⟨rfl, -⟩ := h
      exact .error he ⟨rfl, hqueue⟩
  · intro t frame c d _ _ hcd _
    exact inFrame_related (restores_template hrestores t)
      (deeper_related (htemplate t scope saved)) frame c d hcd

theorem renderStep_related (n : Node Empty) :
    Lockstep True (Related scope saved) AnyValue (TemplateTree.renderStep engine render n)
      (renderStep engine render' scope n) := by
  have hvar (v : Variable) : Lockstep True (Related scope saved) AnyValue _ _ :=
    resolve_related hrestores hrender v
  have hnode (m : Node Empty) := hrender scope saved m
  cases n with
  | literal v => exact .pure (anyValue_of v)
  | text t => exact renderText_lockstep fun v _ => hvar v
  | var v => exact hvar v
  | element tag attributes contents =>
    refine renderElement_lockstep (A := fun _ => AnyValue) steady_related rfl
      (fun e _ => ?_) (fun m _ => hnode m)
      fun _ _ _ v _ _ _ => anyValue_of v
    exact renderAttribute_lockstep (fun v _ => hvar v) (fun v _ => anyValue_of v) (hnode e.2)
  | loop vars list contents fallback =>
    refine renderLoop_lockstep (hvar list) (fun m _ => hnode m) ?_ ?_
    · intro c _ hcd
      obtain ⟨rfl, -⟩ := hcd
      exact ⟨rfl, fun v _ => anyValue_of v⟩
    · intro c _ hcd
      obtain ⟨rfl, hqueue⟩ := hcd
      refine ⟨_, framed_related hqueue [], fun x _ => ?_, fun m _ => ?_⟩
      · intro c' d' v hcd hv
        exact ⟨binds_related x c' d' v hcd.1 hv, hcd.2.trans (Context.restored_set (Set.mem_univ x) v)⟩
      · exact (hnode m).and_restored ((hrestores m).mono stable_true (Set.subset_univ _)) _
  | cond test contents fallback =>
    cases test with
    | expr e => exact renderCond_lockstep (fun v _ => hvar v) fun m _ => hnode m
    | host p => cases p
  | block b => exact renderBlock_related hrestores hrender b
  | inclusion target extra only => exact renderInclusion_related hrestores hrender
  | cycle id values name silent =>
    exact renderCycle_lockstep moves_related (fun m _ => hnode m) (anyValue_of _) fun x _ => binds_related x
  | doctype version => exact renderDoctype_lockstep steady_related rfl fun _ v _ => anyValue_of v
  | empty contents => exact .pure (anyValue_of _)
  | otherwise contents => exact .pure (anyValue_of _)
  | host p => cases p

end

theorem renderNode_related (engine : Engine Empty) : ∀ (depth : Nat) (scope : Scope Empty)
    (saved : List (RenderFrame Empty)) (n : Node Empty),
      Lockstep True (Related scope saved) AnyValue (TemplateTree.renderNode engine depth n)
        (renderNode engine depth scope n)
  | 0, _, _, _ => fun _ _ _ => .exhausted trivial
  | depth + 1, _, _, n =>
    renderStep_related (restores_renderNode engine depth) (renderNode_related engine depth) n

end Overriding

/-! ## All renders -/

theorem renderTemplate_eq_overriding (engine : Engine Empty) (depth : Nat)
    (t : Template Empty) (c : Context Empty) : renderTemplate engine (renderNode engine depth) t c =
      Overriding.renderTemplate engine (Overriding.renderNode engine depth) t c := by
  have hrestores := restores_renderNode engine depth
  have hchain := Overriding.renderChain_related (Overriding.renderNode_related engine depth) engine
    (c.render :: c.saved) t (c := c.enter) rfl
  have hsaved : ∀ r c', renderChain engine (renderNode engine depth) t c.enter = some (r, c') →
      c'.saved = c.render :: c.saved := fun r c' => saved_of_renderChain hrestores
  refine eq_of_alike (.bracket rfl rfl (hchain.and hsaved) fun c₂ _ h₂ => ?_)
  obtain ⟨rfl, hsaved₂⟩ := h₂
  exact ⟨_, _, leaveTemplate_of_saved hsaved₂, leaveTemplate_of_saved rfl, rfl⟩

/-! ## Definition by definition -/

namespace Overriding

theorem Scope.within_self (scope : Scope η) (x : String) (ds : List (Block η)) : scope.within x ds x = ds :=
  if_pos rfl

theorem Scope.within_within (scope : Scope η) (x : String) (ds ds' : List (Block η)) :
    (scope.within x ds).within x ds' = scope.within x ds' := by
  funext y
  unfold Scope.within
  split <;> rfl

/-- Where the definitions from `k` on are left, the block renders the definition `k`, and in the scope
of this one those behind it are left. -/
theorem renderOperative_within (render : Scope η → Renderer η) (scope : Scope η)
    {x : String} {ds : List (Block η)} {k : Nat} {d : Block η} (hd : ds[k]? = some d)
    (contents : List (Node η)) : renderOperative render (scope.within x (ds.drop k)) (.mk x contents) =
      renderDefinition (render (scope.within x (ds.drop (k + 1)))) d := by
  obtain ⟨hk, rfl⟩ := List.getElem?_eq_some_iff.mp hd
  have hx : scope.within x (ds.drop k) (Block.mk x contents).name = ds[k] :: ds.drop (k + 1) := by
    rw [← List.drop_eq_getElem_cons hk]
    exact Scope.within_self scope x _
  unfold renderOperative
  rw [hx]
  show renderDefinition (render ((scope.within x (ds.drop k)).within x (ds.drop (k + 1)))) ds[k] = _
  rw [Scope.within_within]

/-- In the scope of a definition `super` renders the next one, in the scope of that one, or nothing
behind the last. -/
theorem renderSuper_within (render : Scope η → Renderer η) (scope : Scope η)
    (x : String) (ds : List (Block η)) (k : Nat) (contents : List (Node η)) :
    renderSuper render (scope.within x (ds.drop (k + 1))) (.mk x contents) =
      (ds[k + 1]?).elim (pure (.list [])) fun d =>
        Value.list <$> inFrame [] (renderDefinition (render (scope.within x (ds.drop (k + 2)))) d) := by
  have hx : scope.within x (ds.drop (k + 1)) (Block.mk x contents).name = ds.drop (k + 1) :=
    Scope.within_self scope x _
  unfold renderSuper
  rw [hx]
  cases hd : ds[k + 1]? with
  | none =>
    rw [List.drop_eq_nil_iff.mpr (List.getElem?_eq_none_iff.mp hd), Option.elim]
  | some d =>
    obtain ⟨hk, rfl⟩ := List.getElem?_eq_some_iff.mp hd
    rw [List.drop_eq_getElem_cons hk]
    show renderBlock render (scope.within x (ds[k + 1] :: ds.drop (k + 2))) (.mk x contents) = _
    rw [← List.drop_eq_getElem_cons hk, renderBlock, renderOperative_within render scope hd]
    rfl

end Overriding

/-- Every render ends, and `super` renders in it the definition behind the one in whose scope it is
called. The scope is that of the template that calls it, which need not be the one that the function
comes from. -/
theorem super_renders_next_in_scope (engine : Engine Empty) (t : Template Empty) (c : Context Empty) :
    (∃ r c', engine.renderWith t c = some (r, c') ∧ Overriding.renderTemplate engine
      (Overriding.renderNode engine (engine.depthForTemplate t)) t c = some (r, c')) ∧
    (∀ depth, renderTemplate engine (renderNode engine depth) t c =
      Overriding.renderTemplate engine (Overriding.renderNode engine depth) t c) ∧
    ∀ (depth : Nat) (scope : Overriding.Scope Empty) (x : String) (ds : List (Block Empty)) (k : Nat)
      (contents : List (Node Empty)) (receiver : Val Empty),
        Overriding.call (Overriding.renderNode engine depth) (scope.within x (ds.drop (k + 1)))
          (.super (.mk x contents)) receiver =
        (ds[k + 1]?).elim (pure (.list [])) fun d => Value.list <$> inFrame []
          (renderDefinition (Overriding.renderNode engine depth (scope.within x (ds.drop (k + 2)))) d) := by
  have hreading (depth : Nat) := renderTemplate_eq_overriding engine depth t c
  refine ⟨?_, hreading, ?_⟩
  · obtain ⟨r, c', hr⟩ := exists_renderWith engine t c
    exact ⟨r, c', hr, hreading _ ▸ hr⟩
  · intro depth scope x ds k contents _
    exact Overriding.renderSuper_within _ scope x ds k contents

/-- The page includes a part from its definition of a block, which overrides that of its base. For the
part `super` renders the block of the part itself. -/
theorem included_super_renders_own_block :
    let overridden : Block Empty := .mk "x" [.literal (.string "base ")]
    let overriding : Block Empty := .mk "x" [.inclusion (.name "part") [] false]
    let own : Block Empty := .mk "x" [.literal (.string "part ")]
    let base : Template Empty := ⟨"base", none, [.block overridden], [("x", overridden)], rfl⟩
    let page : Template Empty := ⟨"page", some "base", [.block overriding], [("x", overriding)], rfl⟩
    let part : Template Empty := ⟨"part", none, [.var (.called "block.super"), .block own], [("x", own)], rfl⟩
    let engine : Engine Empty :=
      { Engine.html with templates := [("base", base), ("page", page), ("part", part)] }
    engine.renderToText page .none = some (.ok "part part ") := by
  decide +kernel

end TemplateTree
