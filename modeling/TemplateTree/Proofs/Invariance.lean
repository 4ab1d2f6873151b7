import TemplateTree.Proofs.Restoration

/-!
# Invariants that nodes of a kind keep

Two renderers that agree on the nodes of a kind, wherever an invariant of contexts holds, agree on what
is made of such nodes. The invariant says at least that whatever is queued is made of nodes of that kind
too, since a block, or a call of `super`, renders what is queued. Templates are included by a renderer
that they share.
-/

namespace TemplateTree

open RenderM

variable {η α : Type}

/-- Every definition in a queue is made of nodes that meet `p`, all through. -/
def Context.Queues (p : Node η → Prop) (c : Context η) : Prop :=
  ∀ name q, c.queue? name = some q → ∀ b ∈ q, ∀ n ∈ b.contents, n.Throughout p

namespace Context.Queues

variable {p : Node η → Prop} {c d : Context η} {name : String} {b : Block η}

theorem of_queue? (h : c.Queues p) (hqueue : ∀ x, d.queue? x = c.queue? x) : d.Queues p :=
  fun x q hq => h x q (hqueue x ▸ hq)

theorem of_render (h : c.Queues p) (hrender : d.render = c.render) : d.Queues p :=
  h.of_queue? fun x => by rw [Context.queue?, hrender, Context.queue?]

theorem of_restored {names : Set String} (h : c.Queues p) (hd : Context.Restored names c d) : d.Queues p :=
  h.of_queue? hd.queue

theorem contents (h : c.Queues p) (hb : queued? c name = some b) : ∀ n ∈ b.contents, n.Throughout p := by
  obtain ⟨rest, hq⟩ := Context.queue?_of_queued? hb
  exact h name _ hq b (List.mem_cons_self ..)

theorem pop (h : c.Queues p) (hb : queued? c name = some b) : (c.mapBlocks (·.pop name)).Queues p := by
  obtain ⟨rest, hq⟩ := Context.queue?_of_queued? hb
  intro x q hx
  rw [Context.queue?_pop hq] at hx
  split at hx
  · obtain rfl := Option.some.inj hx
    exact fun b' hb' => h name _ hq b' (List.mem_cons_of_mem _ hb')
  · exact h x q hx

theorem push (h : c.Queues p) (hb : ∀ n ∈ b.contents, n.Throughout p) :
    (c.mapBlocks (·.push name b)).Queues p := by
  intro x q hx
  rw [Context.queue?_push] at hx
  split at hx
  · obtain ⟨q', hq', rfl⟩ := Option.map_eq_some_iff.mp hx
    exact List.forall_mem_cons.mpr ⟨hb, h name q' hq'⟩
  · exact h x q hx

end Context.Queues

/-- An invariant that renders of nodes keep whose queued definitions meet `p`. It says something of the
frames and something of the state of the template, each on its own. -/
structure Sheltered (p : Node η → Prop) (I : Context η → Prop) : Prop where
  queues : ∀ c, I c → c.Queues p
  parts : ∀ c c' d, I c → I c' → d.frames = c.frames → d.render = c'.render → I d
  push : ∀ c, I c → I (c.push [])
  bindBlock : ∀ c v, I c → I (c.set "block" v)
  mapBlocks : ∀ c f, I c → (c.mapBlocks f).Queues p → I (c.mapBlocks f)

namespace Sheltered

variable {p : Node η → Prop} {I : Context η → Prop} {c c' : Context η}

theorem same (h : Sheltered p I) (hc : I c) (hframes : c'.frames = c.frames)
    (hrender : c'.render = c.render) : I c' :=
  h.parts c c c' hc hc hframes hrender

theorem steady (h : Sheltered p I) : Steady (Invariantly I) :=
  steady_invariantly fun _ hc => h.same hc rfl rfl

/-- Once a frame is off, the invariant holds of the frames as it did before. -/
theorem pop? (h : Sheltered p I) (hc : I c) (hc' : I c') {names : Set String} {frame : Dict (Val η)}
    (hrestored : Context.Restored names (c.push frame) c') : ∃ f d, c'.pop? = some (f, d) ∧ I d := by
  obtain ⟨f, d, hpop, -, hframes, hrender⟩ := hrestored.toSameScope.pop?
  exact ⟨f, d, hpop, h.parts c c' d hc hc' hframes hrender⟩

theorem framed (h : Sheltered p I) (hc : I c) : Framed (Invariantly I)
    (fun c' d' => Invariantly I c' d' ∧ Context.Restored Set.univ (c.push []) c') [] c c where
  push := ⟨⟨rfl, h.push c hc⟩, .refl _⟩
  pop := by
    intro c' _ hcd
    obtain ⟨⟨rfl, hc'⟩, hrestored⟩ := hcd
    obtain ⟨f, d, hpop, hd⟩ := h.pop? hc hc' hrestored
    exact ⟨f, f, d, d, hpop, hpop, rfl, hd⟩

theorem inFrame (h : Sheltered p I) {P : α → Prop} {x y : RenderM η α} (hc : I c) (hx : Restores Set.univ x)
    (hxy : Alike True (Invariantly I) P (x (c.push [])) (y (c.push []))) :
    Alike True (Invariantly I) P (inFrame [] x c) (inFrame [] y c) := by
  refine .bracket rfl rfl (hxy.and fun r c' hr => (hx.outcome trivial hr).2) ?_
  intro c₂ _ hcd
  obtain ⟨⟨rfl, hc₂⟩, hrestored⟩ := hcd
  obtain ⟨f, d, hpop, hd⟩ := h.pop? hc hc₂ hrestored
  exact ⟨d, d, popFrame_discard hpop, popFrame_discard hpop, rfl, hd⟩

end Sheltered

/-- Two renderers agree on a node wherever an invariant holds, and keep it. -/
abbrev AgreeUnder (I : Context η → Prop) (render render' : Renderer η) (n : Node η) : Prop :=
  Lockstep True (Invariantly I) AnyValue (render n) (render' n)

section
variable {p : Node Empty → Prop} {I : Context Empty → Prop} (hI : Sheltered p I)
  {render render' : Renderer Empty} (hrestores : ∀ n, Restores n.bound (render n))
  (hrender : ∀ n, n.Throughout p → AgreeUnder I render render' n)
include hI hrender

/-! ## Blocks -/

theorem renderDefinition_under {b : Block Empty} (hb : ∀ n ∈ b.contents, n.Throughout p) :
    Lockstep True (Invariantly I) (fun _ => True) (renderDefinition render b)
      (renderDefinition render' b) := by
  refine Lockstep.bind (P := fun _ => True) ?_ fun _ _ => ?_
  · refine (newIdentity_lockstep hI.steady).bind fun id _ => bindVar_lockstep (P := fun _ => True) ?_ trivial
    intro c _ v hcd _
    obtain ⟨rfl, hc⟩ := hcd
    exact ⟨rfl, hI.bindBlock c v hc⟩
  · exact (renderAll_lockstep fun n hn => hrender n (hb n hn)).weaken fun _ _ => trivial

theorem renderOperative_under {b : Block Empty} {c : Context Empty} (hc : I c)
    (hb : queued? c b.name = none → ∀ n ∈ b.contents, n.Throughout p) :
    Alike True (Invariantly I) (fun _ => True) (renderOperative render b c)
      (renderOperative render' b c) := by
  unfold renderOperative
  rw [RenderM.get_bind_apply, RenderM.get_bind_apply]
  cases hq : queued? c b.name with
  | none => exact renderDefinition_under hI hrender (hb hq) c c ⟨rfl, hc⟩
  | some definition =>
    have hqueues := hI.queues c hc
    refine .bracket rfl rfl (renderDefinition_under hI hrender (hqueues.contents hq) _ _
      ⟨rfl, hI.mapBlocks c _ hc (hqueues.pop hq)⟩) ?_
    intro c₂ _ hcd
    obtain ⟨rfl, h₂⟩ := hcd
    exact ⟨_, _, rfl, rfl, rfl, hI.mapBlocks c₂ _ h₂ ((hI.queues c₂ h₂).push (hqueues.contents hq))⟩

include hrestores

theorem renderBlock_under {b : Block Empty} {c : Context Empty} (hc : I c)
    (hb : queued? c b.name = none → ∀ n ∈ b.contents, n.Throughout p) :
    Alike True (Invariantly I) AnyValue (renderBlock render b c) (renderBlock render' b c) := by
  have hoperative := renderOperative_under hI hrender (hI.push c hc) hb
  exact (hI.inFrame hc (restores_operative hrestores b) hoperative).bind fun vs _ => .pure (anyValue_of _)

theorem renderSuper_under (b : Block Empty) :
    Lockstep True (Invariantly I) AnyValue (renderSuper render b) (renderSuper render' b) := by
  refine .get_bind ?_
  intro c _ hcd
  obtain ⟨rfl, hc⟩ := hcd
  cases hq : queued? c b.name with
  | none => exact .result (anyValue_of _) ⟨rfl, hc⟩
  | some definition =>
    refine renderBlock_under hI hrestores hrender hc fun hnone => ?_
    rw [hq] at hnone
    cases hnone

/-! ## Nodes -/

theorem resolve_under (v : Variable) :
    Lockstep True (Invariantly I) AnyValue (resolve render v) (resolve render' v) := by
  refine resolve_lockstep v ?_ (fun _ _ w _ _ => anyValue_of w) fun _ f receiver _ => ?_
  · intro c _ hcd
    obtain ⟨rfl, -⟩ := hcd
    rfl
  · cases f with
    | super b => exact renderSuper_under hI hrestores hrender b
    | host p => cases p

/-- Nodes but loops and inclusions keep an invariant if the moves and the names of cycles do. -/
theorem renderStep_under (engine : Engine Empty) {n : Node Empty} (hn : n.Throughout p)
    (hloop : ∀ vars list contents fallback, n ≠ .loop vars list contents fallback)
    (hinclusion : ∀ target extra only, n ≠ .inclusion target extra only)
    (hmove : ∀ id values name silent, n = .cycle id values name silent → ∀ c i, I c → I (c.setPosition id i))
    (hbind : ∀ x ∈ n.bound, ∀ c v, I c → I (c.set x v)) :
    Lockstep True (Invariantly I) AnyValue (renderStep engine render n) (renderStep engine render' n) := by
  have hvar (v : Variable) := resolve_under hI hrestores hrender v
  have hchild (m : Node Empty) (hm : m ∈ n.sameFrame) := hrender m (hn.child (Node.children_of_sameFrame hm))
  rw [← renderStepVia_self, ← renderStepVia_self]
  refine renderStepVia_lockstep hI.steady hvar hchild ?loop ?block ?inclusion ?cycle
  case loop => exact fun vars list contents fallback h => absurd h (hloop vars list contents fallback)
  case block =>
    rintro b rfl c _ ⟨rfl, hc⟩
    exact renderBlock_under hI hrestores hrender hc fun _ m hm => hn.child hm
  case inclusion => exact fun target extra only h => absurd h (hinclusion target extra only)
  case cycle =>
    intro id values name silent hcycle
    refine ⟨moves_invariantly (hmove id values name silent hcycle), ?_⟩
    rintro x rfl c _ v ⟨rfl, hc⟩ _
    exact ⟨rfl, hbind x (hcycle ▸ ⟨id, values, silent, .refl⟩) c v hc⟩

variable (hvars : ∀ c x v, I c → I (c.set x v))
include hvars

theorem renderLoop_under {vars : List String} {list : Variable} {contents fallback : List (Node Empty)}
    (hcontents : ∀ n ∈ contents, n.Throughout p) (hfallback : ∀ n ∈ fallback, n.Throughout p) :
    Lockstep True (Invariantly I) AnyValue (renderLoop (resolve render) render vars list contents fallback)
      (renderLoop (resolve render') render' vars list contents fallback) := by
  refine renderLoop_lockstep (resolve_under hI hrestores hrender list)
    (fun n hn => hrender n (hfallback n hn)) ?_ ?_
  · intro c _ hcd
    obtain ⟨rfl, -⟩ := hcd
    exact ⟨rfl, fun v _ => anyValue_of v⟩
  · intro c _ hcd
    obtain ⟨rfl, hc⟩ := hcd
    refine ⟨_, hI.framed hc, fun x _ => ?_, fun m hm => ?_⟩
    · intro c' _ v hcd _
      obtain ⟨⟨rfl, hc'⟩, hrestored⟩ := hcd
      exact ⟨⟨rfl, hvars c' x v hc'⟩, hrestored.trans (Context.restored_set (Set.mem_univ x) v)⟩
    · exact (hrender m (hcontents m hm)).and_restored ((hrestores m).mono stable_true (Set.subset_univ _)) _

variable {engine : Engine Empty} {included : Renderer Empty} (hincluded : ∀ n, Restores n.bound (included n))
include hincluded

omit hvars in
theorem renderInclusionVia_under {target : Target} {extra : List (String × Node Empty)} {only : Bool}
    (hextra : ∀ e ∈ extra, e.2.Throughout p) :
    Lockstep True (Invariantly I) AnyValue
      (renderInclusionVia engine (resolve render) render included target extra only)
      (renderInclusionVia engine (resolve render') render' included target extra only) := by
  refine renderInclusionVia_lockstep (Q := fun _ => True) (fun _ _ _ => trivial)
    (fun v _ => resolve_under hI hrestores hrender v) (fun e he => hrender e.2 (hextra e he)) ?_ ?_ ?_
  · intro c _ hcd
    obtain ⟨rfl, -⟩ := hcd
    rfl
  · intro t frame c _ _ _ hcd _
    obtain ⟨rfl, hc⟩ := hcd
    exact renderIsolated_invariantly (renderTemplate_alike (rootRestores hincluded t _)) fun _ =>
      hI.same hc rfl rfl
  · intro t frame c _ _ _ hcd _
    obtain ⟨rfl, hc⟩ := hcd
    refine (renderInside_alike hincluded t frame c).mono ?_ fun _ => id
    intro d _ hcd
    obtain ⟨rfl, hframes, hd⟩ := hcd
    exact ⟨rfl, hI.same hc hframes hd⟩

/-- An invariant that says nothing of variables is kept by all nodes if the moves of cycles keep it. -/
theorem renderStepVia_under {n : Node Empty} (hn : n.Throughout p)
    (hmove : ∀ id values name silent, n = .cycle id values name silent → ∀ c i, I c →
      I (c.setPosition id i)) :
    Lockstep True (Invariantly I) AnyValue (renderStepVia engine render included n)
      (renderStepVia engine render' included n) := by
  cases n with
  | loop vars list contents fallback =>
    refine renderLoop_under hI hrestores hrender hvars (fun n hm => hn.child ?_) fun n hm => hn.child ?_
    · exact List.mem_append_left _ hm
    · exact List.mem_append_right _ hm
  | inclusion target extra only =>
    exact renderInclusionVia_under hI hrestores hrender hincluded fun e he =>
      hn.child (List.mem_map_of_mem he)
  | _ =>
    exact renderStep_under hI hrestores hrender engine hn (by simp) (by simp) hmove fun x _ c v => hvars c x v

end

end TemplateTree
