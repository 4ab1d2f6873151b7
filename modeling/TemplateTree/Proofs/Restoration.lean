import TemplateTree.Proofs.Chains
import TemplateTree.Proofs.Rendering

/-!
# Restored contexts

Whatever a render pushes, counts up or takes off a queue is back in its place when the render ends, with
a result or with an error. What may stay behind is a variable that a named cycle binds in the frame at
the top. There is no host code: host code may leave anything behind.
-/

namespace TemplateTree

open RenderM

variable {η α : Type}

namespace Node

/-- The nodes inside of a node that render in the frame in which the node itself renders. -/
def sameFrame : Node η → List (Node η)
  | .element _ attributes contents => attributes.map (·.2) ++ contents
  | .loop _ _ _ fallback => fallback
  | .cond _ contents fallback => contents ++ fallback
  | .inclusion _ extra _ => extra.map (·.2)
  | .cycle _ values _ _ => values
  | _ => []

/-- The names that named cycles bind in the frame in which a node renders. -/
def bound (n : Node η) : Set String :=
  {name | ∃ id values silent,
    Relation.ReflTransGen (fun n m => m ∈ n.sameFrame) n (.cycle id values (some name) silent)}

def boundOfAll (ns : List (Node η)) : Set String :=
  {name | ∃ n ∈ ns, name ∈ n.bound}

theorem bound_subset {n m : Node η} (h : m ∈ n.sameFrame) : m.bound ⊆ n.bound :=
  fun _ ⟨id, values, silent, hm⟩ => ⟨id, values, silent, .head h hm⟩

theorem children_of_sameFrame {n m : Node η} (h : m ∈ n.sameFrame) : m ∈ n.children := by
  cases n with
  | loop vars list contents fallback => exact List.mem_append_right _ h
  | element _ _ _ | cond _ _ _ | inclusion _ _ _ | cycle _ _ _ _ => exact h
  | _ => cases h

theorem bound_subset_boundOfAll {ns : List (Node η)} {n : Node η} (h : n ∈ ns) : n.bound ⊆ boundOfAll ns :=
  fun _ hname => ⟨n, h, hname⟩

end Node

/-- Conditions on contexts that a restored context meets again, and so does one with a further frame. -/
structure Stable (G : Context η → Prop) : Prop where
  restored : ∀ c d, G c → Context.Restored Set.univ c d → G d
  push : ∀ c frame, G c → G (c.push frame)

/-- Started in a context that meets `G`, a step leaves the context restored, except for some names in
the top frame, however it ends; and it ends, unless `T`. -/
def RestoresFrom (T : Prop) (G : Context η → Prop) (names : Set String) (x : RenderM η α) : Prop :=
  ∀ start, G start → Lockstep T (Invariantly (Context.Restored names start)) (fun _ => True) x x

abbrev Restores (names : Set String) (x : RenderM η α) : Prop :=
  RestoresFrom True (fun _ => True) names x

theorem Alike.of_restored {T : Prop} {P : α → Prop} {names : Set String} {start c : Context η}
    {o p : Option (Except Error α × Context η)} (hc : Context.Restored names start c)
    (h : Alike T (Invariantly (Context.Restored names c)) P o p) :
    Alike T (Invariantly (Context.Restored names start)) P o p := by
  refine h.mono ?_ fun _ => id
  intro d _ hcd
  obtain ⟨rfl, hd⟩ := hcd
  exact ⟨rfl, hc.trans hd⟩

namespace RestoresFrom

section
variable {T : Prop} {G : Context η → Prop} {names : Set String} {x : RenderM η α}

theorem alike (h : RestoresFrom T G names x) {c : Context η} (hc : G c) :
    Alike T (Invariantly (Context.Restored names c)) (fun _ => True) (x c) (x c) :=
  h c hc c c ⟨rfl, .refl c⟩

theorem outcome (h : RestoresFrom T G names x) {c c' : Context η} (hc : G c) {r : Except Error α}
    (hx : x c = some (r, c')) : Settled (fun _ => True) r ∧ Context.Restored names c c' :=
  (h.alike hc).outcome hx

theorem of_alike (hG : Stable G)
    (h : ∀ c, G c → Alike T (Invariantly (Context.Restored names c)) (fun _ => True) (x c) (x c)) :
    RestoresFrom T G names x := by
  intro start hstart c _ hcd
  obtain ⟨rfl, hc⟩ := hcd
  exact (h c (hG.restored start c hstart (hc.mono (Set.subset_univ _)))).of_restored hc

theorem mono {names' : Set String} (hG : Stable G) (h : RestoresFrom T G names x) (hsub : names ⊆ names') :
    RestoresFrom T G names' x := by
  refine of_alike hG fun c hc => (h.alike hc).mono ?_ fun _ => id
  intro d _ hcd
  obtain ⟨rfl, hd⟩ := hcd
  exact ⟨rfl, hd.mono hsub⟩

end

end RestoresFrom

theorem Restores.keeps {names : Set String} {x : RenderM η α} (h : Restores names x) {I : Context η → Prop}
    (hI : ∀ c c', I c → Context.Restored names c c' → I c') : Keeps I (fun _ => True) x := by
  refine keeps_of_outcome fun c r c' hc hx => ?_
  obtain ⟨hr, hc'⟩ := h.outcome trivial hx
  exact ⟨hr, hI c c' hc hc'⟩

theorem Lockstep.and_restored {T : Prop} {R : Context η → Context η → Prop}
    {P : α → Prop} {names : Set String} {x y : RenderM η α} (h : Lockstep T R P x y)
    (hx : Restores names x) (start : Context η) :
    Lockstep T (fun c d => R c d ∧ Context.Restored names start c) P x y := by
  intro c d hcd
  obtain ⟨hcd, hc⟩ := hcd
  exact (h c d hcd).and fun r c' hr => hc.trans (hx.outcome trivial hr).2

theorem stable_true : Stable fun _ : Context η => True :=
  ⟨fun _ _ _ _ => trivial, fun _ _ _ => trivial⟩

abbrev AnyValue : Val η → Prop :=
  Value.Admits (fun _ => True) (fun _ => True)

theorem anyValue_of (v : Val η) : AnyValue v := by
  intro w _
  cases w <;> exact trivial

theorem Lockstep.anyValue {T : Prop} {R : Context η → Context η → Prop} {P : Val η → Prop}
    {x y : RenderM η (Val η)} (h : Lockstep T R P x y) : Lockstep T R AnyValue x y :=
  h.weaken fun v _ => anyValue_of v

section
variable {names : Set String} {start : Context η}

theorem steady_restored : Steady (Invariantly (Context.Restored names start)) :=
  steady_invariantly fun _ hc => hc.trans ⟨⟨rfl, rfl, fun _ _ => rfl, rfl, rfl⟩, fun _ => rfl⟩

theorem moves_restored {id : Nat} : Moves (Invariantly (Context.Restored names start)) id :=
  moves_invariantly fun _ _ hc => hc.trans ⟨⟨rfl, rfl, fun _ _ => rfl, rfl, rfl⟩, fun _ => rfl⟩

theorem binds_restored {P : Val η → Prop} {name : String} (h : name ∈ names) :
    Binds (Invariantly (Context.Restored names start)) P name := by
  intro c _ v hcd _
  obtain ⟨rfl, hc⟩ := hcd
  exact ⟨rfl, hc.trans (Context.restored_set h v)⟩

theorem framed_restored {frame : Dict (Val η)} {c : Context η} (hc : Context.Restored names start c) :
    Framed (Invariantly (Context.Restored names start))
      (Invariantly (Context.Restored Set.univ (c.push frame))) frame c c where
  push := ⟨rfl, .refl _⟩
  pop := by
    intro c' _ hcd
    obtain ⟨rfl, hc'⟩ := hcd
    obtain ⟨f, d, hpop, hd, -⟩ := hc'.pop?
    exact ⟨f, f, d, d, hpop, hpop, rfl, hc.trans (hd.mono (Set.empty_subset _))⟩

end

section
variable {T : Prop} {G : Context η → Prop} (hG : Stable G)
include hG

theorem RestoresFrom.inFrame {names : Set String} {x : RenderM η α} (h : RestoresFrom T G Set.univ x)
    (frame : Dict (Val η)) : RestoresFrom T G names (inFrame frame x) := by
  refine .of_alike hG fun c hc => ?_
  refine inFrame_lockstep ?_ c c ⟨rfl, .refl c⟩
  intro c _ hcd
  obtain ⟨rfl, hc'⟩ := hcd
  refine ⟨_, framed_restored hc', h (c.push frame) (hG.push c frame ?_)⟩
  exact hG.restored _ _ hc (hc'.mono (Set.subset_univ _))

/-! ## Blocks -/

/-- Off its queue, each definition at the front of one restores contexts when it renders. -/
def QueuesRestore (T : Prop) (G : Context η → Prop) (render : Renderer η) : Prop :=
  ∀ c name definition rest, G c → c.queue? name = some (definition :: rest) →
    ∃ G', Stable G' ∧ G' (c.mapBlocks (·.pop name)) ∧
      ∀ n ∈ definition.contents, RestoresFrom T G' n.bound (render n)

variable {render : Renderer η} {names : Set String}

theorem restores_renderDefinition {b : Block η} (h : ∀ n ∈ b.contents, RestoresFrom T G n.bound (render n)) :
    RestoresFrom T G Set.univ (renderDefinition render b) := by
  intro start hstart
  refine Lockstep.bind (P := fun _ => True) ?_ fun _ _ => ?_
  · refine (newIdentity_lockstep steady_restored).bind fun id _ => ?_
    exact bindVar_lockstep (binds_restored (P := fun _ => True) (Set.mem_univ _)) trivial
  · have hcontents := renderAll_lockstep fun n hn => (h n hn).mono hG (Set.subset_univ _) start hstart
    exact hcontents.weaken fun _ _ => trivial

/-- A definition that is off its queue while it renders is back in front of it afterwards. -/
theorem restores_renderOperative (hqueues : QueuesRestore T G render) {b : Block η}
    (h : ∀ c, G c → queued? c b.name = none → ∀ n ∈ b.contents, RestoresFrom T G n.bound (render n)) :
    RestoresFrom T G Set.univ (renderOperative render b) := by
  refine .of_alike hG fun c hc => ?_
  unfold renderOperative
  rw [RenderM.get_bind_apply]
  cases hq : queued? c b.name with
  | none => exact (restores_renderDefinition hG (h c hc hq)).alike hc
  | some definition =>
    obtain ⟨rest, hrest⟩ := Context.queue?_of_queued? hq
    obtain ⟨G', hG', hpopped, hcontents⟩ := hqueues c b.name definition rest hc hrest
    refine .bracket (S := Invariantly (Context.Restored Set.univ (c.mapBlocks (·.pop b.name)))) rfl rfl
      ((restores_renderDefinition hG' hcontents).alike hpopped) ?_
    intro c₂ _ hcd
    obtain ⟨rfl, h₂⟩ := hcd
    refine ⟨_, _, rfl, rfl, rfl, ⟨h₂.height, h₂.below, h₂.top, h₂.depth, h₂.saved⟩, fun x => ?_⟩
    rw [Context.queue?_push, h₂.queue, h₂.queue, Context.queue?_pop hrest,
      Context.queue?_pop hrest, if_pos rfl]
    split
    · next hx => rw [← hx, hrest, Option.map_some]
    · rfl

theorem restores_renderBlock (hqueues : QueuesRestore T G render) {b : Block η}
    (h : ∀ c, G c → queued? c b.name = none → ∀ n ∈ b.contents, RestoresFrom T G n.bound (render n)) :
    RestoresFrom T G names (renderBlock render b) :=
  fun start hstart => ((restores_renderOperative hG hqueues h).inFrame hG [] start hstart).map _
    fun _ _ => trivial

theorem restores_renderSuper (hqueues : QueuesRestore T G render) {b : Block η} :
    RestoresFrom T G names (renderSuper render b) := by
  -- where something is queued, the block itself does not render
  let G' := fun c => G c ∧ queued? c b.name ≠ none
  have hG' : Stable G' := by
    refine ⟨fun c d hc hd => ⟨hG.restored c d hc.1 hd, ?_⟩, fun c frame hc => ⟨hG.push c frame hc.1, hc.2⟩⟩
    rw [Context.queued?_eq, hd.queue, ← Context.queued?_eq]
    exact hc.2
  have hqueues' : QueuesRestore T G' render :=
    fun c name definition rest hc => hqueues c name definition rest hc.1
  refine .of_alike hG fun c hc => ?_
  unfold renderSuper
  rw [RenderM.get_bind_apply]
  cases hq : queued? c b.name with
  | none => exact .result trivial ⟨rfl, .refl c⟩
  | some definition =>
    have hsome : queued? c b.name ≠ none := by
      rw [hq]
      nofun
    exact (restores_renderBlock hG' hqueues' fun c hc hnone => absurd hnone hc.2).alike ⟨hc, hsome⟩

end

/-! ## Templates -/

/-- The contents that a template renders: those of the root of its chain. -/
def Engine.rootContents (engine : Engine η) (t : Template η) : List (Node η) :=
  match engine.chain t with
  | .ok chain => chain.root.contents
  | .error _ => []

/-- Where the root of a chain starts to render: at some depth, with the definitions of the chain in the
queues. -/
structure Context.Starts (chain : Chain η) (depth : Nat) (c : Context η) : Prop where
  depth : c.depth = depth
  queue : ∀ x, c.queue? x = some (chain.definitions x)

def RootRestores (T : Prop) (engine : Engine η) (render : Renderer η) (t : Template η) (depth : Nat) : Prop :=
  ∀ chain c, engine.chain t = .ok chain → c.Starts chain depth →
    ∃ G, Stable G ∧ G c ∧ ∀ n ∈ chain.root.contents, RestoresFrom T G n.bound (render n)

theorem settled_followParents {engine : Engine η} {start : String} : ∀ {rounds : Nat} {visited : List String}
    {t : Template η}, Settled (fun _ => True) (engine.followParents start rounds visited t)
  | 0, _, _ => nofun
  | rounds + 1, visited, t => by
    unfold Engine.followParents
    split
    · exact nofun
    · split
      · exact trivial
      · next name _ =>
        unfold Engine.template
        cases engine.template? name with
        | none => exact nofun
        | some parent =>
          have ih : Settled (fun _ => True)
              (engine.followParents start rounds (visited ++ [t.name]) parent) :=
            settled_followParents
          show Settled _ (engine.followParents start rounds (visited ++ [t.name]) parent >>= _)
          cases h : engine.followParents start rounds (visited ++ [t.name]) parent with
          | ok c => exact trivial
          | error e =>
            rw [h] at ih
            exact ih

section
variable {T : Prop} {engine : Engine η} {render : Renderer η} {t : Template η}

theorem renderChain_of_error {e : Error} (h : engine.chain t = .error e) (c : Context η) :
    renderChain engine render t c = some (.error e, c) := by
  unfold renderChain
  rw [h]
  rfl

theorem renderChain_of_ok {chain : Chain η} (h : engine.chain t = .ok chain) (c : Context η) :
    renderChain engine render t c =
      inTemplate chain.root.name (renderFragment engine render chain.root.contents)
      (queueBlocks c chain.templates) := by
  unfold renderChain
  rw [h]
  rfl

theorem renderChain_alike {c : Context η} (hblocks : c.render.blocks = none)
    (h : RootRestores T engine render t c.depth) :
    Alike T (Invariantly (Context.SameScope (Node.boundOfAll (engine.rootContents t)) c)) AnyValue
      (renderChain engine render t c) (renderChain engine render t c) := by
  have hsettled : Settled (fun _ => True) (engine.chain t) := settled_followParents
  cases hchain : engine.chain t with
  | error e =>
    rw [hchain] at hsettled
    rw [renderChain_of_error hchain]
    exact .error hsettled ⟨rfl, .refl c⟩
  | ok chain =>
    have hcontents : engine.rootContents t = chain.root.contents := by
      unfold Engine.rootContents
      rw [hchain]
    rw [renderChain_of_ok hchain, hcontents]
    let c₀ := queueBlocks c chain.templates
    have hscope : Context.SameScope (Node.boundOfAll chain.root.contents) c c₀ :=
      Context.queueBlocks_scope _ _
    obtain ⟨G, hG, hc₀, hnodes⟩ := h chain c₀ hchain ⟨hscope.depth, chain.queue?_queueBlocks hblocks⟩
    have hroot : Lockstep T (Invariantly (Context.Restored (Node.boundOfAll chain.root.contents) c₀)) AnyValue
        (renderFragment engine render chain.root.contents)
        (renderFragment engine render chain.root.contents) := by
      refine renderFragment_lockstep (F := fun _ => True) (M := fun _ => True)
        steady_restored rfl (fun n hn => ?_)
        fun _ _ v _ _ => anyValue_of v
      have := (hnodes n hn).mono hG (Node.bound_subset_boundOfAll hn)
      exact (this c₀ hc₀).anyValue
    refine (inTemplate_lockstep hroot c₀ c₀ ⟨rfl, .refl c₀⟩).mono ?_ fun _ => id
    intro d _ hcd
    obtain ⟨rfl, hd⟩ := hcd
    exact ⟨rfl, hscope.trans hd.toSameScope⟩

theorem renderTemplate_alike {c : Context η} (h : RootRestores T engine render t c.depth) :
    Alike T
      (Invariantly fun d => Context.Restored (Node.boundOfAll (engine.rootContents t)) c d ∧
        d.render = c.render) AnyValue
      (renderTemplate engine render t c) (renderTemplate engine render t c) := by
  refine .bracket rfl rfl (renderChain_alike (c := c.enter) rfl h) ?_
  intro c₂ _ hcd
  obtain ⟨rfl, h₂⟩ := hcd
  have hleave := leaveTemplate_of_saved h₂.saved
  exact ⟨_, _, hleave, hleave, rfl, ⟨⟨h₂.height, h₂.below, h₂.top, h₂.depth, rfl⟩, fun _ => rfl⟩, rfl⟩

theorem renderIsolated_alike {names : Set String} {c : Context η}
    (h : RootRestores T engine render t (c.depth + 1)) (globals : Dict (Val η)) :
    Alike T (Invariantly (Context.Restored names c)) AnyValue (renderIsolated engine render t globals c)
      (renderIsolated engine render t globals c) := by
  refine renderIsolated_invariantly (renderTemplate_alike (c := c.isolated globals) h) fun made => ?_
  exact ⟨⟨rfl, rfl, fun _ _ => rfl, rfl, rfl⟩, fun _ => rfl⟩

theorem restores_deeper {G : Context η → Prop} (hG : Stable G)
    (h : ∀ c, G c → RootRestores T engine render t (c.depth + 1)) :
    RestoresFrom T G Set.univ (deeper (renderTemplate engine render t)) := by
  refine .of_alike hG fun c hc => ?_
  refine .bracket rfl rfl ((renderTemplate_alike (c := { c with depth := c.depth + 1 }) (h c hc)).mono
    (fun _ _ => id) fun _ _ => trivial) ?_
  intro c₂ _ hcd
  obtain ⟨rfl, h₂, -⟩ := hcd
  exact ⟨_, _, rfl, rfl, rfl, ⟨h₂.height, h₂.below, fun x hx => (hx trivial).elim, rfl, h₂.saved⟩, h₂.queue⟩

end

/-! ## Nodes -/

/-- Nodes render in lockstep if what is inside of them in the same frame does, and what has frames of
its own. -/
theorem renderStepVia_lockstep {T : Prop} {R : Context Empty → Context Empty → Prop} (hR : Steady R)
    {engine : Engine Empty} {render render' included included' : Renderer Empty} {n : Node Empty}
    (hvar : ∀ v, Lockstep T R AnyValue (resolve render v) (resolve render' v))
    (hchild : ∀ m ∈ n.sameFrame, Lockstep T R AnyValue (render m) (render' m))
    (hloop : ∀ vars list contents fallback, n = .loop vars list contents fallback →
      Lockstep T R AnyValue (renderLoop (resolve render) render vars list contents fallback)
        (renderLoop (resolve render') render' vars list contents fallback))
    (hblock : ∀ b, n = .block b → Lockstep T R AnyValue (renderBlock render b) (renderBlock render' b))
    (hinclusion : ∀ target extra only, n = .inclusion target extra only →
      Lockstep T R AnyValue (renderInclusionVia engine (resolve render) render included target extra only)
        (renderInclusionVia engine (resolve render') render' included' target extra only))
    (hcycle : ∀ id values name silent, n = .cycle id values name silent →
      Moves R id ∧ ∀ x, name = some x → Binds R AnyValue x) :
    Lockstep T R AnyValue (renderStepVia engine render included n)
      (renderStepVia engine render' included' n) := by
  cases n with
  | literal v => exact .pure (anyValue_of v)
  | text t => exact renderText_lockstep fun v _ => hvar v
  | var v => exact hvar v
  | element tag attributes contents =>
    refine renderElement_lockstep (A := fun _ => AnyValue) hR rfl (fun e he => ?_)
      (fun m hm => hchild m (List.mem_append_right _ hm)) fun _ _ _ v _ _ _ => anyValue_of v
    exact renderAttribute_lockstep (fun v _ => hvar v) (fun v _ => anyValue_of v)
      (hchild e.2 (List.mem_append_left _ (List.mem_map_of_mem he)))
  | loop vars list contents fallback => exact hloop vars list contents fallback rfl
  | cond test contents fallback =>
    cases test with
    | expr e => exact renderCond_lockstep (fun v _ => hvar v) hchild
    | host p => cases p
  | block b => exact hblock b rfl
  | inclusion target extra only => exact hinclusion target extra only rfl
  | cycle id values name silent =>
    obtain ⟨hmoves, hbind⟩ := hcycle id values name silent rfl
    exact renderCycle_lockstep hmoves hchild admits_nil hbind
  | doctype version => exact renderDoctype_lockstep hR rfl fun _ v _ => anyValue_of v
  | empty contents => exact .pure (anyValue_of _)
  | otherwise contents => exact .pure (anyValue_of _)
  | host p => cases p

def InclusionsRestore (T : Prop) (G : Context η → Prop) (engine : Engine η) (render : Renderer η) : Prop :=
  ∀ c name t, G c → c.depth < engine.maxIncludeDepth → engine.template? name = some t →
    RootRestores T engine render t (c.depth + 1)

section
variable {T : Prop} {G : Context Empty → Prop} {engine : Engine Empty}
  {render : Renderer Empty} (hG : Stable G) (hqueues : QueuesRestore T G render)
include hG hqueues

theorem restores_call {names : Set String} (f : Callable Empty) (receiver : Val Empty) :
    RestoresFrom T G names (call render f receiver) := by
  cases f with
  | super b => exact restores_renderSuper hG hqueues
  | host p => cases p

theorem restores_resolve {names : Set String} (v : Variable) : RestoresFrom T G names (resolve render v) := by
  intro start hstart
  have hresolve : Lockstep T (Invariantly (Context.Restored names start)) AnyValue (resolve render v)
      (resolve render v) := by
    refine resolve_lockstep v ?_ (fun _ _ w _ _ => anyValue_of w) fun _ f receiver _ => ?_
    · intro c _ hcd
      obtain ⟨rfl, -⟩ := hcd
      rfl
    · exact (restores_call hG hqueues f receiver start hstart).anyValue
  exact hresolve.weaken fun _ _ => trivial

/-- Only the template of an inclusion renders one inclusion deeper. -/
theorem restores_renderInclusionVia {included : Renderer Empty}
    (hinclusions : InclusionsRestore T G engine included) {target : Target}
    {extra : List (String × Node Empty)} {only : Bool} {names : Set String}
    (hextra : ∀ e ∈ extra, RestoresFrom T G names (render e.2)) :
    RestoresFrom T G names
      (renderInclusionVia engine (resolve render) render included target extra only) := by
  intro start hstart
  suffices h : Lockstep T (Invariantly (Context.Restored names start)) AnyValue
      (renderInclusionVia engine (resolve render) render included target extra only)
      (renderInclusionVia engine (resolve render) render included target extra only) from h.weaken
        fun _ _ => trivial
  have hmeets {c : Context Empty} (hc : Context.Restored names start c) : G c :=
    hG.restored start c hstart (hc.mono (Set.subset_univ _))
  refine renderInclusionVia_lockstep (Q := fun t => ∃ name, engine.template? name = some t)
    (fun name t h => ⟨name, h⟩) (fun v _ => (restores_resolve hG hqueues v start hstart).anyValue)
    (fun e he => (hextra e he start hstart).anyValue) ?_ ?_ ?_
  · intro c _ hcd
    obtain ⟨rfl, -⟩ := hcd
    rfl
  · intro t frame c _ hcd _ hcd1 hdepth
    obtain ⟨name, ht⟩ := hcd
    obtain ⟨rfl, hc⟩ := hcd1
    exact (renderIsolated_alike (hinclusions c name t (hmeets hc) hdepth ht) frame).of_restored hc
  · intro t frame c _ hcd _ hcd1 hdepth
    obtain ⟨name, ht⟩ := hcd
    obtain ⟨rfl, hc⟩ := hcd1
    let G' := fun d => G d ∧ d.depth = c.depth
    have hG' : Stable G' :=
      ⟨fun d e hd he => ⟨hG.restored d e hd.1 he, he.depth.trans hd.2⟩, fun d f hd =>
        ⟨hG.push d f hd.1, hd.2⟩⟩
    have hdeeper := restores_deeper hG' fun d hd => hinclusions d name t hd.1 (hd.2 ▸ hdepth) ht
    have hinside : RestoresFrom T G' names (renderInside engine included t frame) := hdeeper.inFrame hG' frame
    exact ((hinside.alike ⟨hmeets hc, rfl⟩).mono (fun _ _ => id) fun v _ => anyValue_of v).of_restored hc

theorem restores_renderStepVia {included : Renderer Empty}
    (hinclusions : InclusionsRestore T G engine included) {n : Node Empty}
    (hchildren : ∀ m ∈ n.children, RestoresFrom T G m.bound (render m)) :
    RestoresFrom T G n.bound (renderStepVia engine render included n) := by
  intro start hstart
  suffices h : Lockstep T (Invariantly (Context.Restored n.bound start)) AnyValue
      (renderStepVia engine render included n) (renderStepVia engine render included n) from
    h.weaken fun _ _ => trivial
  have hvar (v : Variable) :
      Lockstep T (Invariantly (Context.Restored n.bound start)) AnyValue (resolve render v)
      (resolve render v) := (restores_resolve hG hqueues v start hstart).anyValue
  have hchild (m : Node Empty) (hm : m ∈ n.sameFrame) :
      Lockstep T (Invariantly (Context.Restored n.bound start))
      AnyValue (render m) (render m) :=
    ((hchildren m (Node.children_of_sameFrame hm)).mono hG (Node.bound_subset hm) start hstart).weaken
      fun v _ => anyValue_of v
  have hmeets {c : Context Empty} (hc : Context.Restored n.bound start c) : G c :=
    hG.restored start c hstart (hc.mono (Set.subset_univ _))
  refine renderStepVia_lockstep steady_restored hvar hchild ?loop ?block ?inclusion ?cycle
  case loop =>
    rintro vars list contents fallback rfl
    refine renderLoop_lockstep (hvar list) hchild ?_ ?_
    · intro c _ hcd
      obtain ⟨rfl, -⟩ := hcd
      exact ⟨rfl, fun v _ => anyValue_of v⟩
    · intro c _ hcd
      obtain ⟨rfl, hc⟩ := hcd
      refine ⟨_, framed_restored hc, fun x _ => binds_restored (Set.mem_univ x), fun m hm => ?_⟩
      have hm := (hchildren m (List.mem_append_left _ hm)).mono hG (Set.subset_univ _)
      exact (hm (c.push []) (hG.push c [] (hmeets hc))).anyValue
  case block =>
    rintro b rfl
    have hblock : RestoresFrom T G (Node.block b).bound (renderBlock render b) :=
      restores_renderBlock hG hqueues fun _ _ _ => hchildren
    exact (hblock start hstart).anyValue
  case inclusion =>
    rintro target extra only rfl
    have hextra : ∀ e ∈ extra, RestoresFrom T G (Node.inclusion target extra only).bound (render e.2) := by
      intro e he
      have hmem : e.2 ∈ (Node.inclusion target extra only).children := List.mem_map_of_mem he
      exact (hchildren e.2 hmem).mono hG (Node.bound_subset hmem)
    exact (restores_renderInclusionVia hG hqueues hinclusions hextra start hstart).anyValue
  case cycle =>
    rintro id values name silent rfl
    refine ⟨moves_restored, fun x hx => binds_restored ?_⟩
    subst hx
    exact ⟨id, values, silent, .refl⟩

theorem restores_renderStep (hinclusions : InclusionsRestore T G engine render) {n : Node Empty}
    (hchildren : ∀ m ∈ n.children, RestoresFrom T G m.bound (render m)) :
    RestoresFrom T G n.bound (renderStep engine render n) := by
  rw [← renderStepVia_self]
  exact restores_renderStepVia hG hqueues hinclusions hchildren

end

/-! ## All renders -/

section
variable {render : Renderer η} (h : ∀ n, Restores n.bound (render n))
include h

theorem queuesRestore : QueuesRestore True (fun _ => True) render :=
  fun _ _ _ _ _ _ => ⟨_, stable_true, trivial, fun n _ => h n⟩

theorem rootRestores {engine : Engine η} (t : Template η) (depth : Nat) :
    RootRestores True engine render t depth :=
  fun _ _ _ _ => ⟨_, stable_true, trivial, fun n _ => h n⟩

theorem restores_operative (b : Block η) : Restores Set.univ (renderOperative render b) :=
  restores_renderOperative stable_true (queuesRestore h) fun _ _ _ n _ => h n

theorem restores_renderRounds {vars : List String} {contents : List (Node η)} {parent : Val η} {n i : Nat}
    {items : List (Val η)} : Restores Set.univ (renderRounds render vars contents parent n i items) := by
  intro start _
  have hcontents : ∀ m ∈ contents, Lockstep True (Invariantly (Context.Restored Set.univ start))
      AnyValue (render m) (render m) :=
    fun m _ => ((h m).mono stable_true (Set.subset_univ _) start trivial).anyValue
  refine Lockstep.weaken
    (renderRounds_lockstep (fun x _ => binds_restored (Set.mem_univ x)) (anyValue_of parent) hcontents ?_)
    fun _ _ => trivial
  exact fun item _ => anyValue_of item

theorem restores_template {engine : Engine η} (t : Template η) :
    Restores Set.univ (deeper (renderTemplate engine render t)) :=
  restores_deeper stable_true fun c _ => rootRestores h t (c.depth + 1)

/-- An included template leaves the frames as they were and the state of the template that includes it. -/
theorem renderInside_alike {engine : Engine η} (t : Template η) (frame : Dict (Val η)) (c : Context η) :
    Alike True (Invariantly fun d => d.frames = c.frames ∧ d.render = c.render) AnyValue
      (renderInside engine render t frame c) (renderInside engine render t frame c) := by
  have hdeeper : Alike True
      (Invariantly fun d => Context.SameScope Set.univ (c.push frame) d ∧ d.render = c.render) AnyValue
      (deeper (renderTemplate engine render t) (c.push frame))
      (deeper (renderTemplate engine render t) (c.push frame)) := by
    refine .bracket rfl rfl (renderTemplate_alike (rootRestores h t _)) ?_
    intro c₂ _ hcd
    obtain ⟨rfl, h₂, hrender⟩ := hcd
    exact ⟨_, _, rfl, rfl, rfl, ⟨h₂.height, h₂.below, fun x hx => (hx trivial).elim, rfl, h₂.saved⟩, hrender⟩
  refine .bracket rfl rfl hdeeper ?_
  intro c₂ _ hcd
  obtain ⟨rfl, h₂, hrender⟩ := hcd
  obtain ⟨f, d, hpop, -, hframes, hd⟩ := h₂.pop?
  exact ⟨d, d, popFrame_discard hpop, popFrame_discard hpop, rfl, hframes, hd.trans hrender⟩

theorem saved_of_renderChain {engine : Engine η} {t : Template η} {c c' : Context η}
    {r : Except Error (Val η)} (hr : renderChain engine render t c.enter = some (r, c')) :
    c'.saved = c.render :: c.saved := by
  have hroot : RootRestores True engine render t c.enter.depth := rootRestores h t c.depth
  exact ((renderChain_alike rfl hroot).outcome hr).2.saved

theorem renderTemplate_restored {engine : Engine η} {t : Template η} {c c' : Context η}
    {r : Except Error (Val η)} (hr : renderTemplate engine render t c = some (r, c')) : Settled AnyValue r ∧
      Context.Restored (Node.boundOfAll (engine.rootContents t)) c c' ∧ c'.render = c.render :=
  (renderTemplate_alike (rootRestores h t c.depth)).outcome hr

theorem renderTemplate_apply (engine : Engine η) (t : Template η) (c : Context η) :
    renderTemplate engine render t c = (renderChain engine render t c.enter).map fun r =>
      (r.1, { r.2 with render := c.render, saved := c.saved }) := by
  have henter : (update (·.enter) : RenderM η Unit) c = some (.ok (), c.enter) := rfl
  unfold renderTemplate
  rw [bracket_apply henter]
  cases hchain : renderChain engine render t c.enter with
  | none => rfl
  | some o =>
    obtain ⟨r, c'⟩ := o
    simp only [RenderM.bind_apply, leaveTemplate_of_saved (saved_of_renderChain h hchain)]
    rfl

end

theorem restores_renderNode (engine : Engine Empty) : ∀ (depth : Nat) (n : Node Empty),
    Restores n.bound (renderNode engine depth n)
  | 0, _ => fun _ _ _ _ _ => .exhausted trivial
  | depth + 1, _ =>
    have h := restores_renderNode engine depth
    have hinclusions : InclusionsRestore True (fun _ => True) engine (renderNode engine depth) :=
      fun c _ t _ _ _ => rootRestores h t (c.depth + 1)
    restores_renderStep stable_true (queuesRestore h) hinclusions fun m _ => h m

/-- However a render of a node or of a template ends, the context is restored, except for the names that named
cycles bind in the top frame, and no frame is missed. A template also leaves the cycles alone. -/
theorem render_restores_context (engine : Engine Empty) (depth : Nat) :
    (∀ (n : Node Empty) (c c' : Context Empty) (r : Except Error (Val Empty)),
      renderNode engine depth n c = some (r, c') →
        Context.Restored n.bound c c' ∧ ∀ e, r = .error e → e.kind ≠ .contextPop) ∧
    ∀ (t : Template Empty) (c c' : Context Empty) (r : Except Error (Val Empty)),
      renderTemplate engine (renderNode engine depth) t c = some (r, c') →
        Context.Restored (Node.boundOfAll (engine.rootContents t)) c c' ∧ c'.render = c.render ∧
          ∀ e, r = .error e → e.kind ≠ .contextPop := by
  constructor
  · intro n c c' r hr
    obtain ⟨hr, hc⟩ := (restores_renderNode engine depth n).outcome trivial hr
    refine ⟨hc, ?_⟩
    intro e heq
    subst heq
    exact hr
  · intro t c c' r hr
    obtain ⟨hr, hc, hrender⟩ := renderTemplate_restored (restores_renderNode engine depth) hr
    refine ⟨hc, hrender, ?_⟩
    intro e heq
    subst heq
    exact hr

/-- A definition that fails inside of `block.super` inside of another definition, behind a named cycle. -/
theorem failing_super_restores_context :
    let parent : Block Empty := .mk "a" [.var (.called "missing")]
    let row : Node Empty := .cycle 1 [.literal (.string "odd")] (some "row") false
    let child : Block Empty := .mk "a" [row, .var (.called "block.super")]
    let queues : Blocks Empty := [("a", [child, parent])]
    let c : Context Empty := { Context.empty with stack := [[("x", .none)]], render := ⟨some queues, []⟩ }
    let n : Node Empty := .block (.mk "a" [])
    let t : Template Empty := ⟨"page", none, [n, .var (.called "missing")], [("a", .mk "a" [])], rfl⟩
    (∃ r c', renderNode Engine.html 4 n c = some (r, c') ∧ Context.Restored n.bound c c' ∧
      ∀ e, r = .error e → e.kind ≠ .contextPop) ∧
    ∃ r c', renderTemplate Engine.html (renderNode Engine.html 4) t c = some (r, c') ∧
      Context.Restored (Node.boundOfAll (Engine.html.rootContents t)) c c' ∧ c'.render = c.render ∧
        ∀ e, r = .error e → e.kind ≠ .contextPop :=
  ⟨⟨_, _, rfl, (render_restores_context Engine.html 4).1 _ _ _ _ rfl⟩,
    ⟨_, _, rfl, (render_restores_context Engine.html 4).2 _ _ _ _ rfl⟩⟩

end TemplateTree
