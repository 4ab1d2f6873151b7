import TemplateTree.Proofs.Restoration
import TemplateTree.Proofs.HtmlGrammar

/-!
# Safe HTML

A render in HTML never lets a string of the context out of the text or the attribute value it is written
in. The invariant is that all markup in reach is a document of the grammar: markup that variables hold,
markup that a function renders, and what comes of the nodes rendered so far.
-/

namespace TemplateTree

open RenderM

variable {η α : Type}

namespace Node

/-- What gives an attribute a value without markup: a plain literal, text, or a cycle of these. -/
inductive IsAttribute : Node η → Prop
  | literal {v : Val η} (hv : v.Plain) : IsAttribute (.literal v)
  | text (t : TemplateText) : IsAttribute (.text t)
  | cycle {id : Nat} {values : List (Node η)} {name : Option String} {silent : Bool}
    (h : ∀ n ∈ values, IsAttribute n) : IsAttribute (.cycle id values name silent)

/-- The node by itself brings no markup and no function with it, and no markup into an attribute. -/
structure Harmless (n : Node η) : Prop where
  literal : ∀ v, n = .literal v → v.Plain
  attributes : ∀ tag attributes contents, n = .element tag attributes contents →
    ∀ e ∈ attributes, e.1 ≠ Html.contentsAttribute ∧ e.2.IsAttribute

end Node

def Block.Harmless (b : Block η) : Prop :=
  ∀ n ∈ b.contents, n.Throughout Node.Harmless

def Template.Harmless (t : Template η) : Prop :=
  ∀ n ∈ t.contents, n.Throughout Node.Harmless

theorem Block.harmless_of_throughout {b : Block η}
    (h : (Node.block b).Throughout Node.Harmless) : b.Harmless :=
  fun _ hn => h.child hn

theorem Template.Harmless.get? {t : Template η} (h : t.Harmless) {name : String} {b : Block η}
    (hb : t.blocks.get? name = some b) : b.Harmless := by
  obtain ⟨n, hn, hcontains⟩ := Node.exists_contains_of_mem (Template.mem_of_get? hb).2
  exact Block.harmless_of_throughout fun m hm => h n hn m (hcontains.trans hm)

def Callable.Harmless : Callable η → Prop
  | .super b => b.Harmless
  | .host _ => False

/-- A value whose functions are harmless and whose markup is in the grammar of HTML output. -/
abbrev SafeValue : Val η → Prop :=
  Value.Admits Callable.Harmless fun m => Html.Doc m.html

theorem safeValue_of_plain {v : Val η} (h : v.Plain) : SafeValue v :=
  h.mono (fun _ => False.elim) fun _ => False.elim

def IsDocument (v : Val η) : Prop :=
  ∃ id s, v = .markup id (.safe s) ∧ Html.Doc s

theorem safeValue_of_isDocument {v : Val η} (h : IsDocument v) : SafeValue v := by
  obtain ⟨id, s, rfl, hs⟩ := h
  exact Value.admits_markup.mpr hs

/-- A context with safe values in its variables and harmless definitions in its queues. -/
structure Context.Safe (c : Context η) : Prop where
  data : ∀ name v, c.get? name = some v → SafeValue v
  queued : ∀ name q, c.queue? name = some q → ∀ b ∈ q, b.Harmless

namespace Context.Safe

variable {c d : Context η}

theorem of_frames (h : c.Safe) (hframes : d.frames = c.frames)
    (hqueue : ∀ x, d.queue? x = c.queue? x) : d.Safe where
  data name v hv := h.data name v (get?_of_frames hframes name ▸ hv)
  queued name q hq := h.queued name q (hqueue name ▸ hq)

theorem set (h : c.Safe) (name : String) {v : Val η} (hv : SafeValue v) : (c.set name v).Safe where
  data x w hw := by
    rw [get?_set] at hw
    split at hw
    · rw [← Option.some.inj hw]
      exact hv
    · exact h.data x w hw
  queued x q hq := h.queued x q (queue?_set c name x v ▸ hq)

theorem push (h : c.Safe) {frame : Dict (Val η)} (hframe : ∀ e ∈ frame, SafeValue e.2) :
    (c.push frame).Safe where
  data x w hw := by
    rw [get?_push] at hw
    rcases Option.or_eq_some_iff.mp hw with hw | ⟨-, hw⟩
    · exact hframe _ (Dict.mem_of_get? hw)
    · exact h.data x w hw
  queued := h.queued

theorem pushBlock (h : c.Safe) {b : Block η} (hb : b.Harmless) (name : String) :
    (c.mapBlocks (·.push name b)).Safe where
  data := h.data
  queued x q hq := by
    rw [queue?_push] at hq
    split at hq
    · obtain ⟨q', hq', rfl⟩ := Option.map_eq_some_iff.mp hq
      exact List.forall_mem_cons.mpr ⟨hb, h.queued name q' hq'⟩
    · exact h.queued x q hq

theorem popBlock (h : c.Safe) {name : String} {b : Block η} {rest : List (Block η)}
    (hq : c.queue? name = some (b :: rest)) : (c.mapBlocks (·.pop name)).Safe where
  data := h.data
  queued x q hx := by
    rw [queue?_pop hq] at hx
    split at hx
    · rw [← Option.some.inj hx]
      exact fun b' hb' => h.queued name _ hq b' (List.mem_cons_of_mem _ hb')
    · exact h.queued x q hx

theorem addLevel (h : c.Safe) {t : Template η} (ht : t.Harmless) : (c.addLevel t.blocks).Safe where
  data := h.data
  queued x q hx := by
    rw [queue?_addLevel c t.blocks_nodup] at hx
    intro b hb
    rw [← Option.some.inj hx] at hb
    rcases List.mem_append.mp hb with hb | hb
    · cases hq : c.queue? x with
      | none => simp [hq] at hb
      | some q => exact h.queued x q hq b (by simpa [hq] using hb)
    · exact ht.get? (Option.mem_toList.mp hb)

theorem queueBlocks : ∀ {ts : List (Template η)} {c : Context η}, c.Safe → (∀ t ∈ ts, t.Harmless) →
    (queueBlocks c ts).Safe
  | [], _, h, _ => h
  | t :: _, _, h, hts => by
    have hlevel := h.addLevel (hts t (List.mem_cons_self ..))
    have hrest := queueBlocks hlevel fun u hu => hts u (List.mem_cons_of_mem _ hu)
    exact hrest

end Context.Safe

abbrev KeepsSafe (P : α → Prop) (x : RenderM η α) : Prop :=
  Keeps Context.Safe P x

theorem steady_safe : Steady (Invariantly (Context.Safe (η := η))) :=
  steady_invariantly fun _ hc => hc.of_frames rfl fun _ => rfl

theorem moves_safe {id : Nat} : Moves (Invariantly (Context.Safe (η := η))) id :=
  moves_invariantly fun _ _ hc => hc.of_frames rfl fun _ => rfl

theorem binds_safe (name : String) : Binds (Invariantly (Context.Safe (η := η))) SafeValue name := by
  intro c _ v hcd hv
  obtain ⟨rfl, h⟩ := hcd
  exact ⟨rfl, h.set name hv⟩

theorem framed_safe {frame : Dict (Val η)} (hframe : ∀ e ∈ frame, SafeValue e.2)
    {c : Context η} (hc : c.Safe) : Framed (Invariantly Context.Safe)
      (fun c' d' => Invariantly Context.Safe c' d' ∧ Context.Restored Set.univ (c.push frame) c')
        frame c c where
  push := ⟨⟨rfl, hc.push hframe⟩, .refl _⟩
  pop := by
    intro c' _ hcd
    obtain ⟨⟨rfl, -⟩, hc'⟩ := hcd
    obtain ⟨f, d, hpop, hd, hframes⟩ := hc'.pop?
    exact ⟨f, f, d, d, hpop, hpop, rfl, hc.of_frames hframes hd.queue⟩

theorem inFrame_safe {P : α → Prop} {frame : Dict (Val η)}
    (hframe : ∀ e ∈ frame, SafeValue e.2) {x : RenderM η α} (hx : KeepsSafe P x)
    (hrestores : Restores Set.univ x) : KeepsSafe P (inFrame frame x) := by
  refine inFrame_lockstep ?_
  intro c _ hcd
  obtain ⟨rfl, hc⟩ := hcd
  exact ⟨_, framed_safe hframe hc, hx.and_restored hrestores _⟩

/-! ## Blocks -/

section
variable {render : Renderer η} (hrestores : ∀ n, Restores n.bound (render n))
  (hrender : ∀ n : Node η, n.Throughout Node.Harmless → KeepsSafe SafeValue (render n))
include hrender

theorem renderDefinition_safe {b : Block η} (hb : b.Harmless) :
    KeepsSafe (fun vs => ∀ v ∈ vs, SafeValue v) (renderDefinition render b) := by
  have hbind : KeepsSafe (fun _ => True) (bindBlock b) := by
    refine (newIdentity_lockstep steady_safe).bind fun id _ => bindVar_lockstep (binds_safe "block") ?_
    refine Value.admits_map.mpr (List.forall_mem_cons.mpr ⟨Value.admits_string _, ?_⟩)
    exact List.forall_mem_singleton.mpr (Value.admits_function.mpr hb)
  exact hbind.bind fun _ _ => renderAll_lockstep fun n hn => hrender n (hb n hn)

theorem renderOperative_safe {b : Block η} (hb : b.Harmless) :
    KeepsSafe (fun vs => ∀ v ∈ vs, SafeValue v) (renderOperative render b) := by
  refine .get_bind ?_
  intro c _ hcd
  obtain ⟨rfl, hc⟩ := hcd
  cases hq : queued? c b.name with
  | none => exact renderDefinition_safe hrender hb c c ⟨rfl, hc⟩
  | some definition =>
    obtain ⟨rest, hrest⟩ := Context.queue?_of_queued? hq
    have hdefinition := hc.queued _ _ hrest definition (List.mem_cons_self ..)
    refine .bracket rfl rfl (renderDefinition_safe hrender hdefinition _ _ ⟨rfl, hc.popBlock hrest⟩) ?_
    intro c₂ _ hcd
    obtain ⟨rfl, h₂⟩ := hcd
    exact ⟨_, _, rfl, rfl, rfl, h₂.pushBlock hdefinition b.name⟩

include hrestores

theorem renderBlock_safe {b : Block η} (hb : b.Harmless) : KeepsSafe SafeValue (renderBlock render b) := by
  have hframe :=
    inFrame_safe (List.forall_mem_nil _) (renderOperative_safe hrender hb) (restores_operative hrestores b)
  exact hframe.map Value.list fun _ => Value.admits_list.mpr

theorem renderSuper_safe {b : Block η} (hb : b.Harmless) : KeepsSafe SafeValue (renderSuper render b) := by
  refine .get_bind ?_
  intro c _ hcd
  obtain ⟨rfl, hc⟩ := hcd
  cases queued? c b.name with
  | none => exact .result admits_nil ⟨rfl, hc⟩
  | some _ => exact renderBlock_safe hrestores hrender hb c c ⟨rfl, hc⟩

end

/-! ## Templates -/

section
variable {engine : Engine η} {render : Renderer η} (hmode : engine.mode = Html.mode)
  (hregistered : ∀ name t, engine.template? name = some t → t.Harmless)
  (hrestores : ∀ n, Restores n.bound (render n))
  (hrender : ∀ n : Node η, n.Throughout Node.Harmless → KeepsSafe SafeValue (render n))
include hmode hregistered hrender

theorem renderChain_safe {t : Template η} (ht : t.Harmless) :
    KeepsSafe IsDocument (renderChain engine render t) := by
  refine Lockstep.bind (P := fun chain => ∀ u ∈ chain.templates, u.Harmless)
    (.ofResult ?_) fun chain hchain => ?_
  · have hsettled : Settled (fun _ => True) (engine.chain t) := settled_followParents
    cases hchain : engine.chain t with
    | error e =>
      rw [hchain] at hsettled
      exact hsettled
    | ok chain =>
      intro u hu
      rcases Engine.mem_chain hchain hu with rfl | ⟨name, hname⟩
      · exact ht
      · exact hregistered name u hname
  · refine Lockstep.bind (P := fun _ => True) (.update ?_) fun _ _ => ?_
    · intro c _ hcd
      obtain ⟨rfl, hc⟩ := hcd
      exact ⟨rfl, hc.queueBlocks hchain⟩
    · have hroot := hchain chain.root chain.root_mem
      refine inTemplate_lockstep
        (renderFragment_lockstep steady_safe rfl (fun n hn => hrender n (hroot n hn)) ?_)
      intro id vs v hvs hv
      rw [hmode] at hv
      obtain ⟨s, hs, rfl⟩ := Except.ok_of_map hv
      exact ⟨id, s, rfl, Html.doc_writeAll hvs hs⟩

include hrestores

/-- Whatever blocks are queued outside of a template do not matter inside. -/
theorem renderTemplate_document {t : Template η} (ht : t.Harmless) {c : Context η}
    (hdata : ∀ name v, c.get? name = some v → SafeValue v) :
    Alike True (Invariantly fun d => (∀ name v, d.get? name = some v → SafeValue v) ∧
      d.render = c.render) IsDocument (renderTemplate engine render t c)
        (renderTemplate engine render t c) := by
  have henter : c.enter.Safe := ⟨hdata, nofun⟩
  have hsaved : ∀ r c', renderChain engine render t c.enter = some (r, c') → c'.saved = c.render :: c.saved :=
    fun r c' => saved_of_renderChain hrestores
  refine .bracket rfl rfl ((renderChain_safe hmode hregistered hrender ht _ _ ⟨rfl, henter⟩).and hsaved) ?_
  intro c₂ _ hcd
  obtain ⟨⟨rfl, h₂⟩, hsaved⟩ := hcd
  have hleave := leaveTemplate_of_saved hsaved
  exact ⟨_, _, hleave, hleave, rfl, h₂.data, rfl⟩

theorem renderTemplate_safe {t : Template η} (ht : t.Harmless) :
    KeepsSafe IsDocument (renderTemplate engine render t) := by
  intro c _ hcd
  obtain ⟨rfl, hc⟩ := hcd
  refine (renderTemplate_document hmode hregistered hrestores hrender ht hc.data).mono ?_ fun _ => id
  intro d _ hcd
  obtain ⟨rfl, hdata, hrender⟩ := hcd
  refine ⟨rfl, hdata, fun x q hq => hc.queued x q ?_⟩
  rwa [Context.queue?, hrender] at hq

theorem renderIsolated_safe {t : Template η} (ht : t.Harmless) {globals : Dict (Val η)}
    (hglobals : ∀ e ∈ globals, SafeValue e.2) :
    KeepsSafe IsDocument (renderIsolated engine render t globals) := by
  intro c _ hcd
  obtain ⟨rfl, hc⟩ := hcd
  have hisolated : (c.isolated globals).Safe := by
    refine ⟨fun name v hv => hglobals (name, v) (Dict.mem_of_get? ?_), nofun⟩
    exact (Context.get?_withGlobals globals name).symm.trans hv
  have h := renderTemplate_safe hmode hregistered hrestores hrender ht _ _ ⟨rfl, hisolated⟩
  exact renderIsolated_invariantly h fun _ => hc.of_frames rfl fun _ => rfl

theorem renderInside_safe {t : Template η} (ht : t.Harmless) {frame : Dict (Val η)}
    (hframe : ∀ e ∈ frame, SafeValue e.2) : KeepsSafe IsDocument (renderInside engine render t frame) := by
  refine inFrame_safe hframe ?_ (restores_template hrestores t)
  intro c _ hcd
  obtain ⟨rfl, hc⟩ := hcd
  have hdeeper : ({ c with depth := c.depth + 1 } : Context η).Safe := hc.of_frames rfl fun _ => rfl
  refine .bracket rfl rfl (renderTemplate_safe hmode hregistered hrestores hrender ht _ _ ⟨rfl, hdeeper⟩) ?_
  intro c₂ _ hcd
  obtain ⟨rfl, h₂⟩ := hcd
  exact ⟨_, _, rfl, rfl, rfl, h₂.of_frames rfl fun _ => rfl⟩

end

/-! ## Nodes -/

def GivesText (v : Val η) : Prop :=
  (∃ items, v = .list items) ∨ v.Admits (fun _ => True) fun _ => False

theorem admits_of_joinText {v w : Val η} (hv : GivesText v) (h : joinText v = .ok w) :
    w.Admits (fun _ => True) fun _ => False := by
  rcases hv with ⟨items, rfl⟩ | hv
  · obtain ⟨s, -, h⟩ := Except.ok_of_bind h
    rw [← Except.ok.inj h]
    exact Value.admits_string s
  · exact joinText_admits hv h

theorem renderNode_givesText (engine : Engine Empty) : ∀ {depth : Nat} {n : Node Empty}, n.IsAttribute →
    Keeps (fun _ => True) GivesText (renderNode engine depth n)
  | 0, _, _ => fun _ _ _ => .exhausted trivial
  | depth + 1, _, .literal hv => .pure (.inr (hv.mono (fun _ => False.elim) fun _ => id))
  | depth + 1, _, .text t => by
    cases t with
    | literal s => exact .pure (.inr (Value.admits_string s))
    | mixed segments =>
      have hresolve (v : Variable) : Keeps (fun _ => True) AnyValue (resolve (renderNode engine depth) v) :=
        have hrestores : Restores ∅ (resolve (renderNode engine depth) v) :=
          restores_resolve stable_true (queuesRestore (restores_renderNode engine depth)) v
        (hrestores.keeps fun _ _ _ _ => trivial).anyValue
      exact (renderSegments_lockstep fun v _ => hresolve v).map Value.list fun vs _ => .inl ⟨vs, rfl⟩
  | depth + 1, _, .cycle h => by
    have hmoves {id : Nat} : Moves (Invariantly fun _ : Context Empty => True) id :=
      moves_invariantly fun _ _ _ => trivial
    refine renderCycle_lockstep hmoves (fun n hn => renderNode_givesText engine (h n hn)) (.inl ⟨[], rfl⟩) ?_
    intro x _ c _ v hcd _
    obtain ⟨rfl, -⟩ := hcd
    exact ⟨rfl, trivial⟩

section
variable {engine : Engine Empty} {render : Renderer Empty} (hmode : engine.mode = Html.mode)
  (hregistered : ∀ name t, engine.template? name = some t → t.Harmless)
  (hrestores : ∀ n, Restores n.bound (render n))
  (hrender : ∀ n : Node Empty, n.Throughout Node.Harmless → KeepsSafe SafeValue (render n))
include hrestores hrender

theorem resolve_safe (v : Variable) : KeepsSafe SafeValue (resolve render v) := by
  refine resolve_lockstep v ?_ ?_ fun _ f receiver hf => ?_
  · intro c _ hcd
    obtain ⟨rfl, -⟩ := hcd
    rfl
  · intro c _ w hcd hw
    obtain ⟨rfl, hc⟩ := hcd
    exact hc.data _ w hw
  · cases f with
    | super b => exact renderSuper_safe hrestores hrender hf
    | host p => cases p

omit hrestores in
theorem renderAttribute_safe
    (hgives : ∀ n : Node Empty, n.IsAttribute → Keeps (fun _ => True) GivesText (render n))
    {n : Node Empty} (hn : n.Throughout Node.Harmless) (hattribute : n.IsAttribute) :
    KeepsSafe (Value.Admits (fun _ => True) fun _ => False) (renderAttribute (resolve render) render n) := by
  have hjoined : KeepsSafe (Value.Admits (fun _ => True) fun _ => False)
      (do ofFault (joinText (← render n))) :=
    ((hrender n hn).result (hgives n hattribute)).bind fun v hv => .ofFault fun w => admits_of_joinText hv
  cases hattribute with
  | literal hv => exact .pure (hv.mono (fun _ => False.elim) fun _ => id)
  | text t => exact hjoined
  | cycle _ => exact hjoined

include hmode hregistered

theorem renderStep_safe
    (hgives : ∀ n : Node Empty, n.IsAttribute → Keeps (fun _ => True) GivesText (render n))
    {n : Node Empty} (hn : n.Throughout Node.Harmless) :
    KeepsSafe SafeValue (renderStep engine render n) := by
  have hvar (v : Variable) := resolve_safe hrestores hrender v
  have hchild (m : Node Empty) (hm : m ∈ n.children) := hrender m (hn.child hm)
  cases n with
  | literal v => exact .pure (safeValue_of_plain (hn.here.literal v rfl))
  | text t => exact renderText_lockstep fun v _ => hvar v
  | var v => exact hvar v
  | element tag attributes contents =>
    have hattributes := hn.here.attributes tag attributes contents rfl
    refine renderElement_lockstep
      (A := fun name v => name ≠ Html.contentsAttribute ∧ v.Admits (fun _ => True) fun _ => False)
        steady_safe rfl
      (fun e he => ?_) (fun m hm => hchild m (List.mem_append_right _ hm)) fun id as vs v has hvs hv => ?_
    · have hmem : e.2 ∈ (Node.element tag attributes contents).children :=
        List.mem_append_left _ (List.mem_map_of_mem he)
      have hvalue := renderAttribute_safe hrender hgives (hn.child hmem) (hattributes e he).2
      exact hvalue.weaken fun v hv => ⟨(hattributes e he).1, hv⟩
    · rw [hmode] at hv
      obtain ⟨s, hs, rfl⟩ := Except.ok_of_map hv
      exact Value.admits_markup.mpr (Html.doc_element has hvs hs)
  | loop vars list contents fallback =>
    refine renderLoop_lockstep (hvar list) (fun m hm => hchild m (List.mem_append_right _ hm)) ?_ ?_
    · intro c _ hcd
      obtain ⟨rfl, hc⟩ := hcd
      exact ⟨rfl, fun v => hc.data _ v⟩
    · intro c _ hcd
      obtain ⟨rfl, hc⟩ := hcd
      refine ⟨_, framed_safe (List.forall_mem_nil _) hc, fun x _ => ?_, fun m hm => ?_⟩
      · intro c' _ v hcd hv
        obtain ⟨⟨rfl, h⟩, hrestored⟩ := hcd
        exact ⟨⟨rfl, h.set x hv⟩, hrestored.trans (Context.restored_set (Set.mem_univ x) v)⟩
      · have hrestore := (hrestores m).mono stable_true (Set.subset_univ _)
        exact (hchild m (List.mem_append_left _ hm)).and_restored hrestore _
  | cond test contents fallback =>
    cases test with
    | expr e => exact renderCond_lockstep (fun v _ => hvar v) hchild
    | host p => cases p
  | block b => exact renderBlock_safe hrestores hrender (Block.harmless_of_throughout hn)
  | inclusion target extra only =>
    refine renderInclusion_lockstep hregistered (fun v _ => hvar v)
      (fun e he => hchild e.2 (List.mem_map_of_mem he)) ?_ (fun t frame c d ht hframe hcd _ => ?_)
      fun t frame c d ht hframe hcd _ => ?_
    · intro c _ hcd
      obtain ⟨rfl, -⟩ := hcd
      rfl
    · have hisolated := renderIsolated_safe hmode hregistered hrestores hrender ht hframe
      exact hisolated.weaken (fun v => safeValue_of_isDocument) c d hcd
    · have hinside := renderInside_safe hmode hregistered hrestores hrender ht hframe
      exact hinside.weaken (fun v => safeValue_of_isDocument) c d hcd
  | cycle id values name silent =>
    exact renderCycle_lockstep moves_safe hchild admits_nil fun x _ => binds_safe x
  | doctype version =>
    refine renderDoctype_lockstep steady_safe rfl fun id v hv => ?_
    rw [hmode] at hv
    rw [← Except.ok.inj hv]
    exact Value.admits_markup.mpr (Html.doc_declaration version)
  | empty contents => exact .pure admits_nil
  | otherwise contents => exact .pure admits_nil
  | host p => cases p

end

theorem renderNode_safe {engine : Engine Empty} (hmode : engine.mode = Html.mode)
    (hregistered : ∀ name t, engine.template? name = some t → t.Harmless) : ∀ (depth : Nat) (n : Node Empty),
      n.Throughout Node.Harmless → KeepsSafe SafeValue (renderNode engine depth n)
  | 0, _, _ => fun _ _ _ => .exhausted trivial
  | depth + 1, _, hn =>
    renderStep_safe hmode hregistered (restores_renderNode engine depth)
      (renderNode_safe hmode hregistered depth) (fun _ => renderNode_givesText engine) hn

/-- A render in HTML without markup in the data and in literals ends, if it succeeds, with a word of the
grammar. -/
theorem rendered_html_is_document {engine : Engine Empty} (hmode : engine.mode = Html.mode)
    (hregistered : ∀ name t, engine.template? name = some t → t.Harmless)
    {t : Template Empty} (ht : t.Harmless) {c c' : Context Empty}
    (hdata : ∀ name v, c.get? name = some v → v.Plain) {depth : Nat} {v : Val Empty}
    (h : renderTemplate engine (renderNode engine depth) t c = some (.ok v, c')) :
    ∃ s, v.text = .ok s ∧ Html.Doc s := by
  have hrender := renderNode_safe hmode hregistered depth
  have hsafe : ∀ name v, c.get? name = some v → SafeValue v :=
    fun name v hv => safeValue_of_plain (hdata name v hv)
  have halike := renderTemplate_document hmode hregistered (restores_renderNode engine depth) hrender ht hsafe
  rw [h] at halike
  cases halike with
  | result hv _ =>
    obtain ⟨id, s, rfl, hs⟩ := hv
    exact ⟨s, rfl, hs⟩

/-- A string that would be a tag, as text and in an attribute, inside of a block of a registered template. -/
theorem escaped_tag_is_document :
    let element : Node Empty :=
      .element "p" [("title", .text (.mixed [.text "for ", .var (.called "who")]))] [.var (.called "who")]
    let t : Template Empty :=
      ⟨"page", none, [.block (.mk "body" [element])], [("body", .mk "body" [element])], rfl⟩
    let engine := Engine.html.add t
    let c : Context Empty := Context.withGlobals [("who", .string "<b>'&\"")]
    ∃ v c' s, renderTemplate engine (renderNode engine 4) t c = some (.ok v, c') ∧
      v.text = .ok s ∧ Html.Doc s := by
  intro element t engine c
  have hattribute : (Node.text (η := Empty) (.mixed [.text "for ", .var (.called "who")])).Throughout
      Node.Harmless :=
    Node.throughout_iff.mpr ⟨⟨nofun, nofun⟩, nofun⟩
  have hvar : (Node.var (η := Empty) (.called "who")).Throughout Node.Harmless :=
    Node.throughout_iff.mpr ⟨⟨nofun, nofun⟩, nofun⟩
  have helement : element.Throughout Node.Harmless := by
    refine Node.throughout_iff.mpr ⟨⟨nofun, ?_⟩, ?_⟩
    · intro tag attributes contents h e he
      obtain ⟨rfl, rfl, rfl⟩ := Node.element.inj h
      obtain rfl := List.mem_singleton.mp he
      exact ⟨by decide, .text _⟩
    · exact List.forall_mem_cons.mpr ⟨hattribute, List.forall_mem_singleton.mpr hvar⟩
  have ht : t.Harmless := by
    refine List.forall_mem_singleton.mpr (Node.throughout_iff.mpr ⟨⟨nofun, nofun⟩, ?_⟩)
    exact List.forall_mem_singleton.mpr helement
  have hregistered : ∀ name u, engine.template? name = some u → u.Harmless := by
    intro name u hu
    have hmem : (name, u) ∈ [("page", t)] := Dict.mem_of_get? hu
    obtain ⟨-, rfl⟩ := Prod.mk.inj (List.mem_singleton.mp hmem)
    exact ht
  have hdata : ∀ name v, c.get? name = some v → v.Plain := by
    intro name v hv
    have hmem : (name, v) ∈ c.globals := Dict.mem_of_get? ((Context.get?_withGlobals _ name).symm.trans hv)
    obtain ⟨-, rfl⟩ := Prod.mk.inj (List.mem_singleton.mp hmem)
    exact Value.admits_string _
  obtain ⟨s, hs, hdoc⟩ := rendered_html_is_document rfl hregistered ht hdata
    (show renderTemplate engine (renderNode engine 4) t c = some (.ok _, _) from rfl)
  exact ⟨_, _, s, rfl, hs, hdoc⟩

end TemplateTree
