import TemplateTree.Proofs.Seamless
import TemplateTree.Proofs.Surroundings

/-!
# Inclusions that could be spelled out

A plain inclusion does what the contents of its template would do in its place, as long as these declare
no blocks and move no cycles. The included template renders one frame, one state and one inclusion
further in, and gives one value that is written like the list of values which its contents render as. So
whatever is rendered with the inclusion is rendered without it, and comes out as the same text.
-/

namespace TemplateTree

open RenderM
open Value (Matches AllMatch EntriesMatch)

/-! ## Lists of nodes -/

section
variable {η : Type} (render : Renderer η)

theorem renderAll_singleton (n : Node η) : renderAll render [n] = (do return [← render n]) := by
  simp [renderAll]

theorem renderAll_append (ns ms : List (Node η)) :
    renderAll render (ns ++ ms) = (do return (← renderAll render ns) ++ (← renderAll render ms)) := by
  induction ns with
  | nil => simp [renderAll]
  | cons n ns ih => simp [renderAll, ih]

end

section
variable {A : Error → Prop} {V : View} {I : Pairing}
  {Q : Pairing → List (Val Empty) → List (Val Empty) → Prop}
  (hQ : Joined V.functions Q) {render : Renderer Empty} {ns ns' : List (Node Empty)}
  (hrest : ∀ I, Simulates A V I Q (renderAll render ns) (renderAll render ns'))
include hQ hrest

theorem renderAll_simulates_append {n : Node Empty} {ms : List (Node Empty)}
    (hn : Simulates A V I (fun J v ws => Q J [v] ws) (render n) (renderAll render ms)) :
    Simulates A V I Q (renderAll render (n :: ns)) (renderAll render (ms ++ ns')) := by
  rw [renderAll_append]
  refine hn.bind fun J v ws _ hv => (hrest J).map fun K vs ws' hK hvs => ?_
  exact hQ.append K [v] ws vs ws' (hQ.mono J K _ _ hK hv) hvs

theorem renderAll_simulates_cons {n m : Node Empty}
    (hn : Simulates A V I (fun J v w => Q J [v] [w]) (render n) (render m)) :
    Simulates A V I Q (renderAll render (n :: ns)) (renderAll render (m :: ns')) := by
  have hn : Simulates A V I (fun J v ws => Q J [v] ws) (render n) (renderAll render [m]) := by
    have := hn.map (f := id) (g := fun w => [w]) (Q := fun J v ws => Q J [v] ws) fun _ _ _ _ => id
    rw [renderAll_singleton]
    simpa using this
  exact renderAll_simulates_append hQ hrest hn

end

/-! ## Renders that succeed -/

namespace RenderM

variable {η α β : Type}

theorem ok_of_bind {x : RenderM η α} {f : α → RenderM η β} {c c' : Context η} {b : β}
    (h : (x >>= f) c = some (.ok b, c')) : ∃ a c₁, x c = some (.ok a, c₁) ∧ f a c₁ = some (.ok b, c') := by
  rw [bind_apply] at h
  cases hx : x c with
  | none =>
    rw [hx] at h
    cases h
  | some o =>
    rw [hx] at h
    obtain ⟨e | a, c₁⟩ := o
    · cases h
    · exact ⟨a, c₁, rfl, h⟩

theorem ok_of_bracket {before : RenderM η β} {after : β → RenderM η Unit}
    {x : RenderM η α} {c c₁ c' : Context η} {b : β} {a : α} (hb : before c = some (.ok b, c₁))
    (h : bracket before after x c = some (.ok a, c')) :
    ∃ c₂, x c₁ = some (.ok a, c₂) ∧ after b c₂ = some (.ok (), c') := by
  rw [bracket_apply hb] at h
  cases hx : x c₁ with
  | none =>
    rw [hx] at h
    cases h
  | some o =>
    obtain ⟨r, c₂⟩ := o
    rw [hx] at h
    obtain ⟨_, c₃, hafter, hr⟩ := ok_of_bind h
    obtain ⟨rfl, rfl⟩ := Prod.mk.inj (Option.some.inj hr)
    exact ⟨c₂, rfl, hafter⟩

end RenderM

/-- Where the contents of a template without a parent start to render. -/
def Context.started {η : Type} (c : Context η) (t : Template η) : Context η :=
  queueBlocks c.enter [t]

section
variable {engine : Engine Empty} {render : Renderer Empty} {t : Template Empty}

theorem renderFragment_ok {ns : List (Node Empty)} {c c' : Context Empty} {v : Val Empty}
    (h : renderFragment engine render ns c = some (.ok v, c')) :
    ∃ vs c₂, renderAll render ns c = some (.ok vs, c₂) ∧
      engine.mode.fragment (.made c₂.made) (Value.flatten vs) = .ok v ∧
      c' = { c₂ with made := c₂.made + 1 } := by
  obtain ⟨vs, c₂, hvs, h⟩ := ok_of_bind h
  have h : ofFault (engine.mode.fragment (.made c₂.made) (Value.flatten vs)) { c₂ with made := c₂.made + 1 } =
      some (.ok v, c') := h
  refine ⟨vs, c₂, hvs, ?_⟩
  cases hfragment : engine.mode.fragment (.made c₂.made) (Value.flatten vs) with
  | error fault =>
    rw [hfragment] at h
    cases h
  | ok w =>
    rw [hfragment] at h
    obtain ⟨hw, rfl⟩ := Prod.mk.inj (Option.some.inj h)
    exact ⟨congrArg Except.ok (Except.ok.inj hw), rfl⟩

variable (hparent : t.parent = none) (hrestores : ∀ n, Restores n.bound (render n))
include hparent hrestores

theorem renderTemplate_ok {c c' : Context Empty} {v : Val Empty}
    (h : renderTemplate engine render t c = some (.ok v, c')) :
    ∃ vs c₂, renderAll render t.contents (c.started t) = some (.ok vs, c₂) ∧
      engine.mode.fragment (.made c₂.made) (Value.flatten vs) = .ok v ∧ c'.made = c₂.made + 1 ∧
        c'.render = c.render := by
  have henter : (update (·.enter) : RenderM Empty Unit) c = some (.ok (), c.enter) := rfl
  obtain ⟨c₁, hchain, hleave⟩ := ok_of_bracket henter h
  rw [leaveTemplate_of_saved (saved_of_renderChain hrestores hchain)] at hleave
  obtain ⟨-, rfl⟩ := Prod.mk.inj (Option.some.inj hleave)
  have hderives : engine.Derives t ⟨[], t⟩ := .root hparent
  rw [renderChain_of_ok (hderives.chain_eq (List.nodup_singleton _)), inTemplate_apply] at hchain
  obtain ⟨⟨r, c₁'⟩, hfragment, heq⟩ := Option.map_eq_some_iff.mp hchain
  obtain ⟨hr, rfl⟩ := Prod.mk.inj heq
  cases r with
  | error e => cases hr
  | ok w =>
    obtain rfl := Except.ok.inj hr
    obtain ⟨vs, c₂, hvs, hv, rfl⟩ := renderFragment_ok hfragment
    exact ⟨vs, c₂, hvs, hv, rfl, rfl⟩

theorem renderInside_ok {c c' : Context Empty} {v : Val Empty}
    (h : renderInside engine render t [] c = some (.ok v, c')) :
    ∃ vs c₂, renderAll render t.contents ({ c.push [] with depth := c.depth + 1 }.started t) =
      some (.ok vs, c₂) ∧ engine.mode.fragment (.made c₂.made) (Value.flatten vs) = .ok v ∧
      c'.made = c₂.made + 1 ∧
        c'.render = c.render := by
  have hpush : (update (·.push []) : RenderM Empty Unit) c = some (.ok (), c.push []) := rfl
  obtain ⟨c₁, hdeeper, hpop⟩ := ok_of_bracket hpush h
  obtain ⟨_, c₃, hc₃, -, -⟩ := ((restores_template hrestores t).outcome trivial hdeeper).2.pop?
  rw [popFrame_discard hc₃] at hpop
  obtain ⟨-, rfl⟩ := Prod.mk.inj (Option.some.inj hpop)
  rw [(Context.pop?_eq hc₃).1, (Context.pop?_eq hc₃).2]
  have hdeep :
      (modifyGet fun c => (c.depth, { c with depth := c.depth + 1 }) : RenderM Empty Nat) (c.push []) =
      some (.ok c.depth, { c.push [] with depth := c.depth + 1 }) := rfl
  obtain ⟨c₂, htemplate, hdepth⟩ := ok_of_bracket hdeep hdeeper
  obtain ⟨-, rfl⟩ := Prod.mk.inj (Option.some.inj hdepth)
  obtain ⟨vs, c₄, hvs, hv, hmade, hrender⟩ := renderTemplate_ok hparent hrestores htemplate
  exact ⟨vs, c₄, hvs, hv, hmade, hrender⟩

end

/-! ## Views -/

namespace Node

variable {η : Type}

/-- The node itself is not a block. -/
def NotBlock : Node η → Prop
  | .block _ => False
  | _ => True

/-- The node itself is not a cycle. -/
def NotCycle : Node η → Prop
  | .cycle .. => False
  | _ => True

/-- The variables that the node itself sets where it renders, with the state of the loop that a loop sets. -/
def sets : Node η → List String
  | .loop vars _ _ _ => "forloop" :: vars
  | .cycle _ _ name _ => name.toList
  | _ => []

end Node

/-- Variables with the values that they have in a context and keep where these nodes render. -/
structure Context.Keeps (c : Context Empty) (ns : List (Node Empty))
    (fixed : String → Option (Val Empty)) : Prop where
  value : ∀ x v, fixed x = some v → c.get? x = some v
  unbound : ∀ n ∈ ns, n.Throughout fun m => ∀ x ∈ m.sets, fixed x = none

/-- The view of two renders without functions whose templates are in the same state. -/
def View.plain (K : Identity → Prop) (fixed : String → Option (Val Empty)) : View :=
  ⟨True, False, K, fixed, none, False.elim⟩

/-- The view of an included template on the left, and on the right of its contents, in a template in
this state. -/
def View.spliced (K : Identity → Prop) (frame : RenderFrame Empty) : View :=
  ⟨False, False, K, fun _ => none, some frame, False.elim⟩

/-- No test catches the error. -/
def Uncaught (e : Error) : Prop :=
  e.kind ≠ .variableNotFound

section
variable {engine : Engine Empty} {K : Identity → Prop} {fixed : String → Option (Val Empty)}
  {ns : List (Node Empty)}

theorem View.allowsAll_plain (hliterals : ∀ n ∈ ns, n.Throughout (Node.LiteralKnown K))
    (hblocks : ∀ n ∈ ns, n.Throughout Node.NotBlock)
    (hfixed : ∀ n ∈ ns, n.Throughout fun m => ∀ x ∈ m.sets, fixed x = none) :
    (View.plain K fixed).AllowsAll ns := by
  intro n hn m hm
  cases m with
  | literal v => exact hliterals n hn _ hm
  | loop vars list contents fallback => exact hfixed n hn _ hm
  | block b => exact hblocks n hn _ hm
  | cycle k values name silent => exact ⟨rfl, fun x hx => hfixed n hn _ hm x (Option.mem_toList.mpr hx)⟩
  | _ => trivial

theorem View.allowsAll_spliced (frame : RenderFrame Empty)
    (hliterals : ∀ n ∈ ns, n.Throughout (Node.LiteralKnown K))
    (hblocks : ∀ n ∈ ns, n.Throughout Node.NotBlock) (hcycles : ∀ n ∈ ns, n.Throughout Node.NotCycle) :
    (View.spliced K frame).AllowsAll ns := by
  intro n hn m hm
  cases m with
  | literal v => exact hliterals n hn _ hm
  | loop vars list contents fallback => exact fun _ _ => rfl
  | block b => exact hblocks n hn _ hm
  | cycle k values name silent => exact (hcycles n hn _ hm).elim
  | _ => trivial

variable (huniform : engine.mode.Uniform False)
  (hliterals : ∀ name t, engine.template? name = some t → t.LiteralsKnown K)
include huniform hliterals

theorem View.suits_plain : (View.plain K fixed).Suits (fun _ => False) engine where
  caught := fun _ h => h.elim
  named := fun _ _ h => h
  deep := .inl trivial
  uniform := huniform
  registered := fun name t ht => View.allowsAll_free (hliterals name t ht)

theorem View.suits_spliced (frame : RenderFrame Empty) : (View.spliced K frame).Suits Uncaught engine where
  caught := fun _ => id
  named := fun _ _ => id
  deep := .inr fun _ => nofun
  uniform := huniform
  registered := fun name t ht => View.allowsAll_free (hliterals name t ht)

theorem plain_mirrors (depth : Nat) : Mirrors (fun _ => True) (View.plain K fixed)
    (renderNode engine depth) :=
  (renderNode_mirrors engine depth (View.suits_plain huniform hliterals)).weaken fun _ h => h.elim

end

section
variable {A : Error → Prop} {K : Identity → Prop} {fixed : String → Option (Val Empty)} {I : Pairing}
  (render : Renderer Empty)

theorem plain_resolve (v : Variable) :
    Simulates A (View.plain K fixed) I (Matches False) (resolve render v) (resolve render v) := by
  have hcalls : CallsMirror A (View.plain K fixed) render := fun (h : False) => h.elim
  exact resolve_simulates hcalls v

theorem plain_test (test : Test Empty) :
    Simulates (fun _ => True) (View.plain K fixed) I (fun _ b b' => b = b')
    (runTest (resolve render) render test) (runTest (resolve render) render test) := by
  have htest : Simulates (fun _ => False) (View.plain K fixed) I (fun _ b b' => b = b')
      (runTest (resolve render) render test) (runTest (resolve render) render test) :=
    runTest_simulates (fun _ => plain_resolve render) (fun _ h => h.elim) test
  exact htest.weaken (fun _ h => h.elim) fun _ _ _ _ => id

end

theorem Node.bound_eq_empty {η : Type} {n : Node η} (h : n.Throughout Node.NotCycle) : n.bound = ∅ := by
  refine Set.eq_empty_of_forall_notMem ?_
  rintro name ⟨id, values, silent, hcycle⟩
  exact h _ (Relation.ReflTransGen.mono (fun _ _ => Node.children_of_sameFrame) _ _ hcycle)

/-! ## The inclusion -/

section
variable {η : Type} (engine : Engine η)

/-- The template that a value names, or that is the first one of a list of names. -/
def Engine.named? : Val η → Option (Template η)
  | .string name => engine.template? name
  | .list items => (templateNames items).toOption.bind (·.findSome? engine.template?)
  | _ => none

/-- The template that a target stands for where some variables have these values. -/
def Engine.target? (fixed : String → Option (Val η)) : Target → Option (Template η)
  | .name name => engine.template? name
  | .names names => names.findSome? engine.template?
  | .var v => ((fixed v.segments.1).bind (·.along? v.segments.2)).bind engine.named?

variable {engine}

theorem Engine.template_of_some {name : String} {t : Template η} (h : engine.template? name = some t) :
    engine.template name = .ok t := by
  rw [Engine.template, h]

theorem Engine.anyTemplate_of_some {names : List String} {t : Template η}
    (h : names.findSome? engine.template? = some t) : engine.anyTemplate names = .ok t := by
  rw [Engine.anyTemplate, h]

theorem Engine.registered_of_findSome? {names : List String} {t : Template η}
    (h : names.findSome? engine.template? = some t) : ∃ name, engine.template? name = some t := by
  obtain ⟨name, -, hname⟩ := List.exists_of_findSome?_eq_some h
  exact ⟨name, hname⟩

theorem Engine.registered_of_named? {v : Val η} {t : Template η} (h : engine.named? v = some t) :
    ∃ name, engine.template? name = some t := by
  cases v with
  | string name => exact ⟨name, h⟩
  | list items =>
    obtain ⟨names, -, hnames⟩ := Option.bind_eq_some_iff.mp h
    exact Engine.registered_of_findSome? hnames
  | _ => cases h

theorem Engine.registered_of_target? {fixed : String → Option (Val η)} {target : Target} {t : Template η}
    (h : engine.target? fixed target = some t) : ∃ name, engine.template? name = some t := by
  cases target with
  | name name => exact ⟨name, h⟩
  | names names => exact Engine.registered_of_findSome? h
  | var v =>
    obtain ⟨value, -, hvalue⟩ := Option.bind_eq_some_iff.mp h
    exact Engine.registered_of_named? hvalue

theorem renderInclusion_of_found {resolve : Resolver η} {render : Renderer η}
    {target : Target} {t : Template η} {c : Context η}
    (h : findTarget engine resolve target c = some (.ok t, c)) :
    renderInclusion engine resolve render target [] false c =
      if engine.maxIncludeDepth ≤ c.depth then fail (.includeDepth engine.maxIncludeDepth) c
      else renderInside engine render t [] c := by
  rw [renderInclusion, RenderM.bind_apply, h]
  show (if engine.maxIncludeDepth ≤ c.depth then _ else _ : RenderM η (Val η)) c = _
  split <;> rfl

end

section
variable {I : Pairing} {render : Renderer Empty} {calls : Bool}

theorem reach_of_matches {receiver v w : Val Empty} (h : Matches False I v w) :
    reach render calls receiver v = pure v := by
  cases h with
  | function f hF hij => exact hF.elim
  | _ => rfl

theorem followAll_of_along? : ∀ {names : List String} {v w u : Val Empty}, Matches False I v w →
    v.along? names = some u → followAll render calls v names = pure u
  | [], _, _, _, _, hu => congrArg pure (Option.some.inj hu)
  | name :: names, v, w, u, h, hu => by
    obtain ⟨x, hx, hu⟩ := Option.bind_eq_some_iff.mp hu
    obtain ⟨y, hxy⟩ : ∃ y, Matches False I x y := by
      have hproperty := h.property? name
      rw [hx] at hproperty
      generalize w.property? name = o at hproperty
      cases hproperty with
      | some hxy => exact ⟨_, hxy⟩
    rw [followAll, follow, hx]
    show reach render calls v x >>= _ = _
    rw [reach_of_matches hxy, pure_bind]
    exact followAll_of_along? hxy hu

theorem findTarget_of_target? {engine : Engine Empty} {K : Identity → Prop}
    {fixed : String → Option (Val Empty)} {c d : Context Empty}
    (hcd : Related (View.plain K fixed) I c d) {target : Target} {t : Template Empty}
    (h : engine.target? fixed target = some t) :
    findTarget engine (resolve render) target c = some (.ok t, c) := by
  cases target with
  | name name => rw [findTarget, Engine.template_of_some h]; rfl
  | names names => rw [findTarget, Engine.anyTemplate_of_some h]; rfl
  | var v =>
    obtain ⟨u, hu, hnamed⟩ := Option.bind_eq_some_iff.mp h
    obtain ⟨value, hvalue, hu⟩ := Option.bind_eq_some_iff.mp hu
    have hget := hcd.scope.fixed _ _ hvalue
    obtain ⟨w, hw⟩ : ∃ w, Matches False I value w := by
      have hlookup := hcd.scope.lookup v.segments.1
      rw [hget] at hlookup
      generalize d.get? v.segments.1 = o at hlookup
      cases hlookup with
      | some hw => exact ⟨_, hw⟩
    have hresolve : resolve render v c = some (.ok u, c) := by
      rw [resolve_eq, RenderM.get_bind_apply, hget]
      show (reach render v.calls .none value >>= _) c = _
      rw [reach_of_matches hw, pure_bind, followAll_of_along? hw hu]
      rfl
    rw [findTarget, RenderM.bind_apply, hresolve]
    cases u with
    | string name =>
      show ofResult (engine.template name) c = _
      rw [Engine.template_of_some hnamed]
      rfl
    | list items =>
      obtain ⟨names, hnames, hfound⟩ := Option.bind_eq_some_iff.mp hnamed
      have hok : templateNames items = .ok names := by
        cases hitems : templateNames items with
        | error e =>
          rw [hitems] at hnames
          cases hnames
        | ok names' =>
          rw [hitems] at hnames
          exact congrArg Except.ok (Option.some.inj hnames)
      show (ofFault (templateNames items) >>= fun names => ofResult (engine.anyTemplate names)) c = _
      rw [hok]
      show ofResult (engine.anyTemplate names) c = _
      rw [Engine.anyTemplate_of_some hfound]
      rfl
    | _ => cases hnamed

end

/-- Where an included template starts, its contents see the variables that they see in place of the
inclusion, from one frame and one inclusion further in. -/
theorem Related.started {K : Identity → Prop} {fixed : String → Option (Val Empty)}
    {I : Pairing} {c d : Context Empty} (h : Related (View.plain K fixed) I c d) (t : Template Empty) :
    Related (View.spliced K d.render) I ({ c.push [] with depth := c.depth + 1 }.started t) d := by
  have hscope : (View.spliced K d.render).SameScope I { c.push [] with depth := c.depth + 1 }.enter d :=
    ⟨h.scope.lookup, nofun, nofun, h.scope.depth.trans (Nat.le_succ _), False.elim⟩
  refine ⟨⟨?_, fun _ => Option.some.inj, nofun, False.elim⟩, ?_⟩
  · rw [Context.started, queueBlocks_made]
    exact h.pairing
  · exact hscope.restored (Context.queueBlocks_scope _ _) (.refl d)

theorem restores_renderAll {render : Renderer Empty} {ns : List (Node Empty)} {names : Set String}
    (h : ∀ n ∈ ns, Restores names (render n)) : Restores names (renderAll render ns) :=
  fun start hstart => (renderAll_lockstep fun n hn => (h n hn start hstart)).weaken fun _ _ => trivial

/-! ## Contents in place of the inclusion -/

/-- The second list of nodes has the contents of a template where the first one, somewhere in the
contents of elements, loops and conditionals, has a plain inclusion of it. -/
inductive Splices (engine : Engine Empty) (fixed : String → Option (Val Empty)) (t : Template Empty) :
    List (Node Empty) → List (Node Empty) → Prop
  | here {target : Target} (h : engine.target? fixed target = some t) (rest : List (Node Empty)) :
    Splices engine fixed t (.inclusion target [] false :: rest) (t.contents ++ rest)
  | later (n : Node Empty) {ns ms : List (Node Empty)} (h : Splices engine fixed t ns ms) :
    Splices engine fixed t (n :: ns) (n :: ms)
  | element (tag : String) (attributes : List (String × Node Empty)) (rest : List (Node Empty))
    {ns ms : List (Node Empty)} (h : Splices engine fixed t ns ms) :
    Splices engine fixed t (.element tag attributes ns :: rest) (.element tag attributes ms :: rest)
  | loop (vars : List String) (list : Variable) (fallback rest : List (Node Empty))
      {ns ms : List (Node Empty)}
    (h : Splices engine fixed t ns ms) :
    Splices engine fixed t (.loop vars list ns fallback :: rest) (.loop vars list ms fallback :: rest)
  | fallback (vars : List String) (list : Variable) (contents rest : List (Node Empty))
      {ns ms : List (Node Empty)}
    (h : Splices engine fixed t ns ms) :
    Splices engine fixed t (.loop vars list contents ns :: rest) (.loop vars list contents ms :: rest)
  | cond (test : Test Empty) (otherwise rest : List (Node Empty)) {ns ms : List (Node Empty)}
    (h : Splices engine fixed t ns ms) :
    Splices engine fixed t (.cond test ns otherwise :: rest) (.cond test ms otherwise :: rest)
  | otherwise (test : Test Empty) (contents rest : List (Node Empty)) {ns ms : List (Node Empty)}
    (h : Splices engine fixed t ns ms) :
    Splices engine fixed t (.cond test contents ns :: rest) (.cond test contents ms :: rest)

section
variable {engine : Engine Empty} {K : Identity → Prop}
  {fixed : String → Option (Val Empty)} {W : Type} [Append W]
  {write : List (Val Empty) → Except RenderFault W} {wrap : W → Markup}
  (hmode : engine.mode.Seamless write wrap) (huniform : engine.mode.Uniform False)
  (hliterals : ∀ name t, engine.template? name = some t → t.LiteralsKnown K) {t : Template Empty}
  (hparent : t.parent = none) (hblocks : ∀ n ∈ t.contents, n.Throughout Node.NotBlock)
  (hcycles : ∀ n ∈ t.contents, n.Throughout Node.NotCycle)
include hmode huniform hliterals hparent hblocks hcycles

theorem inclusion_simulates {target : Target} (htarget : engine.target? fixed target = some t) {I : Pairing}
    (depth : Nat) : Simulates (fun _ => True) (View.plain K fixed) I (fun _ v ws => Covers write [v] ws)
      (renderNode engine (depth + 1) (.inclusion target [] false))
      (renderAll (renderNode engine (depth + 1)) t.contents) := by
  intro J c d hJ hcd
  -- only successes count: the inclusion may fail where its contents do not, for it is one inclusion
  -- further in
  refine .of_ok fun v c' h => ?_
  have hrestores := restores_renderNode engine depth
  have hliteral : t.LiteralsKnown K := by
    obtain ⟨name, ht⟩ := Engine.registered_of_target? htarget
    exact hliterals name t ht
  change renderInclusion engine _ (renderNode engine depth) target [] false c = some (.ok v, c') at h
  rw [renderInclusion_of_found (findTarget_of_target? hcd htarget)] at h
  by_cases hdepth : engine.maxIncludeDepth ≤ c.depth
  · rw [if_pos hdepth] at h
    cases h
  rw [if_neg hdepth] at h
  have hleft : Context.Restored ∅ c c' := by
    have hinside : Restores ∅ (renderInside engine (renderNode engine depth) t []) :=
      (restores_template hrestores t).inFrame stable_true []
    exact (hinside.outcome trivial h).2
  obtain ⟨vs, c₂, hvs, hv, hmade, hrender⟩ := renderInside_ok hparent hrestores h
  have hcontents := (renderNode_mirrors engine depth (View.suits_spliced huniform hliterals d.render)).all
    (View.allowsAll_spliced d.render hliteral hblocks hcycles) J _ d (le_refl J) (hcd.started t)
  rw [hvs] at hcontents
  obtain ⟨L, ws, d₂, hL, hws, hrelated, hmatch⟩ := hcontents.exists_ok
  have hright : Context.Restored ∅ d d₂ := by
    have hall : Restores ∅ (renderAll (renderNode engine depth) t.contents) :=
      restores_renderAll fun n hn => Node.bound_eq_empty (hcycles n hn) ▸ hrestores n
    exact (hall.outcome trivial hws).2
  refine ⟨L, ws, d₂, hL,
    renderAll_extends (renderNode_extends engine depth.le_succ) t.contents d _ hws, ?_, ?_⟩
  · refine ⟨⟨?_, nofun, fun _ => ?_, False.elim⟩,
      (hcd.scope.mono hL).restored hleft.toSameScope hright.toSameScope⟩
    · rw [hmade]
      exact hrelated.pairing.mono (Nat.le_succ _) (le_refl _)
    · calc c'.render = c.render := hrender
        _ = d.render := hcd.state.together rfl
        _ = d₂.render := (hrelated.state.apart _ rfl).symm
  · intro w hw
    rw [hmode.fragment] at hv
    obtain ⟨x, hx, rfl⟩ := Except.ok_of_map hv
    have hw : write [.markup _ (wrap x)] = .ok w := hw
    rw [hmode.again] at hw
    rw [← hw, ← hx]
    exact (hmode.matching (Value.AllMatch.flatten hmatch)).symm

theorem splices_simulates {ns ms : List (Node Empty)} (h : Splices engine fixed t ns ms)
    (hns : (View.plain K fixed).AllowsAll ns) (depth : Nat) :
    ∀ I, Simulates (fun _ => True) (View.plain K fixed) I (fun _ => Covers write)
      (renderAll (renderNode engine depth) ns) (renderAll (renderNode engine depth) ms) := by
  have hjoined := hmode.joined (View.plain K fixed).functions
  have hall {ns : List (Node Empty)} (hns : (View.plain K fixed).AllowsAll ns) (depth : Nat) (I : Pairing) :
      Simulates (fun _ => True) (View.plain K fixed) I (fun _ => Covers write)
        (renderAll (renderNode engine depth) ns) (renderAll (renderNode engine depth) ns) :=
    ((plain_mirrors huniform hliterals depth).all hns).weaken (fun _ => id) fun J vs ws _ =>
      hjoined.matching J vs ws
  have hreplaced {n m : Node Empty} {rest : List (Node Empty)} (hrest : (View.plain K fixed).AllowsAll rest)
      (hnode : ∀ depth I, Simulates (fun _ => True) (View.plain K fixed) I (fun _ v w => Covers write [v] [w])
        (renderStep engine (renderNode engine depth) n) (renderStep engine (renderNode engine depth) m))
      (depth : Nat) (I : Pairing) : Simulates (fun _ => True) (View.plain K fixed) I (fun _ => Covers write)
        (renderAll (renderNode engine depth) (n :: rest))
        (renderAll (renderNode engine depth) (m :: rest)) := by
    cases depth with
    | zero => exact fun _ _ _ _ _ => .unfinished _
    | succ depth => exact renderAll_simulates_cons hjoined (hall hrest (depth + 1)) (hnode depth I)
  -- along the way to the inclusion, with the contents on that way as `ns` and `ms`; all beside it is on
  -- both sides
  induction h generalizing depth with
  | here htarget rest =>
    intro I
    obtain ⟨-, hrest⟩ := List.forall_mem_cons.mp hns
    cases depth with
    | zero => exact fun _ _ _ _ _ => .unfinished _
    | succ depth =>
      refine renderAll_simulates_append hjoined (hall hrest (depth + 1)) ?_
      exact inclusion_simulates hmode huniform hliterals hparent hblocks hcycles htarget depth
  | later n h ih =>
    intro I
    obtain ⟨hn, hns⟩ := List.forall_mem_cons.mp hns
    refine renderAll_simulates_cons hjoined (ih hns depth) ?_
    refine (plain_mirrors huniform hliterals depth I n hn).weaken (fun _ => id) fun J v w _ hv => ?_
    exact hjoined.matching J _ _ (.cons hv .nil)
  | element tag attributes rest h ih =>
    obtain ⟨hn, hrest⟩ := List.forall_mem_cons.mp hns
    refine hreplaced hrest (fun depth I => ?_) depth
    have hattributes : ∀ e ∈ attributes, e.2.Throughout (View.plain K fixed).Allows :=
      fun e he => hn.child (List.mem_append_left _ (List.mem_map_of_mem he))
    refine (renderElement_simulates (fun _ => plain_resolve (renderNode engine depth))
      (plain_mirrors huniform hliterals depth) hjoined hattributes
      (ih (fun m hm => hn.child (List.mem_append_right _ hm)) depth) ?_).weaken (fun _ => id) ?_
    · exact fun J i j es fs vs ws hij hes hcovers =>
        .ofFault_of_ok fun L _ _ v hL _ hv => hmode.element tag (hL _ _ hij) (hes.mono id hL) hcovers hv
    · exact fun J v w _ hv => hjoined.matching J _ _ (.cons hv .nil)
  | loop vars list fallback rest h ih =>
    obtain ⟨hn, hrest⟩ := List.forall_mem_cons.mp hns
    refine hreplaced hrest (fun depth I => ?_) depth
    exact renderLoop_simulates hjoined (ih (fun m hm => hn.child (List.mem_append_left _ hm)) depth) hn.here
      (fun _ _ _ => Covers.list) (restores_renderNode engine depth) (plain_resolve _ list)
      (hall (fun m hm => hn.child (List.mem_append_right _ hm)) depth)
  | fallback vars list contents rest h ih =>
    obtain ⟨hn, hrest⟩ := List.forall_mem_cons.mp hns
    refine hreplaced hrest (fun depth I => ?_) depth
    exact renderLoop_simulates hjoined (hall (fun m hm => hn.child (List.mem_append_left _ hm)) depth) hn.here
      (fun _ _ _ => Covers.list) (restores_renderNode engine depth) (plain_resolve _ list)
      (ih (fun m hm => hn.child (List.mem_append_right _ hm)) depth)
  | cond test otherwise rest h ih =>
    obtain ⟨hn, hrest⟩ := List.forall_mem_cons.mp hns
    refine hreplaced hrest (fun depth I => ?_) depth
    exact renderCond_simulates (fun _ _ _ => Covers.list) (plain_test _ test)
      (ih (fun m hm => hn.child (List.mem_append_left _ hm)) depth)
      (hall (fun m hm => hn.child (List.mem_append_right _ hm)) depth)
  | otherwise test contents rest h ih =>
    obtain ⟨hn, hrest⟩ := List.forall_mem_cons.mp hns
    refine hreplaced hrest (fun depth I => ?_) depth
    exact renderCond_simulates (fun _ _ _ => Covers.list) (plain_test _ test)
      (hall (fun m hm => hn.child (List.mem_append_left _ hm)) depth)
      (ih (fun m hm => hn.child (List.mem_append_right _ hm)) depth)

theorem renderFragment_splices {ns ms : List (Node Empty)} (h : Splices engine fixed t ns ms)
    (hns : (View.plain K fixed).AllowsAll ns) {c : Context Empty}
    (hc : Related (View.plain K fixed) (fun i j => i = j ∧ K i) c c) {depth : Nat}
    {v : Val Empty} {c' : Context Empty}
    (hrender : renderFragment engine (renderNode engine depth) ns c = some (.ok v, c')) :
    ∃ w d s, renderFragment engine (renderNode engine depth) ms c = some (.ok w, d) ∧ v.text = .ok s ∧
      w.text = .ok s := by
  have hcontents := splices_simulates hmode huniform hliterals hparent hblocks hcycles h hns depth
  have hfragment : Simulates (fun _ => True) (View.plain K fixed) (fun i j => i = j ∧ K i)
      (fun _ v w => ∃ s, v.text = .ok s ∧ w.text = .ok s) (renderFragment engine (renderNode engine depth) ns)
      (renderFragment engine (renderNode engine depth) ms) := by
    refine renderFragment_simulates (hmode.joined _) (hcontents _) fun J i j vs ws _ hcovers => ?_
    refine .ofFault_of_ok fun L _ _ v _ _ hv => ?_
    rw [hmode.fragment] at hv ⊢
    obtain ⟨x, hx, rfl⟩ := Except.ok_of_map hv
    exact ⟨.markup j (wrap x), by rw [hcovers x hx]; rfl, (wrap x).html, rfl, rfl⟩
  have hfollows := hfragment _ c c (le_refl _) hc
  rw [hrender] at hfollows
  obtain ⟨-, w, d, -, hw, -, s, hv, hs⟩ := hfollows.exists_ok
  exact ⟨w, d, s, hw, hv, hs⟩

end

/-- Where a tree of nodes renders with a plain inclusion of a template that has neither a parent nor
blocks nor cycles, it renders with the contents of the template in place of the inclusion, and to the
same text. -/
theorem inclusion_is_transparent {engine : Engine Empty}
    (hmode : engine.mode = Html.mode ∨ engine.mode = Tree.mode)
    {K : Identity → Prop} (hliterals : ∀ name t, engine.template? name = some t → t.LiteralsKnown K)
    {t : Template Empty} (hparent : t.parent = none) (hblocks : ∀ n ∈ t.contents, n.Throughout Node.NotBlock)
    (hcycles : ∀ n ∈ t.contents, n.Throughout Node.NotCycle) {fixed : String → Option (Val Empty)}
    {ns ms : List (Node Empty)} (h : Splices engine fixed t ns ms)
    (hnodes : ∀ n ∈ ns, n.Throughout (Node.LiteralKnown K)) (hnoblocks : ∀ n ∈ ns, n.Throughout Node.NotBlock)
    {c : Context Empty} (hkeeps : c.Keeps ns fixed) (hK : ∀ i, K i → i.Before c.made)
    (hvalues : ∀ frame ∈ c.frames, ∀ e ∈ frame, e.2.Known False K) {depth : Nat}
    {v : Val Empty} {c' : Context Empty}
    (hrender : renderFragment engine (renderNode engine depth) ns c = some (.ok v, c')) :
    ∃ w d s, renderFragment engine (renderNode engine depth) ms c = some (.ok w, d) ∧ v.text = .ok s ∧
      w.text = .ok s := by
  have hns := View.allowsAll_plain hnodes hnoblocks hkeeps.unbound
  have hsame : c.SameVariables c := ⟨rfl, rfl, rfl⟩
  have hc : Related (View.plain K fixed) (fun i j => i = j ∧ K i) c c :=
    ⟨⟨Pairing.valid_eq fun i hi => ⟨hK i hi, hK i hi⟩, nofun, fun _ => rfl, fun h => h.elim⟩,
      hsame.scope hvalues hkeeps.value⟩
  rcases hmode with hmode | hmode
  · exact renderFragment_splices (hmode ▸ Html.seamless) (hmode ▸ Html.uniform False)
      hliterals hparent hblocks hcycles h hns hc hrender
  · exact renderFragment_splices (hmode ▸ Tree.seamless) (hmode ▸ Tree.uniform False)
      hliterals hparent hblocks hcycles h hns hc hrender

/-- Rows of a list, spelled out by a template that a variable names, inside of elements. -/
theorem included_rows_are_spelled_out :
    let row : List (Node Empty) := [.var (.called "i"), .literal (.string "<")]
    let part : Template Empty := ⟨"part", none, row, [], rfl⟩
    let engine : Engine Empty := Engine.html.add part
    let loop (contents : List (Node Empty)) : List (Node Empty) :=
      [.loop ["i"] (.called "items") [.element "b" [] contents] []]
    let plain := loop [.inclusion (.var (.called "what")) [] false]
    let c : Context Empty :=
      .withGlobals [("items", .list [.string "a", .string "&"]), ("what", .string "part")]
    ∃ v c', renderFragment engine (renderNode engine 4) plain c = some (.ok v, c') ∧
      v.text = .ok "<b>a&lt;</b><b>&amp;&lt;</b>" ∧
      ∃ w d, renderFragment engine (renderNode engine 4) (loop row) c = some (.ok w, d) ∧
        w.text = v.text := by
  intro row part engine loop plain c
  have hstring {s : String} : (Value.string s : Val Empty).Known False fun _ => False :=
    .of_parts trivial nofun
  have hrow (p : Node Empty → Prop) (hvar : p (.var (.called "i"))) (hliteral : p (.literal (.string "<"))) :
      ∀ n ∈ row, n.Throughout p := by
    refine List.forall_mem_cons.mpr ⟨Node.throughout_iff.mpr ⟨hvar, nofun⟩, ?_⟩
    exact List.forall_mem_singleton.mpr (Node.throughout_iff.mpr ⟨hliteral, nofun⟩)
  have hplain (p : Node Empty → Prop) (hloop : p (.loop ["i"] (.called "items")
      [.element "b" [] [.inclusion (.var (.called "what")) [] false]] []))
      (helement : p (.element "b" [] [.inclusion (.var (.called "what")) [] false]))
      (hinclusion : p (.inclusion (.var (.called "what")) [] false)) : ∀ n ∈ plain, n.Throughout p := by
    refine List.forall_mem_singleton.mpr (Node.throughout_iff.mpr ⟨hloop, List.forall_mem_singleton.mpr ?_⟩)
    refine Node.throughout_iff.mpr ⟨helement, List.forall_mem_singleton.mpr ?_⟩
    exact Node.throughout_iff.mpr ⟨hinclusion, nofun⟩
  have hliterals : ∀ name t, engine.template? name = some t → t.LiteralsKnown fun _ => False := by
    intro name t ht
    have hmem : (name, t) ∈ [("part", part)] := Dict.mem_of_get? ht
    obtain ⟨-, rfl⟩ := Prod.mk.inj (List.mem_singleton.mp hmem)
    exact hrow _ trivial hstring
  let fixed (x : String) : Option (Val Empty) := if x = "what" then some (.string "part") else none
  have hkeeps : c.Keeps plain fixed := by
    refine ⟨fun x v hx => ?_, hplain _ (by decide) nofun nofun⟩
    obtain ⟨rfl, rfl⟩ : x = "what" ∧ Value.string "part" = v := by simpa [fixed] using hx
    rfl
  have hsplices : Splices engine fixed part plain (loop row) := by
    have htarget : engine.target? fixed (.var (.called "what")) = some part := rfl
    exact .loop _ _ _ _ (.element _ _ _ (.here htarget []))
  have hitems : ∀ e ∈ [("items", Value.list [.string "a", .string "&"]), ("what", Value.string "part")],
      (e.2 : Val Empty).Known False fun _ => False := by
    refine List.forall_mem_cons.mpr ⟨.of_parts trivial ?_, List.forall_mem_singleton.mpr hstring⟩
    exact List.forall_mem_cons.mpr ⟨hstring, List.forall_mem_singleton.mpr hstring⟩
  have hrendered :
      ((renderFragment engine (renderNode engine 4) plain c).bind (·.1.toOption)).map Value.text =
      some (.ok "<b>a&lt;</b><b>&amp;&lt;</b>") := by
    decide +kernel
  obtain ⟨v, hv, htext⟩ := Option.map_eq_some_iff.mp hrendered
  obtain ⟨⟨_ | v, c'⟩, hrender, hv⟩ := Option.bind_eq_some_iff.mp hv
  · cases hv
  obtain rfl := Option.some.inj hv
  obtain ⟨w, d, s, hw, hv, hs⟩ := inclusion_is_transparent (.inl rfl) hliterals rfl (hrow _ trivial trivial)
    (hrow _ trivial trivial) hsplices (hplain _ trivial trivial trivial)
    (hplain _ trivial trivial trivial) hkeeps nofun (List.forall_mem_singleton.mpr hitems) hrender
  exact ⟨v, c', hrender, htext, w, d, hw, hs.trans hv.symm⟩

end TemplateTree
