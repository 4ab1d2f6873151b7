import TemplateTree.Proofs.Extension
import TemplateTree.Proofs.Simulation
import TemplateTree.Proofs.Termination

/-!
# Templates and what is around them

A template sees the variables of the context that it renders in, and nothing else of it: neither the
definitions that are queued there nor the positions of cycles, nor any state that is saved. So two
renders that see the same variables do the same, up to the identities that they give out, and neither
touches what is around it.
-/

namespace TemplateTree

open Value (Matches matches_scalar)

/-- If the node is a literal, there are no functions in it, and no identities but such as meet `K`. -/
def Node.LiteralKnown (K : Identity → Prop) : Node Empty → Prop
  | .literal v => v.Known False K
  | _ => True

def Template.LiteralsKnown (K : Identity → Prop) (t : Template Empty) : Prop :=
  ∀ n ∈ t.contents, n.Throughout (Node.LiteralKnown K)

/-- Contexts that hold the same variables with as many inclusions under way. All else may differ. -/
structure Context.SameVariables {η : Type} (c d : Context η) : Prop where
  globals : d.globals = c.globals
  stack : d.stack = c.stack
  depth : d.depth = c.depth

/-- Renders from `c` and from `d` that end alike and leave the states around them as they were. The
frames below the top are untouched, and the top ones bind the same names to values that match. -/
structure Unaffected (K : Identity → Prop) (c d : Context Empty)
    (o p : Except Error (Val Empty) × Context Empty) : Prop where
  alike : ∃ J : Pairing, J.OneToOne ∧ (∀ i, K i → J i i) ∧ Except.Rel (Matches True J) o.1 p.1 ∧
    ∀ x, Option.Rel (Matches True J) (o.2.top.get? x) (p.2.top.get? x)
  below : o.2.frames.tail = c.frames.tail ∧ p.2.frames.tail = c.frames.tail
  depth : o.2.depth = c.depth ∧ p.2.depth = c.depth
  left : o.2.render = c.render ∧ o.2.saved = c.saved
  right : p.2.render = d.render ∧ p.2.saved = d.saved

namespace Context.SameVariables

variable {η : Type} {c d : Context η}

theorem symm (h : c.SameVariables d) : d.SameVariables c :=
  ⟨h.globals.symm, h.stack.symm, h.depth.symm⟩

theorem frames (h : c.SameVariables d) : d.frames = c.frames := by
  rw [Context.frames, h.globals, h.stack, Context.frames]

theorem top (h : c.SameVariables d) : d.top = c.top := by
  rw [Context.top, h.globals, h.stack, Context.top]

end Context.SameVariables

section
variable {engine : Engine Empty} {c d : Context Empty} {K : Identity → Prop}

theorem View.allowsAll_free {level : Prop} {t : Template Empty} (h : t.LiteralsKnown K) :
    (View.free level K).AllowsAll t.contents := by
  intro n hn m hm
  cases m with
  | literal v => exact h n hn _ hm
  | loop vars list contents fallback => exact fun _ _ => rfl
  | block b => trivial
  | cycle k values name silent => exact ⟨rfl, fun _ _ => rfl⟩
  | _ => trivial

theorem View.suits_free (hmode : engine.mode.Uniform True)
    (hliterals : ∀ name t, engine.template? name = some t → t.LiteralsKnown K) :
    (View.free True K).Suits (fun _ => False) engine where
  caught := fun _ h => h.elim
  named := fun _ _ h => h
  deep := .inl trivial
  uniform := hmode
  registered := fun name t ht => View.allowsAll_free (hliterals name t ht)

theorem Context.SameVariables.scope (h : c.SameVariables d) {V : View}
    (hvalues : ∀ frame ∈ c.frames, ∀ e ∈ frame, e.2.Known V.functions V.known)
    (hfixed : ∀ x v, V.fixed x = some v → c.get? x = some v) :
    V.SameScope (fun i j => i = j ∧ V.known i) c d := by
  have hframe {frame : Dict (Val Empty)} (hframe : frame ∈ c.frames) (x : String) :
      Option.Rel (Matches V.functions fun i j => i = j ∧ V.known i) (frame.get? x) (frame.get? x) := by
    cases hx : frame.get? x with
    | none => exact .none
    | some v => exact .some ((hvalues frame hframe _ (Dict.mem_of_get? hx)).matches fun i hi => ⟨rfl, hi⟩)
  refine ⟨?_, ?_, hfixed, h.depth.le, fun _ => h.depth.symm⟩
  · intro x
    show Option.Rel _ (c.frames.findSome? _) (d.frames.findSome? _)
    rw [h.frames]
    cases hx : c.frames.findSome? (·.get? x) with
    | none => exact .none
    | some v =>
      obtain ⟨frame, hmem, hv⟩ := List.exists_of_findSome?_eq_some hx
      have := hframe hmem x
      rwa [hv] at this
  · intro _ x
    rw [h.top]
    refine hframe ?_ x
    rw [c.frames_eq_top]
    exact List.mem_cons_self ..

theorem Context.SameVariables.related (h : c.SameVariables d)
    (hK : ∀ i, K i → i.Before c.made ∧ i.Before d.made)
    (hvalues : ∀ frame ∈ c.frames, ∀ e ∈ frame, e.2.Known True K) :
    Related (View.free True K) (fun i j => i = j ∧ K i) c.enter d.enter :=
  have hscope : (View.free True K).SameScope (fun i j => i = j ∧ K i) c d := h.scope hvalues nofun
  ⟨⟨Pairing.valid_eq hK, nofun, fun _ => rfl, nofun⟩, { hscope with }⟩

end

section
variable {engine : Engine Empty} (hmode : engine.mode.Uniform True) {name : String} {t : Template Empty}
  (ht : engine.template? name = some t) {K : Identity → Prop}
  (hliterals : ∀ name t, engine.template? name = some t → t.LiteralsKnown K)
include hmode ht hliterals

theorem exists_unaffected {c d : Context Empty} (hsame : c.SameVariables d)
    (hK : ∀ i, K i → i.Before c.made ∧ i.Before d.made)
    (hvalues : ∀ frame ∈ c.frames, ∀ e ∈ frame, e.2.Known True K) {depth : Nat}
    {o : Except Error (Val Empty) × Context Empty}
    (ho : renderTemplate engine (renderNode engine depth) t c = some o) :
    ∃ p, renderTemplate engine (renderNode engine depth) t d = some p ∧ Unaffected K c d o p := by
  have hsuits := View.suits_free hmode hliterals
  have hrestored {c : Context Empty} {o : Except Error (Val Empty) × Context Empty}
      (ho : renderTemplate engine (renderNode engine depth) t c = some o) :=
    (renderTemplate_restored (restores_renderNode engine depth) ho).2.1
  have hfollows := renderTemplate_follows hsuits (renderNode_mirrors engine depth hsuits)
    (hsuits.registered name t ht) (restores_renderNode engine depth) (hsame.related hK hvalues)
  rw [ho] at hfollows
  obtain ⟨p, J, hp, -, ⟨hvalid, hscope, hc, hd⟩, hresult⟩ := hfollows.exists_rel
  have hleft := hrestored ho
  have hright := hrestored hp
  exact ⟨p, hp,
    { alike := ⟨J, hvalid.oneToOne, hvalid.known, hresult, hscope.top rfl⟩
      below := ⟨hleft.below, hright.below.trans (congrArg List.tail hsame.frames)⟩
      depth := ⟨hleft.depth, hright.depth.trans hsame.depth⟩
      left := hc
      right := hd }⟩

/-- A template renders alike in any two contexts that hold the same variables, and touches nothing else
of either. As deep as it needs to go, it renders to an end. -/
theorem template_ignores_surroundings {c d : Context Empty} (hsame : c.SameVariables d)
    (hK : ∀ i, K i → i.Before c.made ∧ i.Before d.made)
    (hvalues : ∀ frame ∈ c.frames, ∀ e ∈ frame, e.2.Known True K) (depth : Nat) :
    Option.Rel (Unaffected K c d) (renderTemplate engine (renderNode engine depth) t c)
      (renderTemplate engine (renderNode engine depth) t d) ∧
    (engine.depthForTemplate t ≤ depth →
      ∃ o, renderTemplate engine (renderNode engine depth) t c = some o) := by
  constructor
  · cases ho : renderTemplate engine (renderNode engine depth) t c with
    | some o =>
      obtain ⟨p, hp, h⟩ := exists_unaffected hmode ht hliterals hsame hK hvalues ho
      rw [hp]
      exact .some h
    | none =>
      cases hp : renderTemplate engine (renderNode engine depth) t d with
      | none => exact .none
      | some p =>
        -- the same from `d` to `c`, which hold the same frames
        have hvalues' : ∀ frame ∈ d.frames, ∀ e ∈ frame, e.2.Known True K := by rwa [hsame.frames]
        obtain ⟨o, ho', -⟩ :=
          exists_unaffected hmode ht hliterals hsame.symm (fun i hi => (hK i hi).symm) hvalues' hp
        rw [ho] at ho'
        cases ho'
  · intro hdepth
    obtain ⟨r, c', hrender⟩ := exists_renderWith engine t c
    exact ⟨_, renderTemplate_extends (renderNode_extends engine hdepth) engine t c _ hrender⟩

end

/-- A block is overridden and a cycle has moved on around a template that has a block and a cycle of
these names. -/
theorem overridden_surroundings_are_ignored :
    let own : Block Empty := .mk "x" [.literal (.string "own ")]
    let row : Node Empty := .cycle 1 [.literal (.string "odd"), .literal (.string "even")] (some "row") false
    let part : Template Empty := ⟨"part", none, [.var (.called "m"), .block own, row], [("x", own)], rfl⟩
    let engine : Engine Empty := Engine.html.add part
    let d : Context Empty := .withGlobals [("m", .markup (.given 0) (.safe "<br>"))]
    let c : Context Empty :=
      { d with render := ⟨some [("x", [.mk "x" [.literal (.string "page")]])], [(1, 1)]⟩, made := 3 }
    (∃ v c', renderTemplate engine (renderNode engine 3) part c = some (.ok v, c') ∧
      v.text = .ok "<br>own odd") ∧
    Option.Rel (Unaffected (· = .given 0) c d) (renderTemplate engine (renderNode engine 3) part c)
      (renderTemplate engine (renderNode engine 3) part d) := by
  intro own row part engine d c
  have hliteral (s : String) :
      (Node.literal (.string s) : Node Empty).Throughout (Node.LiteralKnown (· = .given 0)) :=
    Node.throughout_iff.mpr ⟨.of_parts trivial nofun, nofun⟩
  have hown : (Node.block own).Throughout (Node.LiteralKnown (· = .given 0)) :=
    Node.throughout_iff.mpr ⟨trivial, List.forall_mem_singleton.mpr (hliteral _)⟩
  have hrow : row.Throughout (Node.LiteralKnown (· = .given 0)) :=
    Node.throughout_iff.mpr
      ⟨trivial, List.forall_mem_cons.mpr ⟨hliteral _, List.forall_mem_singleton.mpr (hliteral _)⟩⟩
  have hpart : part.LiteralsKnown (· = .given 0) := by
    refine List.forall_mem_cons.mpr ⟨Node.throughout_iff.mpr ⟨trivial, nofun⟩, ?_⟩
    exact List.forall_mem_cons.mpr ⟨hown, List.forall_mem_singleton.mpr hrow⟩
  have hliterals : ∀ name t, engine.template? name = some t → t.LiteralsKnown (· = .given 0) := by
    intro name t ht
    have hmem : (name, t) ∈ [("part", part)] := Dict.mem_of_get? ht
    obtain ⟨-, rfl⟩ := Prod.mk.inj (List.mem_singleton.mp hmem)
    exact hpart
  have hvalues : ∀ frame ∈ c.frames, ∀ e ∈ frame, e.2.Known True (· = .given 0) := by
    refine List.forall_mem_singleton.mpr (List.forall_mem_singleton.mpr ?_)
    exact .of_parts rfl nofun
  have ht : engine.template? "part" = some part := rfl
  refine ⟨⟨_, _, rfl, by decide⟩, ?_⟩
  have hsame : c.SameVariables d := ⟨rfl, rfl, rfl⟩
  refine (template_ignores_surroundings (Html.uniform True) ht hliterals hsame ?_ hvalues 3).1
  rintro i rfl
  exact ⟨trivial, trivial⟩

end TemplateTree
