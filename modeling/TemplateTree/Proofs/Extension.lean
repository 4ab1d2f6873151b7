import Mathlib.Tactic.Choose
import TemplateTree.Proofs.Rendering

/-!
# Renders that go further

A step extends another one if it has the outcome of the other wherever the other has one. Whatever
renders the nodes inside of others may be replaced by what extends it: no outcome changes. So a greater
bound on the depth changes none either.
-/

namespace TemplateTree

open RenderM

variable {η α β : Type}

def Extends (x y : RenderM η α) : Prop :=
  ∀ c o, x c = some o → y c = some o

namespace Extends

theorem refl (x : RenderM η α) : Extends x x :=
  fun _ _ => id

theorem bind {x y : RenderM η α} {f g : α → RenderM η β} (hx : Extends x y) (hf : ∀ a, Extends (f a) (g a)) :
    Extends (x >>= f) (y >>= g) := by
  intro c o h
  rw [RenderM.bind_apply] at h ⊢
  cases hc : x c with
  | none =>
    rw [hc] at h
    cases h
  | some p =>
    rw [hx c p hc]
    rw [hc] at h
    obtain ⟨_ | a, d⟩ := p
    · exact h
    · exact hf a d o h

theorem map {x y : RenderM η α} (f : α → β) (hx : Extends x y) :
    Extends (do return f (← x)) (do return f (← y)) :=
  hx.bind fun _ => .refl _

theorem get_bind {f g : Context η → RenderM η β} (h : ∀ c, Extends (f c) (g c)) :
    Extends (get >>= f) (get >>= g) :=
  fun c => h c c

theorem attempt {x y : RenderM η α} (h : Extends x y) : Extends (RenderM.attempt x) (RenderM.attempt y) := by
  intro c o ho
  obtain ⟨p, hp, rfl⟩ := Option.map_eq_some_iff.mp ho
  simp [RenderM.attempt, h c p hp]

theorem bracket {x y : RenderM η α} (before : RenderM η β) (after : β → RenderM η Unit) (h : Extends x y) :
    Extends (RenderM.bracket before after x) (RenderM.bracket before after y) :=
  (refl before).bind fun _ => h.attempt.bind fun _ => .refl _

theorem inFrame {x y : RenderM η α} (frame : Dict (Val η)) (h : Extends x y) :
    Extends (RenderM.inFrame frame x) (RenderM.inFrame frame y) :=
  h.bracket _ _

theorem ite {x y x' y' : RenderM η α} (p : Prop) [Decidable p] (hx : Extends x x') (hy : Extends y y') :
    Extends (if p then x else y) (if p then x' else y') := by
  by_cases h : p
  · simpa [h] using hx
  · simpa [h] using hy

end Extends

section
variable {render render' : Renderer η} (h : ∀ n, Extends (render n) (render' n))
include h

/-! ## Blocks -/

theorem renderAll_extends : ∀ ns : List (Node η), Extends (renderAll render ns) (renderAll render' ns)
  | [] => .refl _
  | n :: ns => (h n).bind fun _ => (renderAll_extends ns).bind fun _ => .refl _

theorem renderList_extends (ns : List (Node η)) :
    Extends (do return Value.list (← renderAll render ns)) (do return Value.list (← renderAll render' ns)) :=
  (renderAll_extends h ns).map _

theorem renderDefinition_extends (b : Block η) :
    Extends (renderDefinition render b) (renderDefinition render' b) :=
  (Extends.refl (bindBlock b)).bind fun _ => renderAll_extends h b.contents

theorem renderOperative_extends (b : Block η) :
    Extends (renderOperative render b) (renderOperative render' b) := by
  refine .get_bind fun c => ?_
  cases queued? c b.name with
  | none => exact renderDefinition_extends h b
  | some definition => exact (renderDefinition_extends h definition).bracket _ _

theorem renderBlock_extends (b : Block η) : Extends (renderBlock render b) (renderBlock render' b) :=
  ((renderOperative_extends h b).inFrame []).map _

theorem renderSuper_extends (b : Block η) : Extends (renderSuper render b) (renderSuper render' b) := by
  refine .get_bind fun c => ?_
  cases queued? c b.name with
  | none => exact .refl _
  | some _ => exact renderBlock_extends h b

/-! ## Cycles, rounds of loops and templates -/

theorem renderCycle_extends (id : Nat) (values : List (Node η)) (name : Option String) (silent : Bool) :
    Extends (renderCycle render id values name silent) (renderCycle render' id values name silent) := by
  refine .get_bind fun c => ?_
  dsimp only
  cases values[c.position id % values.length]? with
  | none => exact .refl _
  | some n => exact (h n).bind fun _ => .refl _

theorem renderRounds_extends (vars : List String) (contents : List (Node η)) (parent : Val η) (n : Nat) :
    ∀ (i : Nat) (items : List (Val η)), Extends (renderRounds render vars contents parent n i items)
      (renderRounds render' vars contents parent n i items)
  | _, [] => .refl _
  | i, _ :: items =>
    (Extends.refl _).bind fun _ => (Extends.refl _).bind fun _ => (renderAll_extends h contents).bind fun _ =>
      (renderRounds_extends vars contents parent n (i + 1) items).map _

theorem renderExtras_extends : ∀ (extra : List (String × Node η)) (d : Dict (Val η)),
    Extends (renderExtras render d extra) (renderExtras render' d extra)
  | [], _ => .refl _
  | (name, n) :: extra, d => by
    have hn : Extends (renderExtra render n) (renderExtra render' n) := by
      cases n with
      | text t => exact (h _).bind fun _ => .refl _
      | _ => exact h _
    exact hn.bind fun v => renderExtras_extends extra (d.insert name v)

theorem renderFragment_extends (engine : Engine η) (contents : List (Node η)) :
    Extends (renderFragment engine render contents) (renderFragment engine render' contents) :=
  (renderAll_extends h contents).bind fun _ => .refl _

theorem renderTemplate_extends (engine : Engine η) (t : Template η) :
    Extends (renderTemplate engine render t) (renderTemplate engine render' t) := by
  refine Extends.bracket _ _ ?_
  refine (Extends.refl _).bind fun chain => (Extends.refl _).bind fun _ => ?_
  exact (renderFragment_extends h engine chain.root.contents).attempt.bind fun _ => .refl _

theorem renderIsolated_extends (engine : Engine η) (t : Template η) (globals : Dict (Val η)) :
    Extends (renderIsolated engine render t globals) (renderIsolated engine render' t globals) := by
  intro c o ho
  obtain ⟨p, hp, rfl⟩ := Option.map_eq_some_iff.mp ho
  simp [renderIsolated, renderTemplate_extends h engine t _ p hp]

theorem renderInside_extends (engine : Engine η) (t : Template η) (frame : Dict (Val η)) :
    Extends (renderInside engine render t frame) (renderInside engine render' t frame) :=
  ((renderTemplate_extends h engine t).bracket _ _).inFrame frame

/-! ## Variables and expressions -/

section
variable [HostCode η]
  (hhost : ∀ p receiver, Extends (HostCode.run render p receiver) (HostCode.run render' p receiver))
include hhost

theorem reach_extends (calls : Bool) (receiver v : Val η) :
    Extends (reach render calls receiver v) (reach render' calls receiver v) := by
  cases v with
  | function id f =>
    cases calls with
    | false => exact .refl _
    | true =>
      cases f with
      | super b => exact renderSuper_extends h b
      | host p => exact hhost p receiver
  | _ => exact .refl _

theorem follow_extends (calls : Bool) (current : Val η) (name : String) :
    Extends (follow render calls current name) (follow render' calls current name) := by
  unfold follow
  cases current.property? name with
  | none => exact .refl _
  | some v => exact reach_extends h hhost calls current v

theorem followAll_extends (calls : Bool) : ∀ (names : List String) (current : Val η),
    Extends (followAll render calls current names) (followAll render' calls current names)
  | [], _ => .refl _
  | name :: names, current =>
    (follow_extends h hhost calls current name).bind (followAll_extends calls names)

theorem resolve_extends (v : Variable) : Extends (resolve render v) (resolve render' v) := by
  rw [resolve_eq, resolve_eq]
  refine .get_bind fun c => ?_
  cases c.get? v.segments.1 with
  | none => exact .refl _
  | some value => exact (reach_extends h hhost _ _ _).bind (followAll_extends h hhost _ _)

end

end

section
variable {resolve resolve' : Resolver η} (hresolve : ∀ v, Extends (resolve v) (resolve' v))
include hresolve

theorem renderSegments_extends : ∀ segments : List Segment,
    Extends (renderSegments resolve segments) (renderSegments resolve' segments)
  | [] => .refl _
  | .text _ :: segments => (Extends.refl _).bind fun _ => (renderSegments_extends segments).map _
  | .var v :: segments => (hresolve v).bind fun _ => (renderSegments_extends segments).map _

theorem renderText_extends (t : TemplateText) : Extends (renderText resolve t) (renderText resolve' t) := by
  cases t with
  | literal s => exact .refl _
  | mixed segments => exact (renderSegments_extends hresolve segments).map _

theorem evaluate_extends : ∀ e : Expr, Extends (evaluate resolve e) (evaluate resolve' e)
  | .literal _ => .refl _
  | .var v => (hresolve v).attempt.bind fun _ => .refl _
  | .unary op e => (evaluate_extends e).map _
  | .binary op a b => by
    have ha := evaluate_extends a
    have hb := evaluate_extends b
    cases op with
    | and => exact ha.bind fun v => .ite _ hb (.refl _)
    | or => exact ha.bind fun v => .ite _ (.refl _) hb
    | _ => exact ha.bind fun v => hb.map _

theorem findTarget_extends (engine : Engine η) (target : Target) :
    Extends (findTarget engine resolve target) (findTarget engine resolve' target) := by
  cases target with
  | var v => exact (hresolve v).bind fun _ => .refl _
  | _ => exact .refl _

theorem runTest_extends [HostCode η] {render render' : Renderer η}
    (hhost : ∀ p receiver, Extends (HostCode.run render p receiver) (HostCode.run render' p receiver))
    (test : Test η) : Extends (runTest resolve render test) (runTest resolve' render' test) := by
  cases test with
  | expr e => exact (evaluate_extends hresolve e).map _
  | host p => exact (hhost p .none).map _

/-! ## Nodes -/

variable {render render' : Renderer η} (h : ∀ n, Extends (render n) (render' n))
include h

theorem renderCond_extends [HostCode η]
    (hhost : ∀ p receiver, Extends (HostCode.run render p receiver) (HostCode.run render' p receiver))
    (test : Test η) (contents otherwise : List (Node η)) :
    Extends (renderCond resolve render test contents otherwise)
      (renderCond resolve' render' test contents otherwise) :=
  (runTest_extends hresolve hhost test).bind fun _ =>
    .ite _ (renderList_extends h contents) (renderList_extends h otherwise)

theorem renderAttribute_extends (n : Node η) :
    Extends (renderAttribute resolve render n) (renderAttribute resolve' render' n) := by
  cases n with
  | literal v => exact .refl _
  | var v => exact hresolve v
  | _ => exact (h _).bind fun _ => .refl _

theorem renderAttributes_extends : ∀ (attributes : List (String × Node η)) (d : Dict (Val η)),
    Extends (renderAttributes resolve render d attributes) (renderAttributes resolve' render' d attributes)
  | [], _ => .refl _
  | (_, n) :: attributes, _ =>
    (renderAttribute_extends hresolve h n).bind fun _ => renderAttributes_extends attributes _

theorem renderElement_extends (engine : Engine η) (tag : String) (attributes : List (String × Node η))
    (contents : List (Node η)) :
    Extends (renderElement engine resolve render tag attributes contents)
      (renderElement engine resolve' render' tag attributes contents) :=
  (renderAttributes_extends hresolve h attributes []).bind fun _ =>
    (renderAll_extends h contents).bind fun _ => .refl _

theorem renderLoop_extends (vars : List String) (list : Variable) (contents empty : List (Node η)) :
    Extends (renderLoop resolve render vars list contents empty)
      (renderLoop resolve' render' vars list contents empty) := by
  refine (hresolve list).bind fun v => (Extends.refl _).bind fun items => ?_
  cases items with
  | nil => exact renderList_extends h empty
  | cons item items =>
    exact .get_bind fun c => ((renderRounds_extends h vars contents _ _ 0 _).inFrame []).map _

theorem renderInclusionVia_extends {included included' : Renderer η}
    (hincluded : ∀ n, Extends (included n) (included' n)) (engine : Engine η) (target : Target)
    (extra : List (String × Node η)) (only : Bool) :
    Extends (renderInclusionVia engine resolve render included target extra only)
      (renderInclusionVia engine resolve' render' included' target extra only) := by
  refine (findTarget_extends hresolve engine target).bind fun t => ?_
  refine (renderExtras_extends h extra []).bind fun frame => .get_bind fun c => ?_
  refine .ite _ (.refl _) (.ite _ ?_ ?_)
  · exact renderIsolated_extends hincluded engine t frame
  · exact renderInside_extends hincluded engine t frame

end

/-! ## All renders -/

section
variable [HostCode η] {engine : Engine η} {render render' included included' : Renderer η}
  (h : ∀ n, Extends (render n) (render' n))
  (hhost : ∀ p receiver, Extends (HostCode.run render p receiver) (HostCode.run render' p receiver))
include h hhost

theorem renderStepVia_extends (hincluded : ∀ n, Extends (included n) (included' n)) (n : Node η) :
    Extends (renderStepVia engine render included n) (renderStepVia engine render' included' n) := by
  have hresolve := resolve_extends h hhost
  cases n with
  | literal v => exact .refl _
  | text t => exact renderText_extends hresolve t
  | var v => exact hresolve v
  | element tag attributes contents => exact renderElement_extends hresolve h engine tag attributes contents
  | loop vars list contents empty => exact renderLoop_extends hresolve h vars list contents empty
  | cond test contents otherwise => exact renderCond_extends hresolve h hhost test contents otherwise
  | block b => exact renderBlock_extends h b
  | inclusion target extra only =>
    exact renderInclusionVia_extends hresolve h hincluded engine target extra only
  | cycle id values name silent => exact renderCycle_extends h id values name silent
  | host p => exact hhost p .none
  | _ => exact .refl _

end

/-- No outcome changes where a render may go deeper. -/
theorem renderNode_extends (engine : Engine Empty) {depth depth' : Nat}
    (h : depth ≤ depth') (n : Node Empty) :
    Extends (renderNode engine depth n) (renderNode engine depth' n) := by
  induction depth generalizing depth' n with
  | zero =>
    intro c o ho
    rw [renderNode] at ho
    cases ho
  | succ depth ih =>
    cases depth' with
    | zero => cases h
    | succ depth' =>
      have hall : ∀ m, Extends (renderNode engine depth m) (renderNode engine depth' m) :=
        ih (Nat.le_of_succ_le_succ h)
      rw [renderNode, renderNode, ← renderStepVia_self, ← renderStepVia_self]
      exact renderStepVia_extends hall (fun p => nomatch p) hall n

/-! ## Agreement -/

/-- Where both steps have an outcome, it is the same. -/
def Agree (x y : RenderM η α) : Prop :=
  ∀ c o p, x c = some o → y c = some p → o = p

theorem Agree.of_extends {x y z : RenderM η α} (hx : Extends x z) (hy : Extends y z) : Agree x y := by
  intro c o p ho hp
  exact Option.some.inj ((hx c o ho).symm.trans (hy c p hp))

theorem Agree.exists_extends {x y : RenderM η α} (h : Agree x y) : ∃ z, Extends x z ∧ Extends y z := by
  refine ⟨fun c => (x c).or (y c), fun c o ho => ?_, fun c p hp => ?_⟩
  · simp [ho]
  · cases ho : x c with
    | none => simp [ho, hp]
    | some o => simp [ho, h c o p ho hp]

theorem renderTemplate_agree {render render' : Renderer η}
    (h : ∀ n, Agree (render n) (render' n)) (engine : Engine η)
    (t : Template η) : Agree (renderTemplate engine render t) (renderTemplate engine render' t) := by
  choose both hleft hright using fun n => (h n).exists_extends
  exact .of_extends (renderTemplate_extends hleft engine t) (renderTemplate_extends hright engine t)

theorem renderStepVia_agree {engine : Engine Empty} {render render' included included' : Renderer Empty}
    (h : ∀ n, Agree (render n) (render' n))
    (hincluded : ∀ n, Agree (included n) (included' n)) (n : Node Empty) :
    Agree (renderStepVia engine render included n) (renderStepVia engine render' included' n) := by
  choose both hleft hright using fun n => (h n).exists_extends
  choose both' hleft' hright' using fun n => (hincluded n).exists_extends
  exact .of_extends (renderStepVia_extends hleft (fun p => nomatch p) hleft' n)
    (renderStepVia_extends hright (fun p => nomatch p) hright' n)

end TemplateTree
