import TemplateTree.Proofs.Extension
import TemplateTree.Proofs.ParentWalk
import TemplateTree.Proofs.Stopping
import TemplateTree.Proofs.Termination

/-!
# Where errors come from

The render of a template ends in the first error that no test swallows, and the innermost template names
it. To follow the error of an included template on its way out, the render is stopped there: what the
render ends in if it goes on is that error.
-/

namespace TemplateTree

open RenderM

variable {η α : Type}

/-! ## Renders that are stopped -/

/-- Those of some errors that name a template. -/
def named (E : Error → Bool) (e : Error) : Bool :=
  E e && e.template.isSome

/-- Renders a node, but stops where an included template ends in one of some errors that no test around
it swallows. -/
def renderUntil [HostCode η] (engine : Engine η) : Nat → (Error → Bool) → Renderer η
  | 0, _, _ => exhausted
  | depth + 1, E, n =>
    let render := renderUntil engine depth E
    match n with
    | .cond test contents otherwise =>
      renderCond (resolve (renderUntil engine depth (unswallowed E))) render test contents otherwise
    | .inclusion target extra only =>
      renderInclusionBy engine (resolve render) render
        (fun t => stopAt E (renderTemplate engine render t)) target
        extra only
    | n => renderStep engine render n

theorem stopAt_eq_some {E : Error → Bool} {x : RenderM η α} {c d : Context η} {r : Except Error α}
    (h : stopAt E x c = some (r, d)) : x c = some (r, d) ∧ endsIn E r = false := by
  obtain ⟨hx, hr⟩ := Option.filter_eq_some_iff.mp h
  exact ⟨hx, by simpa using hr⟩

theorem restores_stopAt {E : Error → Bool} {names : Set String} {x : RenderM η α} (h : Restores names x) :
    Restores names (stopAt E x) :=
  fun start hstart => keeps_of_outcome fun _ _ _ hc hx =>
    Keeps.outcome (h start hstart) hc (stopAt_eq_some hx).1

/-! ## Templates -/

/-- The errors at which the walk up a chain of parents ends. -/
inductive Engine.NoRoot (engine : Engine η) (t : Template η) : Error → Prop
  /-- The parent that some template of the chain declares is not there. -/
  | missing {u : Template η} {name : String}
    (h : Relation.ReflTransGen (fun u v => ∃ x, u.parent = some x ∧ engine.template? x = some v) t u)
    (hparent : u.parent = some name) (hname : engine.template? name = none) :
    NoRoot engine t (Walk.missingError u.name name)
  | cyclic (visited : List String) (again : String) : NoRoot engine t (Walk.cycleError t.name visited again)

theorem Engine.noRoot_of_followParents {engine : Engine η} {t : Template η} :
    ∀ {rounds : Nat} {visited : List String} {u : Template η} {e : Error},
      Relation.ReflTransGen (fun u v => ∃ x, u.parent = some x ∧ engine.template? x = some v) t u →
        engine.followParents t.name rounds visited u = .error e → engine.NoRoot t e
  | 0, _, _, _, _, h => by
    rw [← Except.error.inj h]
    exact .cyclic _ _
  | rounds + 1, visited, u, e, hu, h => by
    simp only [followParents, template] at h
    split at h
    · rw [← Except.error.inj h]
      exact .cyclic _ _
    · split at h
      · cases h
      · next name hparent =>
        cases hname : engine.template? name with
        | none =>
          rw [hname] at h
          rw [← Except.error.inj h]
          exact .missing hu hparent hname
        | some v =>
          rw [hname] at h
          cases hrest : engine.followParents t.name rounds (visited ++ [u.name]) v with
          | error e' =>
            simp only [hrest] at h
            rw [← Except.error.inj h]
            exact noRoot_of_followParents (hu.tail ⟨name, hparent, hname⟩) hrest
          | ok c =>
            simp only [hrest] at h
            cases h

theorem Engine.noRoot_of_chain {engine : Engine η} {t : Template η} {e : Error}
    (h : engine.chain t = .error e) : engine.NoRoot t e :=
  noRoot_of_followParents .refl h

theorem Engine.NoRoot.names {engine : Engine η} {t : Template η} {e : Error} (h : engine.NoRoot t e) :
    e.template.isSome := by
  cases h <;> rfl

theorem Error.isSome_inTemplate (e : Error) (name : String) : (e.inTemplate name).template.isSome := by
  obtain ⟨cause, template, place⟩ := e
  cases template <;> rfl

theorem Error.inTemplate_of_isSome {e : Error} (h : e.template.isSome) (name : String) :
    e.inTemplate name = e := by
  obtain ⟨cause, template, place⟩ := e
  cases template with
  | none => cases h
  | some t => rfl

theorem raised_named (E : Error → Bool) : Raised (named E) :=
  fun _ => Bool.and_false _

section
variable {E : Error → Bool}

theorem stopAt_named {x : RenderM η α} (h : ∀ c e d, x c = some (.error e, d) → e.template.isSome) :
    stopAt (named E) x = stopAt E x := by
  funext c
  cases hx : x c with
  | none => rw [stopAt_of_none hx, stopAt_of_none hx]
  | some o =>
    obtain ⟨e | a, d⟩ := o
    · rw [stopAt_apply, stopAt_apply, hx, Option.filter_some, Option.filter_some]
      simp [endsIn, named, h c e d hx]
    · rw [stopAt_of_passes hx rfl, stopAt_of_passes hx rfl]

/-- A template only names itself in errors that name none. -/
theorem stopAt_inTemplate (name : String) (x : RenderM η α) :
    stopAt E (inTemplate name (stopAt (named E) x)) = stopAt E (inTemplate name x) := by
  funext c
  have hnamed := inTemplate_apply name x c
  have hstopped := inTemplate_apply name (stopAt (named E) x) c
  cases hx : x c with
  | none =>
    rw [stopAt_of_none hx] at hstopped
    rw [hx] at hnamed
    rw [stopAt_of_none hstopped, stopAt_of_none hnamed]
  | some o =>
    obtain ⟨r, d⟩ := o
    cases hr : endsIn (named E) r with
    | false =>
      rw [stopAt_of_passes hx hr, ← hx, ← hnamed] at hstopped
      rw [stopAt_apply, stopAt_apply, hstopped]
    | true =>
      cases r with
      | ok a => cases hr
      | error e =>
        obtain ⟨hE, hsome⟩ := Bool.and_eq_true_iff.mp hr
        rw [stopAt_of_ends hx hr] at hstopped
        rw [hx] at hnamed
        have hend : endsIn E ((Except.error e : Except Error α).mapError (·.inTemplate name)) = true := by
          simp only [Except.mapError, Error.inTemplate_of_isSome hsome]
          exact hE
        rw [stopAt_of_none hstopped, stopAt_of_ends hnamed hend]

end

section
variable {engine : Engine η} {render : Renderer η} (hrestores : ∀ n, Restores n.bound (render n))
include hrestores

theorem renderTemplate_of_error {t : Template η} {e : Error} (h : engine.chain t = .error e) (c : Context η) :
    renderTemplate engine render t c = some (.error e, c) := by
  rw [renderTemplate_apply hrestores, renderChain_of_error h]
  rfl

theorem renderTemplate_of_chain {t : Template η} {chain : Chain η}
    (h : engine.chain t = .ok chain) (c : Context η) : renderTemplate engine render t c =
      (renderFragment engine render chain.root.contents (queueBlocks c.enter chain.templates)).map fun r =>
        (r.1.mapError (·.inTemplate chain.root.name), { r.2 with render := c.render, saved := c.saved }) := by
  rw [renderTemplate_apply hrestores, renderChain_of_ok h, inTemplate_apply, Option.map_map]
  rfl

theorem isSome_of_renderTemplate {t : Template η} {c d : Context η} {e : Error}
    (h : renderTemplate engine render t c = some (.error e, d)) : e.template.isSome := by
  cases hroot : engine.chain t with
  | error e' =>
    rw [renderTemplate_of_error hrestores hroot] at h
    obtain ⟨he, -⟩ := Prod.mk.inj (Option.some.inj h)
    rw [← Except.error.inj he]
    exact (Engine.noRoot_of_chain hroot).names
  | ok chain =>
    rw [renderTemplate_of_chain hrestores hroot] at h
    obtain ⟨⟨r, c'⟩, -, heq⟩ := Option.map_eq_some_iff.mp h
    obtain ⟨he, -⟩ := Prod.mk.inj heq
    cases r with
    | ok v => cases he
    | error e' =>
      rw [← Except.error.inj he]
      exact e'.isSome_inTemplate chain.root.name

theorem stopAt_renderTemplate (t : Template η) :
    stopAt (named E) (renderTemplate engine render t) =
      stopAt E (renderTemplate engine (fun n => stopAt (named E) (render n)) t) := by
  have hstopped : ∀ n, Restores n.bound (stopAt (named E) (render n)) :=
    fun n => restores_stopAt (hrestores n)
  rw [stopAt_named fun _ _ _ => isSome_of_renderTemplate hrestores]
  funext c
  have hchain : stopAt E (renderChain engine (fun n => stopAt (named E) (render n)) t) =
      stopAt E (renderChain engine render t) := by
    unfold renderChain
    simp only [stopAt_bind, ← stopAt_renderFragment (raised_named E), stopAt_inTemplate]
  have happly := congrFun hchain c.enter
  rw [stopAt_apply, stopAt_apply] at happly ⊢
  rw [renderTemplate_apply hrestores, renderTemplate_apply hstopped, Option.filter_map, Option.filter_map]
  exact congrArg _ happly.symm

end

/-! ## All renders -/

/-- Nodes but tests and inclusions raise errors or pass them on. -/
theorem stopAt_renderStep {E : Error → Bool} (hE : Raised E) {engine : Engine Empty} {render : Renderer Empty}
    (hrestores : ∀ n, Restores n.bound (render n)) {n : Node Empty}
    (hcond : ∀ test contents otherwise, n ≠ .cond test contents otherwise)
    (hinclusion : ∀ target extra only, n ≠ .inclusion target extra only) :
    stopAt E (renderStep engine render n) = renderStep engine (fun n => stopAt E (render n)) n := by
  have hresolve : (fun v => stopAt E (resolve render v)) = resolve fun n => stopAt E (render n) :=
    funext (stopAt_resolve hrestores hE)
  cases n with
  | literal v => rfl
  | text t =>
    rw [renderStep, stopAt_renderText, hresolve]
    rfl
  | var v => exact stopAt_resolve hrestores hE v
  | element tag attributes contents =>
    rw [renderStep, stopAt_renderElement hE, hresolve]
    rfl
  | loop vars list contents empty =>
    rw [renderStep, stopAt_renderLoop hE hrestores, hresolve]
    rfl
  | cond test contents otherwise => exact absurd rfl (hcond test contents otherwise)
  | block b => exact stopAt_renderBlock hrestores b
  | inclusion target extra only => exact absurd rfl (hinclusion target extra only)
  | cycle id values name silent => exact stopAt_renderCycle id values name silent
  | doctype version => exact stopAt_renderDoctype hE engine version
  | empty contents => rfl
  | otherwise contents => rfl
  | host p => cases p

/-- What stops a render is an error of an included template, and it is the one that the render would end
in. -/
theorem renderUntil_eq (engine : Engine Empty) : ∀ (depth : Nat) (E : Error → Bool) (n : Node Empty),
    renderUntil engine depth E n = stopAt (named E) (renderNode engine depth n)
  | 0, _, _ => rfl
  | depth + 1, E, n => by
    have hrestores := restores_renderNode engine depth
    have hall (E : Error → Bool) :
        renderUntil engine depth E = fun n => stopAt (named E) (renderNode engine depth n) :=
      funext (renderUntil_eq engine depth E)
    have hresolve (E : Error → Bool) : resolve (renderUntil engine depth E) =
        fun v => stopAt (named E) (resolve (renderNode engine depth) v) := by
      rw [hall]
      exact (funext (stopAt_resolve hrestores (raised_named E))).symm
    rw [renderNode]
    cases n with
    | cond test contents otherwise =>
      have hswallow : named (unswallowed E) = unswallowed (named E) := funext fun e => Bool.and_right_comm ..
      rw [renderUntil, hresolve, hswallow, hall, renderStep, stopAt_renderCond]
    | inclusion target extra only =>
      have hinclusion : renderStep engine (renderNode engine depth) (.inclusion target extra only) =
          renderInclusionBy engine (resolve (renderNode engine depth)) (renderNode engine depth)
            (renderTemplate engine (renderNode engine depth)) target extra only := rfl
      have htemplate : (fun t => stopAt (named E) (renderTemplate engine (renderNode engine depth) t)) =
          fun t => stopAt E (renderTemplate engine (renderUntil engine depth E) t) := by
        rw [hall]
        exact funext (stopAt_renderTemplate hrestores)
      rw [renderUntil, hinclusion,
        stopAt_renderInclusionBy (raised_named E) (restores_template hrestores), htemplate,
        ← hresolve, hall]
    | _ =>
      rw [stopAt_renderStep (raised_named E) hrestores (by simp) (by simp), ← hall]
      rfl

section
variable {engine : Engine η} {render : Renderer η}
  (hrestores : ∀ n, Restores n.bound (render n)) {t : Template η}
include hrestores

/-- An error of an included template at which the render of a template stops is the error of that
template too. -/
theorem renderTemplate_stopped {c c' : Context η} {r : Except Error (Val η)}
    (h : renderTemplate engine render t c = some (r, c')) (E : Error → Bool) :
    renderTemplate engine (fun n => stopAt (named E) (render n)) t c = some (r, c') ∨
      renderTemplate engine (fun n => stopAt (named E) (render n)) t c = none ∧
      ∃ e, E e = true ∧ r = .error e := by
  have hstopped : ∀ n, Restores n.bound (stopAt (named E) (render n)) :=
    fun n => restores_stopAt (hrestores n)
  cases hroot : engine.chain t with
  | error e =>
    rw [renderTemplate_of_error hrestores hroot] at h
    exact .inl ((renderTemplate_of_error hstopped hroot c).trans h)
  | ok chain =>
    rw [renderTemplate_of_chain hrestores hroot] at h
    obtain ⟨⟨r₀, d⟩, hfragment, heq⟩ := Option.map_eq_some_iff.mp h
    obtain ⟨rfl, -⟩ := Prod.mk.inj heq
    rw [renderTemplate_of_chain hstopped hroot, ← stopAt_renderFragment (raised_named E)]
    cases hr : endsIn (named E) r₀ with
    | false =>
      rw [stopAt_of_passes hfragment hr]
      exact .inl (congrArg some heq)
    | true =>
      rw [stopAt_of_ends hfragment hr]
      cases r₀ with
      | ok v => cases hr
      | error e =>
        obtain ⟨hE, hsome⟩ := Bool.and_eq_true_iff.mp hr
        exact .inr ⟨rfl, e, hE, congrArg Except.error (Error.inTemplate_of_isSome hsome _)⟩

/-- An error at which the render would have stopped, had it come from an included template, is named by
the root. -/
theorem root_of_not_stopped {chain : Chain η} (hroot : engine.chain t = .ok chain)
    {c c' : Context η} {E : Error → Bool} {e : Error}
    (h : renderTemplate engine (fun n => stopAt (named E) (render n)) t c = some (.error e, c'))
    (hE : E e = true) : e.template = some chain.root.name := by
  have hstopped : ∀ n, Restores n.bound (stopAt (named E) (render n)) :=
    fun n => restores_stopAt (hrestores n)
  rw [renderTemplate_of_chain hstopped hroot, ← stopAt_renderFragment (raised_named E)] at h
  obtain ⟨⟨r₀, d⟩, hfragment, heq⟩ := Option.map_eq_some_iff.mp h
  obtain ⟨hr, -⟩ := Prod.mk.inj heq
  cases r₀ with
  | ok v => cases hr
  | error e₀ =>
    have he : e₀.inTemplate chain.root.name = e := Except.error.inj hr
    rw [← he] at hE ⊢
    obtain ⟨-, hpasses⟩ := stopAt_eq_some hfragment
    cases hname : e₀.template with
    | none => simp [Error.inTemplate, hname]
    | some name =>
      have hsome : e₀.template.isSome := by rw [hname]; rfl
      rw [Error.inTemplate_of_isSome hsome] at hE
      simp [endsIn, named, hE, hsome] at hpasses

end

/-- A render of a template ends, and an error that it ends in names a template. If the chain has no
root, that is the template whose parent is missing, or the one that the render started with. Otherwise
it is the root, unless a further template that is included ends in that error: at such an error,
whatever it is, a render may as well be stopped as long as no test swallows it, since the whole render
ends in it. -/
theorem errors_name_innermost_template (engine : Engine Empty) (t : Template Empty) (c : Context Empty) :
    (∃ o, ∀ depth, engine.depthForTemplate t ≤ depth →
      renderTemplate engine (renderNode engine depth) t c = some o) ∧
    ∀ depth r c', renderTemplate engine (renderNode engine depth) t c = some (r, c') →
      (∀ e, r = .error e → e.template ≠ none) ∧
      (∀ e, engine.chain t = .error e → r = .error e ∧ engine.NoRoot t e) ∧
      (∀ chain, engine.chain t = .ok chain → ∀ E e, E e = true →
        renderTemplate engine (renderUntil engine depth E) t c = some (.error e, c') →
          e.template = some chain.root.name) ∧
      ∀ E, renderTemplate engine (renderUntil engine depth E) t c = some (r, c') ∨
        renderTemplate engine (renderUntil engine depth E) t c = none ∧ ∃ e, E e = true ∧ r = .error e := by
  constructor
  · obtain ⟨r, c', hrender⟩ := exists_renderWith engine t c
    exact ⟨(r, c'), fun depth hdepth =>
      renderTemplate_extends (renderNode_extends engine hdepth) engine t c _ hrender⟩
  · intro depth r c' hr
    have hrestores := restores_renderNode engine depth
    have huntil (E : Error → Bool) :
        renderUntil engine depth E = fun n => stopAt (named E) (renderNode engine depth n) :=
      funext (renderUntil_eq engine depth E)
    refine ⟨?_, fun e hroot => ⟨?_, Engine.noRoot_of_chain hroot⟩,
      fun chain hroot E e hE he => ?_, fun E => ?_⟩
    · rintro e rfl
      exact Option.isSome_iff_ne_none.mp (isSome_of_renderTemplate hrestores hr)
    · rw [renderTemplate_of_error hrestores hroot] at hr
      exact (Prod.mk.inj (Option.some.inj hr)).1.symm
    · rw [huntil] at he
      exact root_of_not_stopped hrestores hroot he hE
    · rw [huntil]
      exact renderTemplate_stopped hrestores hr E

/-- The error of a template that a loop includes, on its way out of the loop and of the page. -/
theorem included_error_passes_through :
    let part : Template Empty := ⟨"part", none, [.var (.called "missing")], [], rfl⟩
    let page : Template Empty :=
      ⟨"page", none, [.loop ["x"] (.called "xs") [.inclusion (.name "part") [] false] []], [], rfl⟩
    let engine := Engine.html.add part
    let c := Context.withGlobals [("xs", .string "ab")]
    let e := (Error.ofCause (.unboundName "missing")).inTemplate "part"
    let r : Except Error (Val Empty) := .error e
    renderTemplate engine (renderUntil engine 4 fun e' => e' = e) page c = none ∧
    ∃ c', renderTemplate engine (renderNode engine 4) page c = some (r, c') ∧ e.template ≠ none ∧
      (∀ e', engine.chain page = .error e' → r = .error e' ∧ engine.NoRoot page e') ∧
      (∀ chain, engine.chain page = .ok chain → ∀ E e', E e' = true →
        renderTemplate engine (renderUntil engine 4 E) page c = some (.error e', c') →
          e'.template = some chain.root.name) ∧
      ∀ E, renderTemplate engine (renderUntil engine 4 E) page c = some (r, c') ∨
        renderTemplate engine (renderUntil engine 4 E) page c = none ∧ ∃ e', E e' = true ∧ r = .error e' := by
  intro part page engine c e r
  have hends := (errors_name_innermost_template engine page c).2 4 r _ rfl
  exact ⟨rfl, _, rfl, hends.1 e rfl, hends.2.1, hends.2.2⟩

end TemplateTree
