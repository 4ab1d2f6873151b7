import TemplateTree.Proofs.Restoration

/-!
# Steps that are stopped at errors

A step may be stopped where it would end in one of some errors. Whatever renders the nodes inside of
others may be stopped in place of what is made of it: a node passes the errors of what is inside of it
on, and the errors that it raises itself are not among those at which to stop. Only a test has its own
way with errors.
-/

namespace TemplateTree

open RenderM

variable {η α β : Type}

def endsIn (E : Error → Bool) : Except Error α → Bool
  | .ok _ => false
  | .error e => E e

/-- A step without an outcome where it would end in one of some errors. -/
def stopAt (E : Error → Bool) (x : RenderM η α) : RenderM η α :=
  fun ctx => (x ctx).filter fun r => !endsIn E r.1

/-- Those of some errors that a test does not swallow. -/
def unswallowed (E : Error → Bool) (e : Error) : Bool :=
  E e && e.kind != .variableNotFound

section
variable {E : Error → Bool}

theorem stopAt_apply (x : RenderM η α) (c : Context η) : stopAt E x c = (x c).filter fun r => !endsIn E r.1 :=
  rfl

theorem stopAt_of_none {x : RenderM η α} {c : Context η} (h : x c = none) : stopAt E x c = none := by
  rw [stopAt_apply, h]
  rfl

theorem stopAt_of_ends {x : RenderM η α} {c d : Context η} {r : Except Error α} (h : x c = some (r, d))
    (hr : endsIn E r = true) : stopAt E x c = none := by
  rw [stopAt_apply, h, Option.filter_some, hr]
  rfl

theorem stopAt_of_passes {x : RenderM η α} {c d : Context η} {r : Except Error α} (h : x c = some (r, d))
    (hr : endsIn E r = false) : stopAt E x c = some (r, d) := by
  rw [stopAt_apply, h, Option.filter_some, hr]
  rfl

theorem stopAt_pure (a : α) : stopAt E (pure a : RenderM η α) = pure a :=
  rfl

theorem stopAt_newIdentity : stopAt E (newIdentity : RenderM η Identity) = newIdentity :=
  rfl

theorem stopAt_ofResult {r : Except Error α} (h : endsIn E r = false) :
    stopAt E (ofResult r : RenderM η α) = ofResult r := by
  funext c
  exact stopAt_of_passes rfl h

theorem stopAt_bind (x : RenderM η α) (f : α → RenderM η β) :
    stopAt E (x >>= f) = stopAt E x >>= fun a => stopAt E (f a) := by
  funext c
  cases hx : x c with
  | none => rw [stopAt_of_none, RenderM.bind_apply, stopAt_of_none hx]; rw [RenderM.bind_apply, hx]
  | some o =>
    obtain ⟨e | a, d⟩ := o
    · have hbind : (x >>= f) c = some (.error e, d) := by rw [RenderM.bind_apply, hx]
      rw [RenderM.bind_apply]
      cases hE : E e with
      | true => rw [stopAt_of_ends hbind hE, stopAt_of_ends hx hE]
      | false => rw [stopAt_of_passes hbind hE, stopAt_of_passes hx hE]
    · have hok : stopAt E x c = some (.ok a, d) := stopAt_of_passes hx rfl
      have hbind : (x >>= f) c = f a d := by rw [RenderM.bind_apply, hx]
      rw [RenderM.bind_apply, hok]
      show ((x >>= f) c).filter _ = _
      rw [hbind]
      rfl

theorem stopAt_get_bind (f : Context η → RenderM η α) :
    stopAt E (get >>= f) = get >>= fun c => stopAt E (f c) :=
  stopAt_bind get f

theorem stopAt_ite (p : Prop) [Decidable p] (x y : RenderM η α) :
    stopAt E (if p then x else y) = if p then stopAt E x else stopAt E y := by
  split <;> rfl

/-! ### Brackets -/

/-- Brackets that close wherever the step between them ends pass its errors on. -/
theorem stopAt_bracket {before : RenderM η β} {after : β → RenderM η Unit} {x : RenderM η α}
    (h : ∀ c, ∃ b c₁, before c = some (.ok b, c₁) ∧
      ∀ r c₂, x c₁ = some (r, c₂) → ∃ c₃, after b c₂ = some (.ok (), c₃)) :
    stopAt E (bracket before after x) = bracket before after (stopAt E x) := by
  funext c
  obtain ⟨b, c₁, hbefore, hafter⟩ := h c
  have happly := bracket_apply hbefore after x
  rw [bracket_apply hbefore]
  cases hx : x c₁ with
  | none =>
    rw [hx] at happly
    rw [stopAt_of_none happly, stopAt_of_none hx]
  | some o =>
    obtain ⟨r, c₂⟩ := o
    obtain ⟨c₃, hc₃⟩ := hafter r c₂ hx
    have hclose : (do after b; ofResult r : RenderM η α) c₂ = some (r, c₃) := by
      rw [RenderM.bind_apply, hc₃]
      rfl
    rw [hx] at happly
    cases hr : endsIn E r with
    | true => rw [stopAt_of_ends (happly.trans hclose) hr, stopAt_of_ends hx hr]
    | false =>
      rw [stopAt_of_passes (happly.trans hclose) hr, stopAt_of_passes hx hr]
      exact hclose.symm

theorem stopAt_inFrame {frame : Dict (Val η)} {x : RenderM η α} (hx : Restores Set.univ x) :
    stopAt E (inFrame frame x) = inFrame frame (stopAt E x) := by
  refine stopAt_bracket fun c => ⟨(), c.push frame, rfl, fun r c₂ hr => ?_⟩
  obtain ⟨f, d, hpop, -⟩ := (hx.outcome trivial hr).2.pop?
  exact ⟨d, popFrame_discard hpop⟩

theorem stopAt_deeper (x : RenderM η α) : stopAt E (deeper x) = deeper (stopAt E x) :=
  stopAt_bracket fun c => ⟨c.depth, _, rfl, fun _ _ _ => ⟨_, rfl⟩⟩

theorem stopAt_isolated (globals : Dict (Val η)) (x : RenderM η α) :
    stopAt E (isolated globals x) = isolated globals (stopAt E x) := by
  funext c
  show ((x (c.isolated globals)).map _).filter _ = ((x (c.isolated globals)).filter _).map _
  rw [Option.filter_map]
  rfl

end

/-! ## Nodes -/

section
variable {E : Error → Bool} {render : Renderer η}

theorem stopAt_renderAll : ∀ ns : List (Node η),
    stopAt E (renderAll render ns) = renderAll (fun n => stopAt E (render n)) ns
  | [] => rfl
  | n :: ns => by simp only [renderAll, stopAt_bind, stopAt_pure, stopAt_renderAll ns]

theorem stopAt_renderList (ns : List (Node η)) : stopAt E (do return Value.list (← renderAll render ns)) =
    (do return Value.list (← renderAll (fun n => stopAt E (render n)) ns)) := by
  rw [stopAt_bind, stopAt_renderAll]
  rfl

theorem stopAt_renderDefinition (b : Block η) :
    stopAt E (renderDefinition render b) = renderDefinition (fun n => stopAt E (render n)) b := by
  unfold renderDefinition
  rw [stopAt_bind, stopAt_renderAll]
  rfl

theorem stopAt_renderOperative (b : Block η) :
    stopAt E (renderOperative render b) = renderOperative (fun n => stopAt E (render n)) b := by
  unfold renderOperative
  rw [stopAt_get_bind]
  refine bind_congr fun c => ?_
  cases queued? c b.name with
  | none => exact stopAt_renderDefinition b
  | some definition =>
    refine (stopAt_bracket fun c => ⟨(), _, rfl, fun _ _ _ => ⟨_, rfl⟩⟩).trans ?_
    rw [stopAt_renderDefinition]
    rfl

section
variable (hrestores : ∀ n, Restores n.bound (render n))
include hrestores

theorem stopAt_renderBlock (b : Block η) :
    stopAt E (renderBlock render b) = renderBlock (fun n => stopAt E (render n)) b := by
  unfold renderBlock
  rw [stopAt_bind, stopAt_inFrame (restores_operative hrestores b), stopAt_renderOperative]
  rfl

theorem stopAt_renderSuper (b : Block η) :
    stopAt E (renderSuper render b) = renderSuper (fun n => stopAt E (render n)) b := by
  unfold renderSuper
  rw [stopAt_get_bind]
  refine bind_congr fun c => ?_
  cases queued? c b.name with
  | none => rfl
  | some _ => exact stopAt_renderBlock hrestores b

end

theorem stopAt_renderCycle (id : Nat) (values : List (Node η)) (name : Option String) (silent : Bool) :
    stopAt E (renderCycle render id values name silent) =
      renderCycle (fun n => stopAt E (render n)) id values name silent := by
  unfold renderCycle
  rw [stopAt_get_bind]
  refine bind_congr fun c => ?_
  dsimp only
  cases values[c.position id % values.length]? with
  | none => rfl
  | some n =>
    rw [stopAt_bind]
    refine bind_congr fun v => ?_
    cases name <;> rfl

end

/-! ### Errors that nodes raise -/

/-- Errors as they are raised, before a template names itself in them, are not among those at which to
stop. -/
def Raised (E : Error → Bool) : Prop :=
  ∀ cause, E (.ofCause cause) = false

section
variable {E : Error → Bool} (hE : Raised E)
include hE

theorem stopAt_fail (cause : Cause) : stopAt E (fail cause : RenderM η α) = fail cause :=
  stopAt_ofResult (hE cause)

theorem stopAt_ofFault (r : Except RenderFault α) : stopAt E (ofFault r : RenderM η α) = ofFault r := by
  cases r with
  | ok a => rfl
  | error fault => exact stopAt_fail hE _

theorem stopAt_template (engine : Engine η) (name : String) :
    stopAt E (ofResult (engine.template name) : RenderM η (Template η)) =
      ofResult (engine.template name) := by
  refine stopAt_ofResult ?_
  unfold Engine.template
  cases engine.template? name with
  | none => exact hE _
  | some t => rfl

theorem stopAt_anyTemplate (engine : Engine η) (names : List String) :
    stopAt E (ofResult (engine.anyTemplate names) : RenderM η (Template η)) =
      ofResult (engine.anyTemplate names) := by
  refine stopAt_ofResult ?_
  unfold Engine.anyTemplate
  cases names.findSome? engine.template? with
  | none => exact hE _
  | some t => rfl

theorem stopAt_bindItem (vars : List String) (item : Val η) :
    stopAt E (bindItem vars item) = bindItem vars item := by
  unfold bindItem
  split
  · rfl
  · rfl
  · rfl
  · exact stopAt_fail hE _

theorem stopAt_renderFragment (engine : Engine η) {render : Renderer η} (contents : List (Node η)) :
    stopAt E (renderFragment engine render contents) =
      renderFragment engine (fun n => stopAt E (render n)) contents := by
  unfold renderFragment
  simp only [stopAt_bind, stopAt_renderAll, stopAt_newIdentity, stopAt_ofFault hE]

theorem stopAt_renderDoctype (engine : Engine η) (version : UInt8) :
    stopAt E (renderDoctype engine version) = renderDoctype engine version := by
  unfold renderDoctype
  simp only [stopAt_bind, stopAt_newIdentity, stopAt_ofFault hE]

theorem stopAt_renderRounds {render : Renderer η} (vars : List String)
    (contents : List (Node η)) (parent : Val η) (n : Nat) : ∀ (i : Nat) (items : List (Val η)),
    stopAt E (renderRounds render vars contents parent n i items) =
      renderRounds (fun n => stopAt E (render n)) vars contents parent n i items
  | _, [] => rfl
  | i, item :: items => by
    simp only [renderRounds, stopAt_bind, stopAt_bindItem hE, stopAt_renderAll,
      stopAt_renderRounds vars contents parent n (i + 1) items, stopAt_pure]
    rfl

theorem stopAt_renderExtras {render : Renderer η} : ∀ (extra : List (String × Node η)) (d : Dict (Val η)),
    stopAt E (renderExtras render d extra) = renderExtras (fun n => stopAt E (render n)) d extra
  | [], _ => rfl
  | (name, n) :: extra, d => by
    have hextra : stopAt E (renderExtra render n) = renderExtra (fun n => stopAt E (render n)) n := by
      cases n with
      | text t => exact (stopAt_bind _ _).trans (bind_congr fun v => stopAt_ofFault hE _)
      | _ => rfl
    rw [renderExtras, stopAt_bind, hextra]
    exact bind_congr fun v => stopAt_renderExtras extra _

end

/-! ### Variables -/

section
variable {E : Error → Bool} {render : Renderer Empty} (hrestores : ∀ n, Restores n.bound (render n))
include hrestores

theorem stopAt_reach (calls : Bool) (receiver v : Val Empty) :
    stopAt E (reach render calls receiver v) = reach (fun n => stopAt E (render n)) calls receiver v := by
  cases v with
  | function id f =>
    cases calls with
    | false => rfl
    | true =>
      cases f with
      | super b => exact stopAt_renderSuper hrestores b
      | host p => cases p
  | _ => rfl

variable (hE : Raised E)
include hE

theorem stopAt_followAll (calls : Bool) : ∀ (names : List String) (current : Val Empty),
    stopAt E (followAll render calls current names) =
      followAll (fun n => stopAt E (render n)) calls current names
  | [], _ => rfl
  | name :: names, current => by
    have hfollow : stopAt E (follow render calls current name) =
        follow (fun n => stopAt E (render n)) calls current name := by
      unfold follow
      cases current.property? name with
      | none => exact stopAt_fail hE _
      | some v => exact stopAt_reach hrestores calls current v
    rw [followAll, stopAt_bind, hfollow]
    exact bind_congr fun v => stopAt_followAll calls names v

theorem stopAt_resolve (v : Variable) :
    stopAt E (resolve render v) = resolve (fun n => stopAt E (render n)) v := by
  rw [resolve_eq, resolve_eq, stopAt_get_bind]
  refine bind_congr fun c => ?_
  cases c.get? v.segments.1 with
  | none => exact stopAt_fail hE _
  | some w =>
    refine (stopAt_bind _ _).trans ?_
    rw [stopAt_reach hrestores]
    exact bind_congr fun u => stopAt_followAll hrestores hE v.calls v.segments.2 u

end

section
variable {E : Error → Bool} {resolve : Resolver η} {render : Renderer η}

theorem stopAt_renderSegments : ∀ segments : List Segment,
    stopAt E (renderSegments resolve segments) = renderSegments (fun v => stopAt E (resolve v)) segments
  | [] => rfl
  | .text _ :: segments => by
    rw [renderSegments, stopAt_bind]
    refine bind_congr fun v => ?_
    rw [stopAt_bind, stopAt_renderSegments segments]
    rfl
  | .var v :: segments => by
    rw [renderSegments, stopAt_bind]
    refine bind_congr fun v => ?_
    rw [stopAt_bind, stopAt_renderSegments segments]
    rfl

theorem stopAt_renderText (t : TemplateText) :
    stopAt E (renderText resolve t) = renderText (fun v => stopAt E (resolve v)) t := by
  cases t with
  | literal s => rfl
  | mixed segments =>
    refine (stopAt_bind _ _).trans ?_
    rw [stopAt_renderSegments]
    rfl

theorem resolveOrNone_of_none {v : Variable} {c : Context η} (h : resolve v c = none) :
    resolveOrNone resolve v c = none := by
  unfold resolveOrNone
  rw [RenderM.bind_apply, attempt, h]
  rfl

theorem resolveOrNone_of_ok {v : Variable} {c d : Context η} {w : Val η} (h : resolve v c = some (.ok w, d)) :
    resolveOrNone resolve v c = some (.ok w, d) := by
  unfold resolveOrNone
  rw [RenderM.bind_apply, attempt, h]
  rfl

theorem resolveOrNone_of_error {v : Variable} {c d : Context η} {e : Error}
    (h : resolve v c = some (.error e, d)) :
    resolveOrNone resolve v c =
      if e.kind = .variableNotFound then some (.ok .none, d) else some (.error e, d) := by
  unfold resolveOrNone
  rw [RenderM.bind_apply, attempt, h]
  simp only [Option.map_some]
  split <;> rfl

/-- A variable in a test swallows errors of one kind and passes the others on. -/
theorem stopAt_resolveOrNone (v : Variable) :
    stopAt E (resolveOrNone resolve v) = resolveOrNone (fun v => stopAt (unswallowed E) (resolve v)) v := by
  funext c
  cases hr : resolve v c with
  | none => rw [stopAt_of_none (resolveOrNone_of_none hr), resolveOrNone_of_none (stopAt_of_none hr)]
  | some o =>
    obtain ⟨e | w, d⟩ := o
    · have herror := resolveOrNone_of_error hr
      by_cases hkind : e.kind = .variableNotFound
      · have hpass : endsIn (unswallowed E) (.error e : Except Error (Val η)) = false := by
          simp [endsIn, unswallowed, hkind]
        rw [if_pos hkind] at herror
        rw [stopAt_of_passes herror rfl, resolveOrNone_of_error (stopAt_of_passes hr hpass), if_pos hkind]
      · have hsame : endsIn (unswallowed E) (.error e : Except Error (Val η)) = E e := by
          simp [endsIn, unswallowed, hkind]
        rw [if_neg hkind] at herror
        cases hE : E e with
        | true => rw [stopAt_of_ends herror hE, resolveOrNone_of_none (stopAt_of_ends hr (hsame.trans hE))]
        | false =>
          rw [stopAt_of_passes herror hE,
            resolveOrNone_of_error (stopAt_of_passes hr (hsame.trans hE)), if_neg hkind]
    · rw [stopAt_of_passes (resolveOrNone_of_ok hr) rfl, resolveOrNone_of_ok (stopAt_of_passes hr rfl)]

theorem stopAt_evaluate : ∀ e : Expr,
    stopAt E (evaluate resolve e) = evaluate (fun v => stopAt (unswallowed E) (resolve v)) e
  | .literal _ => rfl
  | .var v => stopAt_resolveOrNone v
  | .unary op e => by
    rw [evaluate, stopAt_bind, stopAt_evaluate e]
    rfl
  | .binary op a b => by
    have ha := stopAt_evaluate a
    have hb := stopAt_evaluate b
    cases op with
    | and =>
      rw [evaluate, stopAt_bind, ha]
      refine bind_congr fun v => ?_
      rw [stopAt_ite, hb, stopAt_pure]
    | or =>
      rw [evaluate, stopAt_bind, ha]
      refine bind_congr fun v => ?_
      rw [stopAt_ite, hb, stopAt_pure]
    | _ =>
      refine (stopAt_bind _ _).trans ?_
      rw [ha]
      refine bind_congr fun v => (stopAt_bind _ _).trans ?_
      rw [hb]
      rfl

end

section
variable {E : Error → Bool} {resolve : Resolver η} {render : Renderer η}

theorem stopAt_findTarget (hE : Raised E) (engine : Engine η) (target : Target) :
    stopAt E (findTarget engine resolve target) =
      findTarget engine (fun v => stopAt E (resolve v)) target := by
  cases target with
  | name name => exact stopAt_template hE engine name
  | names names => exact stopAt_anyTemplate hE engine names
  | var v =>
    refine (stopAt_bind _ _).trans (bind_congr fun w => ?_)
    cases w with
    | string name => exact stopAt_template hE engine name
    | list items =>
      refine (stopAt_bind _ _).trans ?_
      rw [stopAt_ofFault hE]
      exact bind_congr fun names => stopAt_anyTemplate hE engine names
    | _ => exact stopAt_fail hE _

theorem stopAt_renderAttributes (hE : Raised E) : ∀ (attributes : List (String × Node η)) (d : Dict (Val η)),
    stopAt E (renderAttributes resolve render d attributes) =
      renderAttributes (fun v => stopAt E (resolve v)) (fun n => stopAt E (render n)) d attributes
  | [], _ => rfl
  | (name, n) :: attributes, d => by
    have hattribute : stopAt E (renderAttribute resolve render n) =
        renderAttribute (fun v => stopAt E (resolve v)) (fun n => stopAt E (render n)) n := by
      cases n with
      | literal v => rfl
      | var v => rfl
      | _ => exact (stopAt_bind _ _).trans (bind_congr fun v => stopAt_ofFault hE _)
    rw [renderAttributes, stopAt_bind, hattribute]
    exact bind_congr fun v => stopAt_renderAttributes hE attributes _

theorem stopAt_renderElement (hE : Raised E) (engine : Engine η) (tag : String)
    (attributes : List (String × Node η)) (contents : List (Node η)) :
    stopAt E (renderElement engine resolve render tag attributes contents) =
      renderElement engine (fun v => stopAt E (resolve v)) (fun n => stopAt E (render n)) tag
        attributes contents := by
  unfold renderElement
  simp only [stopAt_bind, stopAt_renderAttributes hE, stopAt_renderAll, stopAt_newIdentity, stopAt_ofFault hE]

theorem stopAt_renderLoop (hE : Raised E) (hrestores : ∀ n, Restores n.bound (render n)) (vars : List String)
    (list : Variable) (contents empty : List (Node η)) :
    stopAt E (renderLoop resolve render vars list contents empty) =
      renderLoop (fun v => stopAt E (resolve v)) (fun n => stopAt E (render n)) vars list contents empty := by
  refine (stopAt_bind _ _).trans (bind_congr fun v => (stopAt_bind _ _).trans ?_)
  rw [stopAt_ofFault hE]
  refine bind_congr fun items => ?_
  cases items with
  | nil => exact stopAt_renderList empty
  | cons item items =>
    refine (stopAt_get_bind _).trans (bind_congr fun c => (stopAt_bind _ _).trans ?_)
    rw [stopAt_inFrame (restores_renderRounds hrestores), stopAt_renderRounds hE]
    rfl

theorem stopAt_renderCond {resolve : Resolver Empty} {render : Renderer Empty} (test : Test Empty)
    (contents otherwise : List (Node Empty)) : stopAt E (renderCond resolve render test contents otherwise) =
      renderCond (fun v => stopAt (unswallowed E) (resolve v)) (fun n => stopAt E (render n)) test
        contents otherwise := by
  cases test with
  | host p => cases p
  | expr e =>
    refine (stopAt_bind _ _).trans ?_
    have htest : stopAt E (runTest resolve render (.expr e)) =
        runTest (fun v => stopAt (unswallowed E) (resolve v)) (fun n => stopAt E (render n)) (.expr e) := by
      refine (stopAt_bind _ _).trans ?_
      rw [stopAt_evaluate]
      rfl
    rw [htest]
    refine bind_congr fun b => ?_
    rw [stopAt_ite, stopAt_renderList, stopAt_renderList]

theorem stopAt_renderInclusionBy (hE : Raised E) {template : Template η → RenderM η (Val η)}
    (htemplate : ∀ t, Restores Set.univ (deeper (template t))) (engine : Engine η) (target : Target)
    (extra : List (String × Node η)) (only : Bool) :
    stopAt E (renderInclusionBy engine resolve render template target extra only) =
      renderInclusionBy engine (fun v => stopAt E (resolve v)) (fun n => stopAt E (render n))
        (fun t => stopAt E (template t)) target extra only := by
  refine (stopAt_bind _ _).trans ?_
  rw [stopAt_findTarget hE]
  refine bind_congr fun t => (stopAt_bind _ _).trans ?_
  rw [stopAt_renderExtras hE]
  refine bind_congr fun frame => (stopAt_get_bind _).trans (bind_congr fun c => ?_)
  rw [stopAt_ite, stopAt_ite, stopAt_fail hE, stopAt_isolated, stopAt_inFrame (htemplate t), stopAt_deeper]

end

end TemplateTree
