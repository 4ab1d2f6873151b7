import TemplateTree.Proofs.Following

/-!
# Nodes that render alike

Nodes render alike in contexts whose variables match: each kind of node does if what is inside of it
does. Where a template starts, its state is its own on both sides, so from there on the states of
templates are the same, whatever they were around it.
-/

namespace TemplateTree

open RenderM
open Value (Matches AllMatch EntriesMatch matches_map matches_scalar optionRel_mono)

variable {A : Error → Prop} {V : View} {I J : Pairing}

/-- A renderer that does the same with a node in related contexts. -/
def Mirrors (A : Error → Prop) (V : View) (render : Renderer Empty) : Prop :=
  ∀ I n, n.Throughout V.Allows → Simulates A V I (Matches V.functions) (render n) (render n)

theorem Mirrors.weaken {B : Error → Prop} {render : Renderer Empty}
    (h : Mirrors A V render) (hA : ∀ e, A e → B e) : Mirrors B V render :=
  fun I n hn => (h I n hn).weaken hA fun _ _ _ _ => id

/-- Relations of what lists of nodes render as that hold where the values match, and of lists put together. -/
structure Joined (F : Prop) (Q : Pairing → List (Val Empty) → List (Val Empty) → Prop) : Prop where
  mono : ∀ I J vs ws, I ≤ J → Q I vs ws → Q J vs ws
  matching : ∀ I vs ws, AllMatch F I vs ws → Q I vs ws
  append : ∀ I vs ws vs' ws', Q I vs ws → Q I vs' ws' → Q I (vs ++ vs') (ws ++ ws')

theorem joined_allMatch (F : Prop) : Joined F (AllMatch (φ := Callable Empty) F) where
  mono := fun _ _ _ _ hI h => h.mono id hI
  matching := fun _ _ _ => id
  append := fun _ _ _ _ _ h h' => List.rel_append h h'

theorem renderAll_simulates {render : Renderer Empty} : ∀ {ns : List (Node Empty)},
    (∀ n ∈ ns, Simulates A V I (Matches V.functions) (render n) (render n)) →
      Simulates A V I (AllMatch V.functions) (renderAll render ns) (renderAll render ns)
  | [], _ => .pure fun _ _ _ _ _ => .nil
  | n :: ns, h => by
    refine (h n (List.mem_cons_self ..)).bind fun J v w hJ hv => ?_
    refine ((renderAll_simulates fun m hm => h m (List.mem_cons_of_mem _ hm)).later hJ).map
      fun K vs ws hK hvs => ?_
    exact .cons (hv.mono id hK) hvs

theorem Mirrors.all {render : Renderer Empty} (h : Mirrors A V render) {ns : List (Node Empty)}
    (hns : V.AllowsAll ns) :
    Simulates A V I (AllMatch V.functions) (renderAll render ns) (renderAll render ns) :=
  renderAll_simulates fun n hn => h I n (hns n hn)

/-! ## Blocks -/

theorem Blocks.mem_queue_of_pop {η : Type} {bs : Blocks η} {name x : String} {b : Block η}
    (h : b ∈ (bs.pop name).queue x) : b ∈ bs.queue x := by
  unfold Blocks.pop at h
  split at h
  · exact h
  · next rest hq =>
    rw [Blocks.queue_insert] at h
    split at h
    · next hx =>
      rw [← hx, hq]
      exact List.mem_cons_of_mem _ h
    · exact h

theorem Blocks.mem_queue_of_push {η : Type} {bs : Blocks η} {name x : String} {b definition : Block η}
    (h : b ∈ (bs.push name definition).queue x) : b = definition ∨ b ∈ bs.queue x := by
  unfold Blocks.push at h
  rw [Blocks.queue_insert] at h
  split at h
  · next hx =>
    rw [← hx]
    exact List.mem_cons.mp h
  · exact .inr h

section
variable {render : Renderer Empty} (hrender : Mirrors A V render) (hV : V.functions)
include hrender hV

theorem renderDefinition_simulates {b : Block Empty} (hb : V.AllowsAll b.contents) :
    Simulates A V I (AllMatch V.functions) (renderDefinition render b) (renderDefinition render b) := by
  refine Simulates.bind (P := fun _ _ _ => True) ?_ fun _ _ _ _ _ => hrender.all hb
  have hname : V.fixed "block" = none := congrFun (V.unrestricted hV).2 "block"
  refine Simulates.newIdentity.bind fun J i j _ hij => .bindVar hname (matches_map.mpr ?_)
  exact .cons ⟨rfl, .string _⟩ (.cons ⟨rfl, .function _ hV hij⟩ .nil)

theorem renderOperative_follows {b : Block Empty} {c d : Context Empty} (hcd : Related V I c d)
    (hb : queued? c b.name = none → V.AllowsAll b.contents) :
    Follows A (Related V) (AllMatch V.functions) I (renderOperative render b c)
      (renderOperative render b d) := by
  unfold renderOperative
  rw [RenderM.get_bind_apply, RenderM.get_bind_apply, ← (hcd.state.queued hV b.name).1]
  cases hq : queued? c b.name with
  | none => exact renderDefinition_simulates hrender hV (hb hq) I c d (le_refl I) hcd
  | some definition =>
    have hdefinition : V.AllowsAll definition.contents := (hcd.state.queued hV b.name).2 definition hq
    have hpop : Related V I (c.mapBlocks (·.pop b.name)) (d.mapBlocks (·.pop b.name)) :=
      hcd.mapBlocks hV _ fun bs hbs x b' hb' => hcd.state.queues hV bs hbs x b' (Blocks.mem_queue_of_pop hb')
    -- the definition is off its queue while it renders, and goes back however that ends
    refine .bracket rfl rfl (renderDefinition_simulates hrender hV hdefinition I _ _ (le_refl I) hpop) ?_ ?_
    · intro J c₂ d₂ _ h₂
      refine ⟨_, _, rfl, rfl, h₂.mapBlocks hV _ fun bs hbs x b' hb' => ?_⟩
      rcases Blocks.mem_queue_of_push hb' with rfl | hb'
      · exact hdefinition
      · exact h₂.state.queues hV bs hbs x b' hb'
    · exact fun _ _ _ => ⟨_, rfl⟩

variable (hrestores : ∀ n, Restores n.bound (render n))
include hrestores

theorem renderBlock_follows {b : Block Empty} {c d : Context Empty} (hcd : Related V I c d)
    (hb : queued? c b.name = none → V.AllowsAll b.contents) :
    Follows A (Related V) (Matches V.functions) I (renderBlock render b c) (renderBlock render b d) := by
  have hoperative := restores_operative hrestores b
  have hinner := renderOperative_follows hrender hV hcd.push hb
  exact (Follows.inFrame hcd hoperative hoperative hinner.inStep).map fun _ _ _ _ hvs => .list hvs

theorem renderSuper_simulates (b : Block Empty) :
    Simulates A V I (Matches V.functions) (renderSuper render b) (renderSuper render b) := by
  refine .get_bind fun J c d _ hcd => ?_
  rw [← (hcd.state.queued hV b.name).1]
  cases hq : queued? c b.name with
  | none => exact .result (le_refl J) hcd (.list .nil)
  | some definition =>
    refine renderBlock_follows hrender hV hrestores hcd fun hnone => ?_
    rw [hq] at hnone
    cases hnone

end

/-! ## Variables, text and tests -/

/-- Calls of the functions that may be met on a path. -/
def CallsMirror (A : Error → Prop) (V : View) (render : Renderer Empty) : Prop :=
  V.functions → ∀ I b, Simulates A V I (Matches V.functions) (renderSuper render b) (renderSuper render b)

section
variable {render : Renderer Empty} (hcalls : CallsMirror A V render)
include hcalls

theorem reach_simulates {calls : Bool} {receiver receiver' v w : Val Empty} (h : Matches V.functions I v w) :
    Simulates A V I (Matches V.functions) (reach render calls receiver v)
      (reach render calls receiver' w) := by
  have hpure : Simulates A V I (Matches V.functions) (pure v) (pure w) := .pure fun _ _ _ hJ _ => h.mono id hJ
  cases h with
  | function f hV hij =>
    cases calls with
    | false => exact hpure
    | true =>
      cases f with
      | super b => exact hcalls hV I b
      | host p => cases p
  | _ => exact hpure

theorem follow_simulates {calls : Bool} {v w : Val Empty} (h : Matches V.functions I v w) (name : String) :
    Simulates A V I (Matches V.functions) (follow render calls v name) (follow render calls w name) := by
  unfold follow
  have hproperty := h.property? name
  generalize v.property? name = o at hproperty ⊢
  generalize w.property? name = p at hproperty ⊢
  cases hproperty with
  | none =>
    rw [h.kind]
    exact .fail _
  | some h => exact reach_simulates hcalls h

theorem followAll_simulates {calls : Bool} : ∀ (names : List String) {I : Pairing} {v w : Val Empty},
    Matches V.functions I v w →
      Simulates A V I (Matches V.functions) (followAll render calls v names) (followAll render calls w names)
  | [], _, _, _, h => .pure fun _ _ _ hJ _ => h.mono id hJ
  | name :: names, _, _, _, h =>
    (follow_simulates hcalls h name).bind fun _ _ _ _ h => followAll_simulates names h

theorem resolve_simulates (v : Variable) :
    Simulates A V I (Matches V.functions) (resolve render v) (resolve render v) := by
  rw [resolve_eq]
  refine .get_bind fun J c d _ hcd => ?_
  have hlookup := hcd.scope.lookup v.segments.1
  generalize c.get? v.segments.1 = o at hlookup ⊢
  generalize d.get? v.segments.1 = p at hlookup ⊢
  cases hlookup with
  | none => exact .error _ (le_refl J) hcd
  | some h =>
    have hreach : Simulates A V J (Matches V.functions) (reach render v.calls .none _)
        (reach render v.calls .none _) :=
      reach_simulates hcalls h
    exact (hreach.bind fun _ _ _ _ h => followAll_simulates hcalls v.segments.2 h) J c d (le_refl J) hcd

end

section
variable {resolve : Resolver Empty}
  (hresolve : ∀ I v, Simulates A V I (Matches V.functions) (resolve v) (resolve v))
include hresolve

theorem renderSegments_simulates : ∀ segments : List Segment,
    Simulates A V I (AllMatch V.functions) (renderSegments resolve segments) (renderSegments resolve segments)
  | [] => .pure fun _ _ _ _ _ => .nil
  | s :: segments => by
    have hs : Simulates A V I (Matches V.functions) (renderSegment resolve s) (renderSegment resolve s) := by
      cases s with
      | text t => exact .pure fun _ _ _ _ _ => .string t
      | var v => exact hresolve I v
    refine hs.bind fun J v w hJ hv => ?_
    exact ((renderSegments_simulates segments).later hJ).map fun K vs ws hK hvs => .cons (hv.mono id hK) hvs

theorem renderText_simulates (t : TemplateText) :
    Simulates A V I (Matches V.functions) (renderText resolve t) (renderText resolve t) := by
  cases t with
  | literal s => exact .pure fun _ _ _ _ _ => .string s
  | mixed segments => exact (renderSegments_simulates hresolve segments).map fun _ _ _ _ h => .list h

variable (hA : ∀ e, A e → e.kind ≠ .variableNotFound)
include hA

theorem resolveOrNone_simulates (v : Variable) :
    Simulates A V I (Matches V.functions) (resolveOrNone resolve v) (resolveOrNone resolve v) := by
  intro J c d hJ hcd
  unfold resolveOrNone
  rw [RenderM.bind_apply, RenderM.bind_apply, RenderM.attempt, RenderM.attempt]
  have h := hresolve I v J c d hJ hcd
  generalize resolve v c = o at h ⊢
  generalize resolve v d = p at h ⊢
  cases h with
  | unfinished => exact .unfinished _
  | result hI hcd hv => exact .result hI hcd hv
  | error e hI hcd =>
    by_cases he : e.kind = .variableNotFound
    · simp only [Option.map_some, he, if_true]
      exact .result hI hcd .none
    · simp only [Option.map_some, he, if_false]
      exact .error e hI hcd
  | abandoned he c =>
    simp only [Option.map_some, hA _ he, if_false]
    exact .abandoned he c _

theorem evaluate_simulates : ∀ (e : Expr) {I : Pairing},
    Simulates A V I (Matches V.functions) (evaluate resolve e) (evaluate resolve e)
  | .literal l, _ => .pure fun _ _ _ _ _ => matches_scalar (by cases l <;> rfl)
  | .var v, _ => resolveOrNone_simulates hresolve hA v
  | .unary op e, _ => (evaluate_simulates e).map fun J v w _ h => by
    rw [h.truthy]
    exact .bool _
  | .binary op a b, I => by
    have ha := @evaluate_simulates a
    have hb := @evaluate_simulates b
    cases op with
    | and =>
      refine ha.bind fun J v w _ h => ?_
      rw [h.truthy]
      exact .ite _ hb (.pure fun _ _ _ hK _ => h.mono id hK)
    | or =>
      refine ha.bind fun J v w _ h => ?_
      rw [h.truthy]
      exact .ite _ (.pure fun _ _ _ hK _ => h.mono id hK) hb
    | _ =>
      refine ha.bind fun J v w _ h => hb.bind fun K v' w' hK h' => .pure fun L _ _ hL hcd => ?_
      rw [(h.mono id (hK.trans hL)).compares hcd.pairing.oneToOne (h'.mono id hL)]
      exact .bool _

theorem runTest_simulates {render : Renderer Empty} (test : Test Empty) :
    Simulates A V I (fun _ b b' => b = b') (runTest resolve render test) (runTest resolve render test) := by
  cases test with
  | expr e => exact (evaluate_simulates hresolve hA e).map fun _ _ _ _ h => h.truthy
  | host p => cases p

end

/-! ## Elements, conditionals and declarations -/

section
variable {resolve : Resolver Empty}
  (hresolve : ∀ I v, Simulates A V I (Matches V.functions) (resolve v) (resolve v))
  {render : Renderer Empty} (hrender : Mirrors A V render)
include hresolve hrender

theorem renderAttribute_simulates {n : Node Empty} (hn : n.Throughout V.Allows) :
    Simulates A V I (Matches V.functions) (renderAttribute resolve render n)
      (renderAttribute resolve render n) := by
  cases n with
  | literal v =>
    refine .pure fun J _ _ _ hcd => ?_
    have hv : Matches False J v v := hn.here.matches hcd.pairing.known
    exact hv.mono False.elim (le_refl J)
  | var v => exact hresolve I v
  | _ => exact (hrender I _ hn).bind fun J v w _ h => .ofFault fun _ _ _ hK _ => (h.mono id hK).joinText

theorem renderAttributes_simulates : ∀ {attributes : List (String × Node Empty)} {I : Pairing}
    {d d' : Dict (Val Empty)}, (∀ e ∈ attributes, e.2.Throughout V.Allows) → EntriesMatch V.functions I d d' →
      Simulates A V I (EntriesMatch V.functions) (renderAttributes resolve render d attributes)
        (renderAttributes resolve render d' attributes)
  | [], _, _, _, _, hd => .pure fun _ _ _ hJ _ => hd.mono id hJ
  | (name, _) :: _, _, _, _, h, hd =>
    (renderAttribute_simulates hresolve hrender (h _ (List.mem_cons_self ..))).bind fun _ _ _ hJ hv =>
      renderAttributes_simulates (fun e he => h e (List.mem_cons_of_mem _ he))
        ((hd.mono id hJ).insert name hv)

theorem renderElement_simulates {Q : Pairing → List (Val Empty) → List (Val Empty) → Prop}
    (hQ : Joined V.functions Q) {engine : Engine Empty} {tag : String}
    {attributes : List (String × Node Empty)} {ns ms : List (Node Empty)}
    (hattributes : ∀ e ∈ attributes, e.2.Throughout V.Allows)
    (hcontents : ∀ I, Simulates A V I Q (renderAll render ns) (renderAll render ms))
    (hmake : ∀ J i j es fs vs ws, J i j → EntriesMatch V.functions J es fs → Q J vs ws →
      Simulates A V J (Matches V.functions) (ofFault (engine.mode.element i tag es (Value.flatten vs)))
        (ofFault (engine.mode.element j tag fs (Value.flatten ws)))) :
    Simulates A V I (Matches V.functions) (renderElement engine resolve render tag attributes ns)
      (renderElement engine resolve render tag attributes ms) := by
  refine (renderAttributes_simulates hresolve hrender hattributes .nil).bind fun J es fs _ hes => ?_
  refine (hcontents J).bind fun K vs ws hK hvs => ?_
  refine Simulates.newIdentity.bind fun L i j hL hij => ?_
  exact hmake L i j es fs vs ws hij (hes.mono id (hK.trans hL)) (hQ.mono K L vs ws hL hvs)

end

section
variable {render : Renderer Empty} {Q : Pairing → List (Val Empty) → List (Val Empty) → Prop}
  {P : Pairing → Val Empty → Val Empty → Prop}

theorem renderCond_simulates (hlist : ∀ J vs ws, Q J vs ws → P J (.list vs) (.list ws))
    {resolve : Resolver Empty} {test : Test Empty} {ns ms ns' ms' : List (Node Empty)}
    (htest : Simulates A V I (fun _ b b' => b = b') (runTest resolve render test)
      (runTest resolve render test))
    (hcontents : ∀ I, Simulates A V I Q (renderAll render ns) (renderAll render ms))
    (hotherwise : ∀ I, Simulates A V I Q (renderAll render ns') (renderAll render ms')) :
    Simulates A V I P (renderCond resolve render test ns ns') (renderCond resolve render test ms ms') := by
  refine htest.bind fun J b _ _ hb => ?_
  subst hb
  exact .ite _ ((hcontents J).map fun K vs ws _ => hlist K vs ws)
    ((hotherwise J).map fun K vs ws _ => hlist K vs ws)

theorem renderFragment_simulates (hQ : Joined V.functions Q) {engine : Engine Empty}
    {ns ms : List (Node Empty)} (hcontents : Simulates A V I Q (renderAll render ns) (renderAll render ms))
    (hmake : ∀ J i j vs ws, J i j → Q J vs ws →
      Simulates A V J P (ofFault (engine.mode.fragment i (Value.flatten vs)))
      (ofFault (engine.mode.fragment j (Value.flatten ws)))) :
    Simulates A V I P (renderFragment engine render ns) (renderFragment engine render ms) := by
  refine hcontents.bind fun J vs ws _ hvs => ?_
  exact Simulates.newIdentity.bind fun K i j hK hij => hmake K i j vs ws hij (hQ.mono J K vs ws hK hvs)

end

theorem renderDoctype_simulates {G : Prop} {engine : Engine Empty}
    (hmode : engine.mode.Uniform G) (version : UInt8) :
    Simulates A V I (Matches V.functions) (renderDoctype engine version) (renderDoctype engine version) :=
  Simulates.newIdentity.bind fun _ _ _ _ hij => .ofFault fun _ _ _ hK _ => hmode.raw _ (hK _ _ hij)

/-! ## Cycles and loops -/

theorem renderCycle_simulates {render : Renderer Empty} {k : Nat} {values : List (Node Empty)}
    {name : Option String} {silent : Bool} (hV : V.apart = none)
    (hname : ∀ x, name = some x → V.fixed x = none)
    (hrender : ∀ I, ∀ n ∈ values, Simulates A V I (Matches V.functions) (render n) (render n)) :
    Simulates A V I (Matches V.functions) (renderCycle render k values name silent)
      (renderCycle render k values name silent) := by
  refine .get_bind fun J c d _ hcd => ?_
  have hposition : c.position k = d.position k := by
    rw [Context.position, hcd.state.together hV, Context.position]
  rw [hposition]
  generalize d.position k % values.length = i
  cases hi : values[i]? with
  | none => exact .result (le_refl J) hcd (.list .nil)
  | some n =>
    refine Simulates.bind (hrender J n (List.mem_of_getElem? hi)) (fun K v w _ hv => ?_) J c d (le_refl J) hcd
    refine (Simulates.update fun _ _ _ _ hcd => hcd.setPosition hV k _).bind fun L _ _ hL _ => ?_
    have hlast : ∀ M, L ≤ M → Simulates A V M (Matches V.functions) (pure (if silent then .list [] else v))
        (pure (if silent then .list [] else w)) := by
      intro M hM
      cases silent with
      | true => exact .pure fun _ _ _ _ _ => .list .nil
      | false => exact .pure fun _ _ _ hN _ => hv.mono id ((hL.trans hM).trans hN)
    cases name with
    | none => exact hlast L (le_refl L)
    | some x => exact (Simulates.bindVar (hname x rfl) (hv.mono id hL)).bind fun M _ _ hM _ => hlast M hM

theorem bindItem_simulates {vars : List String} (hvars : ∀ x ∈ vars, V.fixed x = none) {v w : Val Empty}
    (h : Matches V.functions I v w) :
    Simulates A V I (fun _ _ _ => True) (bindItem vars v) (bindItem vars w) := by
  have hparts {vs ws : List (Val Empty)} (hvs : AllMatch V.functions I vs ws) :
      Simulates A V I (fun _ _ _ => True) (update (·.setAll vars vs)) (update (·.setAll vars ws)) :=
    .update fun _ _ _ hJ hcd => hcd.setAll hvars (hvs.mono id hJ)
  rcases vars with _ | ⟨x, _ | ⟨y, vars⟩⟩
  case cons.nil => exact .bindVar (hvars x (List.mem_singleton.mpr rfl)) h
  all_goals
    cases h with
    | list hvs => exact hparts hvs
    | string s => exact hparts (ofChars_match s)
    | _ => exact .fail _

section
variable {render : Renderer Empty} {Q : Pairing → List (Val Empty) → List (Val Empty) → Prop}
  (hQ : Joined V.functions Q) {ns ms : List (Node Empty)}
  (hcontents : ∀ I, Simulates A V I Q (renderAll render ns) (renderAll render ms)) {vars : List String}
  (hvars : ∀ x ∈ "forloop" :: vars, V.fixed x = none)
include hQ hcontents hvars

theorem renderRounds_simulates {n : Nat} : ∀ {items items' : List (Val Empty)} {i : Nat}
    {I : Pairing} {parent parent' : Val Empty}, AllMatch V.functions I items items' →
      Matches V.functions I parent parent' → Simulates A V I Q (renderRounds render vars ns parent n i items)
        (renderRounds render vars ms parent' n i items')
  | [], [], _, _, _, _, _, _ => .pure fun J _ _ _ _ => hQ.matching J [] [] .nil
  | item :: items, item' :: items', i, I, _, _, .cons hitem hitems, hparent => by
    obtain ⟨hforloop, hitemVars⟩ := List.forall_mem_cons.mp hvars
    refine (bindItem_simulates hitemVars hitem).bind fun J _ _ hJ _ => ?_
    refine (Simulates.bindVar hforloop (loopState_matches (hparent.mono id hJ) i n)).bind fun K _ _ hK _ => ?_
    refine (hcontents K).bind fun L here here' hL hhere => ?_
    have hlater := (hJ.trans hK).trans hL
    have hitems : AllMatch V.functions L items items' := Value.AllMatch.mono id hlater hitems
    refine (renderRounds_simulates hitems (hparent.mono id hlater)).map fun M rest rest' hM hrest => ?_
    exact hQ.append M _ _ _ _ (hQ.mono L M _ _ hM hhere) hrest

theorem renderLoop_simulates {P : Pairing → Val Empty → Val Empty → Prop}
    (hlist : ∀ J vs ws, Q J vs ws → P J (.list vs) (.list ws)) (hrestores : ∀ n, Restores n.bound (render n))
    {resolve : Resolver Empty} {list : Variable} {ns' ms' : List (Node Empty)}
    (hresolve : Simulates A V I (Matches V.functions) (resolve list) (resolve list))
    (hfallback : ∀ I, Simulates A V I Q (renderAll render ns') (renderAll render ms')) :
    Simulates A V I P (renderLoop resolve render vars list ns ns')
      (renderLoop resolve render vars list ms ms') := by
  refine hresolve.bind fun J v w _ hv => ?_
  refine Simulates.bind (P := AllMatch V.functions) (.ofFault fun _ _ _ hK _ => (hv.mono id hK).loopItems) ?_
  rintro K _ _ _ (_ | ⟨hitem, hitems⟩)
  · exact (hfallback K).map fun L vs ws _ => hlist L vs ws
  · refine .get_bind fun L c d hL hcd => ?_
    have hparent : Matches V.functions L ((c.get? "forloop").getD (.map []))
        ((d.get? "forloop").getD (.map [])) := by
      have hlookup := hcd.scope.lookup "forloop"
      generalize c.get? "forloop" = o at hlookup ⊢
      generalize d.get? "forloop" = p at hlookup ⊢
      cases hlookup with
      | none => exact matches_map.mpr .nil
      | some h => exact h
    have hitems := Value.AllMatch.mono id hL (.cons hitem hitems)
    have hrounds (n : Nat) := renderRounds_simulates hQ hcontents hvars (n := n) (i := 0) hitems hparent L _ _
      (le_refl L) hcd.push
    rw [List.Forall₂.length_eq hitems]
    refine (Follows.inFrame hcd ?_ ?_ (hrounds _).inStep).map fun M vs ws _ => hlist M vs ws
    · exact restores_renderRounds hrestores
    · exact restores_renderRounds hrestores

end

/-! ## Templates -/

/-- What a comparison asks for: of the errors at which it may be given up, of the mode, and of the
templates. -/
structure View.Suits (V : View) (A : Error → Prop) (engine : Engine Empty) : Prop where
  caught : ∀ e, A e → e.kind ≠ .variableNotFound
  named : ∀ e name, A e → A (e.inTemplate name)
  deep : V.level ∨ ∀ limit, A (.ofCause (.includeDepth limit))
  uniform : engine.mode.Uniform V.functions
  registered : ∀ name t, engine.template? name = some t → V.inside.AllowsAll t.contents

theorem View.Suits.inside {engine : Engine Empty} (h : V.Suits A engine) : V.inside.Suits A engine where
  caught := h.caught
  named := h.named
  deep := h.deep
  uniform :=
    { element := h.uniform.element
      fragment := fun hij hvs =>
        (h.uniform.fragment hij hvs).imp fun _ _ h => h.mono (fun h => ⟨h.1, trivial⟩) (le_refl _)
      raw := h.uniform.raw }
  registered := h.registered

section
variable {η : Type}

theorem queueBlocks_made : ∀ (ts : List (Template η)) (c : Context η), (queueBlocks c ts).made = c.made
  | [], _ => rfl
  | t :: ts, c => queueBlocks_made ts (c.addLevel t.blocks)

theorem queueBlocks_congr : ∀ (ts : List (Template η)) {c d : Context η}, c.render = d.render →
    (queueBlocks c ts).render = (queueBlocks d ts).render
  | [], _, _, h => h
  | t :: ts, c, d, h => by
    refine queueBlocks_congr ts (c := c.addLevel t.blocks) (d := d.addLevel t.blocks) ?_
    show RenderFrame.mk _ _ = RenderFrame.mk _ _
    rw [h]

end

theorem Related.queueBlocks {chain : Chain Empty} {c d : Context Empty}
    (h : Related V I c d) (hV : V.functions) (hblocks : c.render.blocks = none)
    (hallowed : ∀ t ∈ chain.templates, V.AllowsAll t.contents) :
    Related V I (queueBlocks c chain.templates) (queueBlocks d chain.templates) where
  pairing := by
    rw [queueBlocks_made, queueBlocks_made]
    exact h.pairing
  state :=
    { apart := fun frame hframe => by
        rw [(V.unrestricted hV).1] at hframe
        cases hframe
      together := fun hV => queueBlocks_congr _ (h.state.together hV)
      queues := by
        intro _ bs hbs x b hb
        have hqueue := chain.queue?_queueBlocks hblocks x
        rw [Context.queue?, hbs] at hqueue
        have hdefinitions : bs.queue x = chain.definitions x := Option.some.inj hqueue
        rw [hdefinitions] at hb
        obtain ⟨-, t, ht, m, hm, hcontains⟩ := Chain.holds_of_mem_definitions hb
        exact fun n hn k hk => hallowed t ht m hm k (hcontains.trans (.head hn hk)) }
  scope := h.scope.restored (Context.queueBlocks_scope _ c) (Context.queueBlocks_scope _ d)

section
variable {engine : Engine Empty} {render : Renderer Empty} (hV : V.Suits A engine)
  (hinside : Mirrors A V.inside render) {t : Template Empty} (ht : V.inside.AllowsAll t.contents)
include hV hinside ht

theorem renderChain_follows {c d : Context Empty} (hcd : Related V.inside I c d)
    (hblocks : c.render.blocks = none) :
    Follows A (Related V.inside) (Matches V.functions) I (renderChain engine render t c)
      (renderChain engine render t d) := by
  cases hchain : engine.chain t with
  | error e =>
    rw [renderChain_of_error hchain, renderChain_of_error hchain]
    exact .error e (le_refl I) hcd
  | ok chain =>
    rw [renderChain_of_ok hchain, renderChain_of_ok hchain]
    have hallowed : ∀ u ∈ chain.templates, V.inside.AllowsAll u.contents := by
      intro u hu
      rcases Engine.mem_chain hchain hu with rfl | ⟨name, hname⟩
      · exact ht
      · exact hV.registered name u hname
    have hcontents : Simulates A V.inside I (AllMatch True) (renderAll render chain.root.contents)
        (renderAll render chain.root.contents) := hinside.all (hallowed _ chain.root_mem)
    have hfragment : Simulates A V.inside I (Matches V.functions)
        (renderFragment engine render chain.root.contents)
        (renderFragment engine render chain.root.contents) := by
      refine renderFragment_simulates (joined_allMatch True) hcontents fun J i j vs ws hij hvs => ?_
      refine .ofFault fun K _ _ hK _ => ?_
      have := hV.uniform.fragment (hK _ _ hij) (Value.AllMatch.flatten (Value.AllMatch.mono id hK hvs))
      exact this.imp fun _ _ h => h.mono And.right (le_refl K)
    have hqueued : Related V.inside I (queueBlocks c chain.templates) (queueBlocks d chain.templates) :=
      hcd.queueBlocks trivial hblocks hallowed
    exact (hfragment I _ _ (le_refl I) hqueued).inTemplate (hV.named · _)

variable (hrestores : ∀ n, Restores n.bound (render n))
include hrestores

/-- Whatever the states of the templates around, a template renders alike, and those states are not
touched. -/
theorem renderTemplate_follows {c d : Context Empty} (hcd : Related V.inside I c.enter d.enter) :
    Follows A
      (fun J c' d' => J.Valid V.known c'.made d'.made ∧ V.inside.SameScope J c' d' ∧
        (c'.render = c.render ∧ c'.saved = c.saved) ∧ d'.render = d.render ∧ d'.saved = d.saved)
      (Matches V.functions) I (renderTemplate engine render t c) (renderTemplate engine render t d) := by
  have hchain := renderChain_follows hV hinside ht hcd rfl
  refine .bracket rfl rfl (hchain.also (fun _ _ => saved_of_renderChain hrestores)
    (fun _ _ => saved_of_renderChain hrestores)) ?_ ?_
  · rintro J c₂ d₂ _ ⟨h₂, hc, hd⟩
    refine ⟨_, _, leaveTemplate_of_saved hc, leaveTemplate_of_saved hd, h₂.pairing, ?_, ⟨rfl, rfl⟩, rfl, rfl⟩
    exact { h₂.scope with }
  · exact fun r c₂ hr => ⟨_, leaveTemplate_of_saved (saved_of_renderChain hrestores hr)⟩

theorem renderIsolated_follows {c d : Context Empty} {f g : Dict (Val Empty)} (hcd : Related V I c d)
    (hf : EntriesMatch V.functions I f g) :
    Follows A (Related V) (Matches V.functions) I (renderIsolated engine render t f c)
      (renderIsolated engine render t g d) := by
  have hf : EntriesMatch True I f g := hf.mono (fun _ => trivial) (le_refl I)
  have hscope : V.inside.SameScope I (c.isolated f).enter (d.isolated g).enter :=
    { lookup := fun x => by
        have hx := hf.get? x
        rwa [← Context.get?_withGlobals, ← Context.get?_withGlobals] at hx
      top := fun _ => hf.get?
      fixed := nofun
      depth := Nat.succ_le_succ hcd.scope.depth
      level := fun h => congrArg (· + 1) (hcd.scope.level h) }
  have hstart : Related V.inside I (c.isolated f).enter (d.isolated g).enter :=
    ⟨⟨hcd.pairing, nofun, fun _ => rfl, nofun⟩, hscope⟩
  have htemplate := renderTemplate_follows hV hinside ht hrestores hstart
  show Follows _ _ _ _ ((renderTemplate engine render t (c.isolated f)).map _)
    ((renderTemplate engine render t (d.isolated g)).map _)
  generalize renderTemplate engine render t (c.isolated f) = o at htemplate ⊢
  generalize renderTemplate engine render t (d.isolated g) = p at htemplate ⊢
  have hback {J : Pairing} {c' d' : Context Empty} (hI : I ≤ J) (hvalid : J.Valid V.known c'.made d'.made) :
      Related V J { c with made := c'.made } { d with made := d'.made } :=
    have hscope := hcd.scope.mono hI
    ⟨⟨hvalid, hcd.state⟩, { hscope with }⟩
  cases htemplate with
  | unfinished => exact .unfinished _
  | result hI h hv => exact .result hI (hback hI h.1) hv
  | error e hI h => exact .error e hI (hback hI h.1)
  | abandoned he => exact .abandoned he _ _

theorem renderInside_follows {c d : Context Empty} {f g : Dict (Val Empty)} (hcd : Related V I c d)
    (hf : EntriesMatch V.functions I f g) :
    Follows A (Related V) (Matches V.functions) I (renderInside engine render t f c)
      (renderInside engine render t g d) := by
  have hrestored : Restores Set.univ (deeper (renderTemplate engine render t)) :=
    restores_template hrestores t
  refine .inFrame hcd hrestored hrestored ?_
  have hscope := hcd.scope.included hf
  have hstart : Related V.inside I { c.push f with depth := c.depth + 1 }.enter
      { d.push g with depth := d.depth + 1 }.enter :=
    { pairing := hcd.pairing
      state := ⟨nofun, fun _ => rfl, nofun⟩
      scope :=
        { lookup := hscope.lookup
          top := hscope.top
          fixed := nofun
          depth := Nat.succ_le_succ hcd.scope.depth
          level := fun h => congrArg (· + 1) (hcd.scope.level h) } }
  refine .bracket rfl rfl (renderTemplate_follows hV hinside ht hrestores hstart) ?_ fun _ _ _ => ⟨_, rfl⟩
  -- the states of the templates around, alike or not, are the ones from before
  rintro J c₂ d₂ _ ⟨hvalid, -, hc, hd⟩
  refine ⟨_, _, rfl, rfl, hvalid, ?_⟩
  show V.SameState c₂.render d₂.render
  rw [hc.1, hd.1]
  exact hcd.state

end

/-! ## Inclusions -/

section
variable {engine : Engine Empty} {resolve : Resolver Empty} {render : Renderer Empty}

theorem findTarget_simulates {F : Template Empty → Prop} (hF : ∀ name t, engine.template? name = some t → F t)
    (hresolve : ∀ v, Simulates A V I (Matches V.functions) (resolve v) (resolve v)) (target : Target) :
    Simulates A V I (fun _ t u => t = u ∧ F t) (findTarget engine resolve target)
      (findTarget engine resolve target) := by
  have hname (J : Pairing) (name : String) : Simulates A V J (fun _ t u => t = u ∧ F t)
      (ofResult (engine.template name)) (ofResult (engine.template name)) := by
    refine .ofResult fun _ t ht => ⟨rfl, ?_⟩
    have := settled_template hF name
    rwa [ht] at this
  have hnames (J : Pairing) (names : List String) : Simulates A V J (fun _ t u => t = u ∧ F t)
      (ofResult (engine.anyTemplate names)) (ofResult (engine.anyTemplate names)) := by
    refine .ofResult fun _ t ht => ⟨rfl, ?_⟩
    have := settled_anyTemplate hF names
    rwa [ht] at this
  cases target with
  | name name => exact hname I name
  | names names => exact hnames I names
  | var v =>
    refine (hresolve v).bind fun J v w _ h => ?_
    cases h with
    | string name => exact hname J name
    | list hvs =>
      dsimp only
      rw [templateNames_congr hvs]
      refine Simulates.bind (P := fun _ names names' => names = names') (.ofFault fun _ _ _ _ _ => ?_) ?_
      · exact Except.Rel.refl (fun _ => rfl) _
      · rintro K names _ _ rfl
        exact hnames K names
    | _ => exact .fail _

theorem renderExtras_simulates (hrender : Mirrors A V render) :
    ∀ {extra : List (String × Node Empty)} {I : Pairing} {f g : Dict (Val Empty)},
    (∀ e ∈ extra, e.2.Throughout V.Allows) → EntriesMatch V.functions I f g →
      Simulates A V I (EntriesMatch V.functions) (renderExtras render f extra) (renderExtras render g extra)
  | [], _, _, _, _, hf => .pure fun _ _ _ hJ _ => hf.mono id hJ
  | (name, n) :: extra, I, f, g, h, hf => by
    have hn := hrender I n (h _ (List.mem_cons_self ..))
    have hextra : Simulates A V I (Matches V.functions) (renderExtra render n) (renderExtra render n) := by
      cases n with
      | text t => exact hn.bind fun J v w _ h => .ofFault fun _ _ _ hK _ => (h.mono id hK).joinText
      | _ => exact hn
    refine hextra.bind fun J v w hJ hv => ?_
    exact renderExtras_simulates hrender (fun e he => h e (List.mem_cons_of_mem _ he))
      ((hf.mono id hJ).insert name hv)

theorem renderInclusion_simulates (hV : V.Suits A engine) (hrender : Mirrors A V render)
    (hinside : Mirrors A V.inside render) (hrestores : ∀ n, Restores n.bound (render n))
    (hresolve : ∀ v, Simulates A V I (Matches V.functions) (resolve v) (resolve v)) {target : Target}
    {extra : List (String × Node Empty)} {only : Bool} (hextra : ∀ e ∈ extra, e.2.Throughout V.Allows) :
    Simulates A V I (Matches V.functions) (renderInclusion engine resolve render target extra only)
      (renderInclusion engine resolve render target extra only) := by
  refine (findTarget_simulates hV.registered hresolve target).bind ?_
  rintro J t _ _ ⟨rfl, ht⟩
  refine (renderExtras_simulates hrender hextra .nil).bind fun K f g _ hf => .get_bind fun L c d hL hcd => ?_
  have hf := hf.mono id hL
  by_cases hc : engine.maxIncludeDepth ≤ c.depth
  · rw [if_pos hc]
    by_cases hd : engine.maxIncludeDepth ≤ d.depth
    · rw [if_pos hd]
      exact .error _ (le_refl L) hcd
    · -- too deep on the left alone
      refine .abandoned (hV.deep.resolve_left (fun hlevel => hd ?_) _) c _
      rwa [← hcd.scope.level hlevel]
  · have hd : ¬ engine.maxIncludeDepth ≤ d.depth := fun hd => hc (hd.trans hcd.scope.depth)
    rw [if_neg hc, if_neg hd]
    cases only with
    | true => exact renderIsolated_follows hV hinside ht hrestores hcd hf
    | false => exact renderInside_follows hV hinside ht hrestores hcd hf

end

/-! ## All renders -/

theorem renderStep_mirrors {engine : Engine Empty} {render : Renderer Empty} (hV : V.Suits A engine)
    (hrender : Mirrors A V render) (hinside : Mirrors A V.inside render)
    (hrestores : ∀ n, Restores n.bound (render n)) : Mirrors A V (renderStep engine render) := by
  intro I n hn
  have hcalls : CallsMirror A V render :=
    fun hfunctions I b => renderSuper_simulates hrender hfunctions hrestores b
  have hresolve (I : Pairing) (v : Variable) := resolve_simulates (I := I) hcalls v
  have hall {ns : List (Node Empty)} (hns : ns ⊆ n.children) (I : Pairing) :
      Simulates A V I (AllMatch V.functions) (renderAll render ns) (renderAll render ns) :=
    hrender.all fun m hm => hn.child (hns hm)
  have hlist (J : Pairing) (vs ws : List (Val Empty)) (h : AllMatch V.functions J vs ws) :
      Matches V.functions J (.list vs) (.list ws) := .list h
  cases n with
  | literal v => exact .pure fun J _ _ _ hcd =>
    (hn.here.matches hcd.pairing.known).mono False.elim (le_refl J)
  | text t => exact renderText_simulates hresolve t
  | var v => exact hresolve I v
  | element tag attributes contents =>
    refine renderElement_simulates hresolve hrender (joined_allMatch _)
      (fun e he => hn.child (List.mem_append_left _ (List.mem_map_of_mem he)))
      (hall (List.subset_append_right _ _)) fun J i j es fs vs ws hij hes hvs => ?_
    exact .ofFault fun K _ _ hK _ => hV.uniform.element tag (hK _ _ hij) (hes.mono id hK)
      (Value.AllMatch.flatten (Value.AllMatch.mono id hK hvs))
  | loop vars list contents fallback =>
    exact renderLoop_simulates (joined_allMatch _)
      (hall (List.subset_append_left _ _)) hn.here hlist hrestores
      (hresolve I list) (hall (List.subset_append_right _ _))
  | cond test contents fallback =>
    exact renderCond_simulates hlist (runTest_simulates hresolve hV.caught test)
      (hall (List.subset_append_left _ _)) (hall (List.subset_append_right _ _))
  | block b =>
    intro J c d _ hcd
    exact renderBlock_follows hrender hn.here hrestores hcd fun _ m hm => hn.child hm
  | inclusion target extra only =>
    exact renderInclusion_simulates hV hrender hinside hrestores (hresolve I)
      fun e he => hn.child (List.mem_map_of_mem he)
  | cycle k values name silent =>
    exact renderCycle_simulates hn.here.1 hn.here.2 fun J m hm => hrender J m (hn.child hm)
  | doctype version => exact renderDoctype_simulates hV.uniform version
  | empty contents => exact .pure fun _ _ _ _ _ => .list .nil
  | otherwise contents => exact .pure fun _ _ _ _ _ => .list .nil
  | host p => cases p

theorem renderNode_mirrors (engine : Engine Empty) : ∀ (depth : Nat) {V : View}, V.Suits A engine →
    Mirrors A V (renderNode engine depth)
  | 0, _, _ => fun _ _ _ _ _ _ _ _ => .unfinished _
  | depth + 1, _, hV =>
    renderStep_mirrors hV (renderNode_mirrors engine depth hV) (renderNode_mirrors engine depth hV.inside)
      (restores_renderNode engine depth)

end TemplateTree
