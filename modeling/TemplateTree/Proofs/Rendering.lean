import TemplateTree.Proofs.Lockstep

/-!
# Rendering in lockstep

For each kind of node: it renders in lockstep if what is inside of it does. The values rendered are
those that admit certain functions and certain markup; no value is made on the way that admits others.
What relates the contexts stays open. It only has to survive new identities, and the moves of the cycles
that render.
-/

namespace TemplateTree

open RenderM

variable {η α : Type} {T : Prop} {R : Context η → Context η → Prop}
  {F : Callable η → Prop} {M : Markup → Prop}

/-- A relation on contexts that new identities do not disturb. -/
structure Steady (R : Context η → Context η → Prop) : Prop where
  made : ∀ c d, R c d → c.made = d.made
  fresh : ∀ c d, R c d → R { c with made := c.made + 1 } { d with made := d.made + 1 }

/-- A relation on contexts that moves of a cycle do not disturb. -/
structure Moves (R : Context η → Context η → Prop) (id : Nat) : Prop where
  position : ∀ c d, R c d → c.position id = d.position id
  setPosition : ∀ c d i, R c d → R (c.setPosition id i) (d.setPosition id i)

theorem steady_invariantly {I : Context η → Prop} (hfresh : ∀ c, I c → I { c with made := c.made + 1 }) :
    Steady (Invariantly I) where
  made := by
    intro c _ hcd
    obtain ⟨rfl, -⟩ := hcd
    rfl
  fresh := by
    intro c _ hcd
    obtain ⟨rfl, hc⟩ := hcd
    exact ⟨rfl, hfresh c hc⟩

theorem moves_invariantly {I : Context η → Prop} {id : Nat} (hset : ∀ c i, I c → I (c.setPosition id i)) :
    Moves (Invariantly I) id where
  position := by
    intro c _ hcd
    obtain ⟨rfl, -⟩ := hcd
    rfl
  setPosition := by
    intro c _ i hcd
    obtain ⟨rfl, hc⟩ := hcd
    exact ⟨rfl, hset c i hc⟩

/-- Binding a variable to such values keeps contexts related. -/
def Binds (R : Context η → Context η → Prop) (P : Val η → Prop) (name : String) : Prop :=
  ∀ c d v, R c d → P v → R (c.set name v) (d.set name v)

/-- `S` holds of related contexts with one more frame and leads back when a frame is taken off. -/
structure Framed (R S : Context η → Context η → Prop) (frame : Dict (Val η)) (c d : Context η) : Prop where
  push : S (c.push frame) (d.push frame)
  pop : ∀ c' d', S c' d' → ∃ f g c'' d'', c'.pop? = some (f, c'') ∧ d'.pop? = some (g, d'') ∧ R c'' d''

theorem newIdentity_lockstep (hR : Steady R) : Lockstep T R (fun _ => True) newIdentity newIdentity := by
  intro c d hcd
  simp only [newIdentity, hR.made c d hcd]
  exact .result trivial (by simpa only [hR.made c d hcd] using hR.fresh c d hcd)

theorem bindVar_lockstep {P : Val η → Prop} {name : String} (h : Binds R P name) {v : Val η} (hv : P v) :
    Lockstep T R (fun _ => True) (bindVar name v) (bindVar name v) :=
  .update fun c d hcd => h c d v hcd hv

theorem popFrame_discard {c c' : Context η} {f : Dict (Val η)} (h : c.pop? = some (f, c')) :
    (discard popFrame : RenderM η Unit) c = some (.ok (), c') := by
  have : popFrame c = some (.ok f, c') := by simp only [popFrame, h]
  show (popFrame c).bind _ = _
  rw [this]
  rfl

theorem inFrame_lockstep {P : α → Prop} {frame : Dict (Val η)} {x y : RenderM η α}
    (h : ∀ c d, R c d → ∃ S, Framed R S frame c d ∧ Lockstep T S P x y) :
    Lockstep T R P (inFrame frame x) (inFrame frame y) := by
  intro c d hcd
  obtain ⟨S, hS, hx⟩ := h c d hcd
  refine .bracket rfl rfl (hx _ _ hS.push) fun c₂ d₂ h₂ => ?_
  obtain ⟨f, g, c₃, d₃, hc, hd, hR⟩ := hS.pop c₂ d₂ h₂
  exact ⟨c₃, d₃, popFrame_discard hc, popFrame_discard hd, hR⟩

theorem renderAll_lockstep {P : Val η → Prop} {render render' : Renderer η} : ∀ {ns : List (Node η)},
    (∀ n ∈ ns, Lockstep T R P (render n) (render' n)) →
      Lockstep T R (fun vs => ∀ v ∈ vs, P v) (renderAll render ns) (renderAll render' ns)
  | [], _ => .pure nofun
  | n :: ns, h => by
    refine (h n (List.mem_cons_self ..)).bind fun v hv => ?_
    refine (renderAll_lockstep fun m hm => h m (List.mem_cons_of_mem _ hm)).bind fun vs hvs => ?_
    exact .pure (List.forall_mem_cons.mpr ⟨hv, hvs⟩)

theorem admits_nil : (.list [] : Val η).Admits F M :=
  Value.admits_list.mpr nofun

theorem renderList_lockstep {render render' : Renderer η} {ns : List (Node η)}
    (h : ∀ n ∈ ns, Lockstep T R (Value.Admits F M) (render n) (render' n)) :
    Lockstep T R (Value.Admits F M) (do return .list (← renderAll render ns))
      (do return .list (← renderAll render' ns)) :=
  (renderAll_lockstep h).map Value.list fun _ => Value.admits_list.mpr

/-! ## Variables and text -/

/-- What a path leads to from a value, without a call. -/
def Value.along? {φ : Type} : Value φ → List String → Option (Value φ)
  | v, [] => some v
  | v, name :: names => (v.property? name).bind (·.along? names)

/-- What stands for a value met on a path, with the way to call functions left open. -/
def reachBy (call : Callable η → Val η → RenderM η (Val η)) (calls : Bool)
    (receiver v : Val η) : RenderM η (Val η) :=
  match v, calls with
  | .function _ f, true => call f receiver
  | v, _ => pure v

def followBy (call : Callable η → Val η → RenderM η (Val η)) (calls : Bool)
    (current : Val η) (name : String) : RenderM η (Val η) :=
  match current.property? name with
  | none => fail (.missingProperty name current.kind)
  | some v => reachBy call calls current v

def followAllBy (call : Callable η → Val η → RenderM η (Val η)) (calls : Bool) :
    Val η → List String → RenderM η (Val η)
  | current, [] => pure current
  | current, name :: names => do followAllBy call calls (← followBy call calls current name) names

def resolveBy (call : Callable η → Val η → RenderM η (Val η)) (v : Variable) : RenderM η (Val η) :=
  get >>= fun ctx => match ctx.get? v.segments.1 with
    | none => fail (.unboundName v.segments.1)
    | some w => reachBy call v.calls .none w >>= fun w => followAllBy call v.calls w v.segments.2

section
variable [HostCode η]

theorem resolve_eq (render : Renderer η) (v : Variable) :
    resolve render v = get >>= fun ctx => match ctx.get? v.segments.1 with
      | none => fail (.unboundName v.segments.1)
      | some w => reach render v.calls .none w >>= fun w => followAll render v.calls w v.segments.2 :=
  rfl

theorem reachBy_call (render : Renderer η) (calls : Bool) (receiver v : Val η) :
    reachBy (call render) calls receiver v = reach render calls receiver v := by
  cases v <;> cases calls <;> rfl

theorem followAllBy_call (render : Renderer η) (calls : Bool) : ∀ (names : List String) (current : Val η),
    followAllBy (call render) calls current names = followAll render calls current names
  | [], _ => rfl
  | name :: names, current => by
    have hfollow : followBy (call render) calls current name = follow render calls current name := by
      unfold followBy follow
      cases current.property? name with
      | none => rfl
      | some v => exact reachBy_call render calls current v
    rw [followAllBy, followAll, hfollow]
    exact bind_congr fun w => followAllBy_call render calls names w

theorem resolveBy_call (render : Renderer η) (v : Variable) :
    resolveBy (call render) v = resolve render v := by
  rw [resolve_eq, resolveBy]
  refine bind_congr fun ctx => ?_
  cases ctx.get? v.segments.1 with
  | none => rfl
  | some w =>
    simp only [reachBy_call]
    exact bind_congr fun u => followAllBy_call render v.calls v.segments.2 u

end

section
variable {call call' : Callable η → Val η → RenderM η (Val η)}

theorem reachBy_lockstep {calls : Bool} {receiver v : Val η} (hv : v.Admits F M)
    (hcall : calls = true → ∀ f receiver, F f →
      Lockstep T R (Value.Admits F M) (call f receiver) (call' f receiver)) :
    Lockstep T R (Value.Admits F M) (reachBy call calls receiver v) (reachBy call' calls receiver v) := by
  cases v with
  | function id f =>
    cases calls with
    | false => exact .pure hv
    | true => exact hcall rfl f receiver (Value.admits_function.mp hv)
  | _ => exact .pure hv

theorem followBy_lockstep {calls : Bool} {current : Val η} (hv : current.Admits F M) (name : String)
    (hcall : calls = true → ∀ f receiver, F f →
      Lockstep T R (Value.Admits F M) (call f receiver) (call' f receiver)) :
    Lockstep T R (Value.Admits F M) (followBy call calls current name)
      (followBy call' calls current name) := by
  unfold followBy
  cases h : current.property? name with
  | none => exact .fail nofun
  | some w => exact reachBy_lockstep (Value.admits_of_property? hv h) hcall

theorem followAllBy_lockstep {calls : Bool}
    (hcall : calls = true → ∀ f receiver, F f →
      Lockstep T R (Value.Admits F M) (call f receiver) (call' f receiver)) :
    ∀ {current : Val η} (names : List String), current.Admits F M →
      Lockstep T R (Value.Admits F M) (followAllBy call calls current names)
        (followAllBy call' calls current names)
  | _, [], hv => .pure hv
  | _, name :: names, hv => (followBy_lockstep hv name hcall).bind fun _ hw =>
    followAllBy_lockstep hcall names hw

theorem resolveBy_lockstep (v : Variable)
    (hget : ∀ c d, R c d → c.get? v.segments.1 = d.get? v.segments.1)
    (hval : ∀ c d w, R c d → c.get? v.segments.1 = some w → w.Admits F M)
    (hcall : v.calls = true → ∀ f receiver, F f →
      Lockstep T R (Value.Admits F M) (call f receiver) (call' f receiver)) :
    Lockstep T R (Value.Admits F M) (resolveBy call v) (resolveBy call' v) := by
  refine .get_bind fun c d hcd => ?_
  rw [← hget c d hcd]
  cases h : c.get? v.segments.1 with
  | none => exact .error nofun hcd
  | some w =>
    have hw := hval c d w hcd h
    exact (reachBy_lockstep hw hcall).bind (fun u hu => followAllBy_lockstep hcall v.segments.2 hu) c d hcd

theorem resolve_lockstep [HostCode η] {render render' : Renderer η} (v : Variable)
    (hget : ∀ c d, R c d → c.get? v.segments.1 = d.get? v.segments.1)
    (hval : ∀ c d w, R c d → c.get? v.segments.1 = some w → w.Admits F M)
    (hcall : v.calls = true → ∀ f receiver, F f → Lockstep T R (Value.Admits F M)
      (TemplateTree.call render f receiver) (TemplateTree.call render' f receiver)) :
    Lockstep T R (Value.Admits F M) (resolve render v) (resolve render' v) := by
  rw [← resolveBy_call, ← resolveBy_call]
  exact resolveBy_lockstep v hget hval hcall

end

section
variable {resolve resolve' : Resolver η}

theorem renderSegments_lockstep : ∀ {segments : List Segment},
    (∀ v ∈ segments.flatMap Segment.variables, Lockstep T R (Value.Admits F M) (resolve v) (resolve' v)) →
      Lockstep T R (fun vs => ∀ v ∈ vs, v.Admits F M) (renderSegments resolve segments)
        (renderSegments resolve' segments)
  | [], _ => .pure nofun
  | s :: segments, h => by
    have hs : Lockstep T R (Value.Admits F M) (renderSegment resolve s) (renderSegment resolve' s) := by
      cases s with
      | text t => exact .pure (Value.admits_string t)
      | var v => exact h v (List.mem_append_left _ (List.mem_singleton.mpr rfl))
    refine hs.bind fun v hv => ?_
    refine (renderSegments_lockstep fun v hv => h v (List.mem_append_right _ hv)).bind fun vs hvs => ?_
    exact .pure (List.forall_mem_cons.mpr ⟨hv, hvs⟩)

theorem renderText_lockstep {t : TemplateText}
    (h : ∀ v ∈ t.variables, Lockstep T R (Value.Admits F M) (resolve v) (resolve' v)) :
    Lockstep T R (Value.Admits F M) (renderText resolve t) (renderText resolve' t) := by
  cases t with
  | literal s => exact .pure (Value.admits_string s)
  | mixed segments => exact (renderSegments_lockstep h).map Value.list fun _ => Value.admits_list.mpr

/-! ## Tests -/

theorem resolveOrNone_lockstep {v : Variable} (h : Lockstep T R (Value.Admits F M) (resolve v) (resolve' v)) :
    Lockstep T R (Value.Admits F M) (resolveOrNone resolve v) (resolveOrNone resolve' v) := by
  refine h.attempt.bind fun r hr => ?_
  cases r with
  | ok w => exact .pure hr
  | error e =>
    by_cases he : e.kind = .variableNotFound
    · simp only [he, if_true]
      exact .pure Value.admits_none
    · simp only [he, if_false]
      exact .ofResult hr

theorem evaluate_lockstep : ∀ {e : Expr},
    (∀ v ∈ e.variables, Lockstep T R (Value.Admits F M) (resolve v) (resolve' v)) →
      Lockstep T R (Value.Admits F M) (evaluate resolve e) (evaluate resolve' e)
  | .literal l, _ => .pure (by cases l <;> simp [Literal.value])
  | .var v, h => resolveOrNone_lockstep (h v (List.mem_singleton.mpr rfl))
  | .unary op e, h => (evaluate_lockstep (e := e) h).map _ fun v _ => Value.admits_bool _
  | .binary op a b, h => by
    have ha : Lockstep T R (Value.Admits F M) (evaluate resolve a) (evaluate resolve' a) :=
      evaluate_lockstep fun v hv => h v (List.mem_append_left _ hv)
    have hb : Lockstep T R (Value.Admits F M) (evaluate resolve b) (evaluate resolve' b) :=
      evaluate_lockstep fun v hv => h v (List.mem_append_right _ hv)
    cases op with
    | and =>
      refine ha.bind fun v hv => ?_
      by_cases ht : v.truthy = true
      · rw [if_pos ht, if_pos ht]
        exact hb
      · rw [if_neg ht, if_neg ht]
        exact .pure hv
    | or =>
      refine ha.bind fun v hv => ?_
      by_cases ht : v.truthy = true
      · rw [if_pos ht, if_pos ht]
        exact .pure hv
      · rw [if_neg ht, if_neg ht]
        exact hb
    | _ => exact ha.bind fun v _ => hb.map _ fun w _ => Value.admits_bool _

end

theorem renderCond_lockstep {resolve resolve' : Resolver Empty} {render render' : Renderer Empty}
    {R : Context Empty → Context Empty → Prop} {F : Callable Empty → Prop} {e : Expr}
    {contents fallback : List (Node Empty)}
    (hvar : ∀ v ∈ e.variables, Lockstep T R (Value.Admits F M) (resolve v) (resolve' v))
    (hrender : ∀ n ∈ contents ++ fallback, Lockstep T R (Value.Admits F M) (render n) (render' n)) :
    Lockstep T R (Value.Admits F M) (renderCond resolve render (.expr e) contents fallback)
      (renderCond resolve' render' (.expr e) contents fallback) := by
  have htest : Lockstep T R (fun _ => True) (runTest resolve render (.expr e))
      (runTest resolve' render' (.expr e)) :=
    (evaluate_lockstep hvar).map Value.truthy fun _ _ => trivial
  refine htest.bind fun b _ => ?_
  cases b with
  | true => exact renderList_lockstep fun n hn => hrender n (List.mem_append_left _ hn)
  | false => exact renderList_lockstep fun n hn => hrender n (List.mem_append_right _ hn)

/-! ## Elements -/

theorem joinText_admits {v w : Val η} (hv : v.Admits F M) (h : joinText v = .ok w) : w.Admits F M := by
  cases v with
  | list items =>
    obtain ⟨s, -, hw⟩ := Except.ok_of_bind h
    rw [← Except.ok.inj hw]
    exact Value.admits_string s
  | _ =>
    rw [← Except.ok.inj h]
    exact hv

section
variable {resolve resolve' : Resolver η} {render render' : Renderer η} {A : String → Val η → Prop}

theorem renderAttribute_lockstep {n : Node η}
    (hvar : ∀ v, n = .var v → Lockstep T R (Value.Admits F M) (resolve v) (resolve' v))
    (hliteral : ∀ v, n = .literal v → v.Admits F M)
    (hrender : Lockstep T R (Value.Admits F M) (render n) (render' n)) :
    Lockstep T R (Value.Admits F M) (renderAttribute resolve render n)
      (renderAttribute resolve' render' n) := by
  cases n with
  | literal v => exact .pure (hliteral v rfl)
  | var v => exact hvar v rfl
  | _ => exact hrender.bind fun v hv => .ofFault fun w hw => joinText_admits hv hw

theorem renderAttributes_lockstep : ∀ {attributes : List (String × Node η)} {d : Dict (Val η)},
    (∀ e ∈ attributes,
      Lockstep T R (A e.1) (renderAttribute resolve render e.2) (renderAttribute resolve' render' e.2)) →
      (∀ e ∈ d, A e.1 e.2) →
      Lockstep T R (fun d => ∀ e ∈ d, A e.1 e.2) (renderAttributes resolve render d attributes)
        (renderAttributes resolve' render' d attributes)
  | [], _, _, hd => .pure hd
  | (name, n) :: attributes, d, h, hd => by
    refine (h (name, n) (List.mem_cons_self ..)).bind fun v hv => ?_
    refine renderAttributes_lockstep (fun e he => h e (List.mem_cons_of_mem _ he)) fun e he => ?_
    rcases Dict.mem_insert he with rfl | he
    · exact hv
    · exact hd e he

theorem renderElement_lockstep (hR : Steady R) {engine engine' : Engine η}
    (hmode : engine.mode = engine'.mode) {tag : String} {attributes : List (String × Node η)}
    {contents : List (Node η)} (hattribute : ∀ e ∈ attributes,
      Lockstep T R (A e.1) (renderAttribute resolve render e.2) (renderAttribute resolve' render' e.2))
    (hrender : ∀ n ∈ contents, Lockstep T R (Value.Admits F M) (render n) (render' n))
    (hmake : ∀ id (as : Dict (Val η)) vs v, (∀ e ∈ as, A e.1 e.2) → (∀ v ∈ vs, v.Admits F M) →
      engine.mode.element id tag as vs = .ok v → v.Admits F M) :
    Lockstep T R (Value.Admits F M) (renderElement engine resolve render tag attributes contents)
      (renderElement engine' resolve' render' tag attributes contents) := by
  refine (renderAttributes_lockstep hattribute (by simp)).bind fun as has => ?_
  refine (renderAll_lockstep hrender).bind fun vs hvs => ?_
  refine (newIdentity_lockstep hR).bind fun id _ => ?_
  rw [hmode]
  refine .ofFault fun v hv => hmake id as _ v has (fun w hw => Value.admits_of_mem_flatten hvs hw) ?_
  rw [hmode]
  exact hv

/-! ## Cycles, loops and declarations -/

theorem renderCycle_lockstep {P : Val η → Prop} {id : Nat} (hR : Moves R id) {values : List (Node η)}
    {name : Option String} {silent : Bool} (hrender : ∀ n ∈ values, Lockstep T R P (render n) (render' n))
    (hempty : P (.list [])) (hbind : ∀ x, name = some x → Binds R P x) :
    Lockstep T R P (renderCycle render id values name silent)
      (renderCycle render' id values name silent) := by
  refine .get_bind fun c d hcd => ?_
  rw [hR.position c d hcd]
  generalize d.position id % values.length = i
  cases hi : values[i]? with
  | none => exact .result hempty hcd
  | some n =>
    refine Lockstep.bind (hrender n (List.mem_of_getElem? hi)) (fun v hv => ?_) c d hcd
    refine (Lockstep.update fun c d hcd => hR.setPosition c d _ hcd).bind fun _ _ => ?_
    have hlast : Lockstep T R P (pure (if silent then .list [] else v))
        (pure (if silent then .list [] else v)) := by
      refine .pure ?_
      cases silent with
      | true => exact hempty
      | false => exact hv
    cases name with
    | none => exact hlast
    | some x => exact (bindVar_lockstep (hbind x rfl) hv).bind fun _ _ => hlast

theorem loopItems_admits {v : Val η} {items : List (Val η)} (hv : v.Admits F M)
    (h : loopItems v = .ok items) : ∀ item ∈ items, item.Admits F M := by
  intro item hitem
  cases v with
  | list vs =>
    rw [← Except.ok.inj h] at hitem
    exact Value.admits_list.mp hv item hitem
  | map entries =>
    rw [← Except.ok.inj h] at hitem
    obtain ⟨e, he, rfl⟩ := List.mem_map.mp hitem
    refine Value.admits_list.mpr (List.forall_mem_cons.mpr ⟨Value.admits_string _, ?_⟩)
    exact List.forall_mem_singleton.mpr (Value.admits_map.mp hv e he)
  | string s =>
    rw [← Except.ok.inj h] at hitem
    exact Value.admits_of_mem_ofChars hitem
  | _ => cases h

theorem loopState_admits {parent : Val η} (h : parent.Admits F M) (i n : Nat) :
    (loopState parent i n).Admits F M := by
  simp [loopState, h]

theorem Context.mapTop_mapTop (c : Context η) (f g : Dict (Val η) → Dict (Val η)) :
    (c.mapTop f).mapTop g = c.mapTop (g ∘ f) := by
  obtain ⟨globals, stack, render, saved, depth, made⟩ := c
  cases stack <;> rfl

theorem Context.mapTop_id (c : Context η) : c.mapTop id = c := by
  obtain ⟨globals, stack, render, saved, depth, made⟩ := c
  cases stack <;> rfl

theorem setAll_related {P : Val η → Prop} : ∀ {names : List String} {values : List (Val η)} {c d : Context η},
    (∀ x ∈ names, Binds R P x) → (∀ v ∈ values, P v) → R c d →
    R (c.setAll names values) (d.setAll names values)
  | [], _, c, d, _, _, hcd => by
    show R (c.mapTop id) (d.mapTop id)
    rwa [Context.mapTop_id, Context.mapTop_id]
  | _ :: _, [], c, d, _, _, hcd => by
    show R (c.mapTop id) (d.mapTop id)
    rwa [Context.mapTop_id, Context.mapTop_id]
  | x :: names, v :: values, c, d, hbind, hvalues, hcd => by
    have h := hbind x (List.mem_cons_self ..) c d v hcd (hvalues v (List.mem_cons_self ..))
    have := setAll_related (fun y hy => hbind y (List.mem_cons_of_mem _ hy))
      (fun w hw => hvalues w (List.mem_cons_of_mem _ hw)) h
    unfold Context.setAll Context.set at this
    rwa [Context.mapTop_mapTop, Context.mapTop_mapTop] at this

theorem bindItem_lockstep {vars : List String} {item : Val η}
    (hbind : ∀ x ∈ vars, Binds R (Value.Admits F M) x) (hitem : item.Admits F M) :
    Lockstep T R (fun _ => True) (bindItem vars item) (bindItem vars item) := by
  unfold bindItem
  split
  · exact bindVar_lockstep (hbind _ (List.mem_singleton.mpr rfl)) hitem
  · exact .update fun c d hcd => setAll_related hbind (Value.admits_list.mp hitem) hcd
  · exact .update fun c d hcd => setAll_related hbind (fun v hv => Value.admits_of_mem_ofChars hv) hcd
  · exact .fail nofun

theorem renderRounds_lockstep {vars : List String} {contents : List (Node η)} {parent : Val η} {n : Nat}
    (hbind : ∀ x ∈ "forloop" :: vars, Binds R (Value.Admits F M) x) (hparent : parent.Admits F M)
    (hrender : ∀ n ∈ contents, Lockstep T R (Value.Admits F M) (render n) (render' n)) :
    ∀ {items : List (Val η)} {i : Nat}, (∀ item ∈ items, item.Admits F M) →
      Lockstep T R (fun vs => ∀ v ∈ vs, v.Admits F M) (renderRounds render vars contents parent n i items)
        (renderRounds render' vars contents parent n i items)
  | [], _, _ => .pure nofun
  | item :: items, i, hitems => by
    refine (bindItem_lockstep (fun x hx => hbind x (List.mem_cons_of_mem _ hx))
      (hitems item (List.mem_cons_self ..))).bind fun _ _ => ?_
    refine (bindVar_lockstep (hbind _ (List.mem_cons_self ..)) (loopState_admits hparent i n)).bind
      fun _ _ => ?_
    refine (renderAll_lockstep hrender).bind fun here hhere => ?_
    refine (renderRounds_lockstep hbind hparent hrender fun item h =>
      hitems item (List.mem_cons_of_mem _ h)).bind
      fun rest hrest => ?_
    exact .pure fun v hv => (List.mem_append.mp hv).elim (hhere v) (hrest v)

theorem renderLoop_lockstep {vars : List String} {list : Variable} {contents fallback : List (Node η)}
    (hlist : Lockstep T R (Value.Admits F M) (resolve list) (resolve' list))
    (hfallback : ∀ n ∈ fallback, Lockstep T R (Value.Admits F M) (render n) (render' n))
    (hparent : ∀ c d, R c d → c.get? "forloop" = d.get? "forloop" ∧
      ∀ v, c.get? "forloop" = some v → v.Admits F M)
    (hframe : ∀ c d, R c d → ∃ S, Framed R S [] c d ∧
      (∀ x ∈ "forloop" :: vars, Binds S (Value.Admits F M) x) ∧
      ∀ n ∈ contents, Lockstep T S (Value.Admits F M) (render n) (render' n)) :
    Lockstep T R (Value.Admits F M) (renderLoop resolve render vars list contents fallback)
      (renderLoop resolve' render' vars list contents fallback) := by
  refine hlist.bind fun v hv => ?_
  refine Lockstep.bind (P := fun items => ∀ item ∈ items, item.Admits F M)
    (.ofFault fun items h => loopItems_admits hv h) fun items hitems => ?_
  cases items with
  | nil => exact renderList_lockstep hfallback
  | cons item items =>
    refine .get_bind fun c d hcd => ?_
    obtain ⟨hget, hadmits⟩ := hparent c d hcd
    rw [← hget]
    have hparent : ((c.get? "forloop").getD (.map [])).Admits F M := by
      cases h : c.get? "forloop" with
      | none => exact Value.admits_map.mpr nofun
      | some w => exact hadmits w h
    refine Lockstep.map Value.list ?_ (fun _ => Value.admits_list.mpr) c d hcd
    refine inFrame_lockstep fun c d hcd => ?_
    obtain ⟨S, hS, hbind, hcontents⟩ := hframe c d hcd
    exact ⟨S, hS, renderRounds_lockstep hbind hparent hcontents hitems⟩

theorem renderDoctype_lockstep (hR : Steady R) {engine engine' : Engine η}
    (hmode : engine.mode = engine'.mode) {version : UInt8}
    (hmake : ∀ id v, engine.mode.raw id (declaration version) = .ok v → v.Admits F M) :
    Lockstep T R (Value.Admits F M) (renderDoctype engine version) (renderDoctype engine' version) := by
  refine (newIdentity_lockstep hR).bind fun id _ => ?_
  rw [← hmode]
  exact .ofFault (hmake id)

/-! ## Templates and inclusions -/

theorem inTemplate_apply (name : String) (x : RenderM η α) (c : Context η) :
    inTemplate name x c = (x c).map fun r => (r.1.mapError (·.inTemplate name), r.2) := by
  unfold inTemplate
  rw [RenderM.bind_apply, attempt]
  cases x c with
  | none => rfl
  | some o => obtain ⟨_ | _, _⟩ := o <;> rfl

theorem inTemplate_lockstep {P : α → Prop} {name : String} {x y : RenderM η α} (h : Lockstep T R P x y) :
    Lockstep T R P (inTemplate name x) (inTemplate name y) := by
  refine h.attempt.bind fun r hr => ?_
  cases r with
  | ok a => exact .pure hr
  | error e => exact .ofResult hr

theorem renderFragment_lockstep {P : Val η → Prop} (hR : Steady R) {engine engine' : Engine η}
    (hmode : engine.mode = engine'.mode) {contents : List (Node η)}
    (hrender : ∀ n ∈ contents, Lockstep T R (Value.Admits F M) (render n) (render' n))
    (hmake : ∀ id vs v, (∀ v ∈ vs, v.Admits F M) → engine.mode.fragment id vs = .ok v → P v) :
    Lockstep T R P (renderFragment engine render contents) (renderFragment engine' render' contents) := by
  refine (renderAll_lockstep hrender).bind fun vs hvs => ?_
  refine (newIdentity_lockstep hR).bind fun id _ => ?_
  rw [← hmode]
  exact .ofFault fun v => hmake id _ v fun w hw => Value.admits_of_mem_flatten hvs hw

theorem settled_template {Q : Template η → Prop} {engine : Engine η}
    (hQ : ∀ name t, engine.template? name = some t → Q t) (name : String) :
    Settled Q (engine.template name) := by
  unfold Engine.template
  cases h : engine.template? name with
  | none => exact nofun
  | some t => exact hQ name t h

theorem settled_anyTemplate {Q : Template η → Prop} {engine : Engine η}
    (hQ : ∀ name t, engine.template? name = some t → Q t) (names : List String) :
    Settled Q (engine.anyTemplate names) := by
  unfold Engine.anyTemplate
  cases h : names.findSome? engine.template? with
  | none => exact nofun
  | some t =>
    obtain ⟨name, -, hname⟩ := List.exists_of_findSome?_eq_some h
    exact hQ name t hname

theorem findTarget_lockstep {Q : Template η → Prop} {engine : Engine η} {target : Target}
    (hQ : ∀ name t, engine.template? name = some t → Q t)
    (hvar : ∀ v, target = .var v → Lockstep T R (Value.Admits F M) (resolve v) (resolve' v)) :
    Lockstep T R Q (findTarget engine resolve target) (findTarget engine resolve' target) := by
  cases target with
  | name name => exact .ofResult (settled_template hQ name)
  | names names => exact .ofResult (settled_anyTemplate hQ names)
  | var v =>
    refine (hvar v rfl).bind fun w _ => ?_
    cases w with
    | string name => exact .ofResult (settled_template hQ name)
    | list items =>
      refine Lockstep.bind (P := fun _ => True) (.ofFault fun _ _ => trivial) fun names _ => ?_
      exact .ofResult (settled_anyTemplate hQ names)
    | _ => exact .fail nofun

theorem renderExtras_lockstep : ∀ {extra : List (String × Node η)} {d : Dict (Val η)},
    (∀ e ∈ extra, Lockstep T R (Value.Admits F M) (render e.2) (render' e.2)) → (∀ e ∈ d, e.2.Admits F M) →
      Lockstep T R (fun d => ∀ e ∈ d, e.2.Admits F M) (renderExtras render d extra)
        (renderExtras render' d extra)
  | [], _, _, hd => .pure hd
  | (name, n) :: extra, d, h, hd => by
    have hn := h (name, n) (List.mem_cons_self ..)
    have hv : Lockstep T R (Value.Admits F M) (renderExtra render n) (renderExtra render' n) := by
      cases n with
      | text t => exact hn.bind fun v hv => .ofFault fun w hw => joinText_admits hv hw
      | _ => exact hn
    refine hv.bind fun v hv =>
      renderExtras_lockstep (fun e he => h e (List.mem_cons_of_mem _ he)) fun e he => ?_
    rcases Dict.mem_insert he with rfl | he
    · exact hv
    · exact hd e he

/-- A step in a context of its own. It leaves nothing behind but the identities that it has given out. -/
def isolated (globals : Dict (Val η)) (x : RenderM η α) : RenderM η α :=
  fun ctx => (x (ctx.isolated globals)).map fun r => (r.1, { ctx with made := r.2.made })

/-- An isolated template leaves nothing of its context behind but the identities that it has given out. -/
theorem renderIsolated_invariantly {I J : Context η → Prop} {P : Val η → Prop} {engine : Engine η}
    {render : Renderer η} {t : Template η} {globals : Dict (Val η)} {c : Context η}
    (h : Alike T (Invariantly I) P (renderTemplate engine render t (c.isolated globals))
      (renderTemplate engine render t (c.isolated globals)))
    (hJ : ∀ made, J { c with made := made }) :
    Alike T (Invariantly J) P (renderIsolated engine render t globals c)
      (renderIsolated engine render t globals c) := by
  show Alike T _ _ ((renderTemplate engine render t (c.isolated globals)).map _)
    ((renderTemplate engine render t (c.isolated globals)).map _)
  generalize renderTemplate engine render t (c.isolated globals) = o at h ⊢
  cases h with
  | exhausted hT => exact .exhausted hT
  | result hv _ => exact .result hv ⟨rfl, hJ _⟩
  | error he _ => exact .error he ⟨rfl, hJ _⟩

theorem leaveTemplate_of_saved {c : Context η} {frame : RenderFrame η} {saved : List (RenderFrame η)}
    (h : c.saved = frame :: saved) :
    leaveTemplate c = some (.ok (), { c with render := frame, saved := saved }) := by
  simp only [leaveTemplate, Context.leave?, h]

/-- An inclusion, with the way to render a template left open. -/
def renderInclusionBy (engine : Engine η) (resolve : Resolver η) (render : Renderer η)
    (template : Template η → RenderM η (Val η)) (target : Target)
    (extra : List (String × Node η)) (only : Bool) : RenderM η (Val η) := do
  let t ← findTarget engine resolve target
  let extra ← renderExtras render [] extra
  if engine.maxIncludeDepth ≤ (← get).depth then fail (.includeDepth engine.maxIncludeDepth)
  else if only then isolated extra (template t)
  else inFrame extra (deeper (template t))

/-- An inclusion whose template renders by other means than the nodes around it. -/
def renderInclusionVia (engine : Engine η) (resolve : Resolver η)
    (render included : Renderer η) (target : Target) (extra : List (String × Node η)) (only : Bool) :
    RenderM η (Val η) := do
  let t ← findTarget engine resolve target
  let extra ← renderExtras render [] extra
  if engine.maxIncludeDepth ≤ (← get).depth then fail (.includeDepth engine.maxIncludeDepth)
  else if only then renderIsolated engine included t extra
  else renderInside engine included t extra

theorem renderInclusionVia_self (engine : Engine η) (resolve : Resolver η)
    (render : Renderer η) (target : Target) (extra : List (String × Node η)) (only : Bool) :
    renderInclusionVia engine resolve render render target extra only =
      renderInclusion engine resolve render target extra only :=
  rfl

theorem renderInclusionBy_template (engine : Engine η) (resolve : Resolver η) (render included : Renderer η)
    (target : Target) (extra : List (String × Node η)) (only : Bool) :
    renderInclusionBy engine resolve render (renderTemplate engine included) target extra only =
      renderInclusionVia engine resolve render included target extra only :=
  rfl

theorem renderInclusionBy_lockstep
    {template template' : Template η → RenderM η (Val η)} {Q : Template η → Prop}
    {engine : Engine η} {target : Target} {extra : List (String × Node η)} {only : Bool}
    (hQ : ∀ name t, engine.template? name = some t → Q t)
    (hvar : ∀ v, target = .var v → Lockstep T R (Value.Admits F M) (resolve v) (resolve' v))
    (hextra : ∀ e ∈ extra, Lockstep T R (Value.Admits F M) (render e.2) (render' e.2))
    (hdepth : ∀ c d, R c d → c.depth = d.depth)
    (hisolated : ∀ t frame c d, Q t → (∀ e ∈ frame, e.2.Admits F M) → R c d →
      c.depth < engine.maxIncludeDepth →
      Alike T R (Value.Admits F M) (isolated frame (template t) c) (isolated frame (template' t) d))
    (hinside : ∀ t frame c d, Q t → (∀ e ∈ frame, e.2.Admits F M) → R c d → c.depth < engine.maxIncludeDepth →
      Alike T R (Value.Admits F M) (inFrame frame (deeper (template t)) c)
        (inFrame frame (deeper (template' t)) d)) :
    Lockstep T R (Value.Admits F M) (renderInclusionBy engine resolve render template target extra only)
      (renderInclusionBy engine resolve' render' template' target extra only) := by
  refine (findTarget_lockstep hQ hvar).bind fun t ht => ?_
  refine (renderExtras_lockstep hextra (by simp)).bind fun frame hframe => ?_
  refine .get_bind fun c d hcd => ?_
  rw [← hdepth c d hcd]
  by_cases h : engine.maxIncludeDepth ≤ c.depth
  · rw [if_pos h, if_pos h]
    exact .error nofun hcd
  · rw [if_neg h, if_neg h]
    cases only with
    | true => exact hisolated t frame c d ht hframe hcd (Nat.lt_of_not_le h)
    | false => exact hinside t frame c d ht hframe hcd (Nat.lt_of_not_le h)

theorem renderInclusionVia_lockstep {included included' : Renderer η}
    {Q : Template η → Prop} {engine : Engine η} {target : Target}
    {extra : List (String × Node η)} {only : Bool} (hQ : ∀ name t, engine.template? name = some t → Q t)
    (hvar : ∀ v, target = .var v → Lockstep T R (Value.Admits F M) (resolve v) (resolve' v))
    (hextra : ∀ e ∈ extra, Lockstep T R (Value.Admits F M) (render e.2) (render' e.2))
    (hdepth : ∀ c d, R c d → c.depth = d.depth)
    (hisolated : ∀ t frame c d, Q t → (∀ e ∈ frame, e.2.Admits F M) → R c d →
      c.depth < engine.maxIncludeDepth →
      Alike T R (Value.Admits F M) (renderIsolated engine included t frame c)
        (renderIsolated engine included' t frame d))
    (hinside : ∀ t frame c d, Q t → (∀ e ∈ frame, e.2.Admits F M) → R c d → c.depth < engine.maxIncludeDepth →
      Alike T R (Value.Admits F M) (renderInside engine included t frame c)
        (renderInside engine included' t frame d)) :
    Lockstep T R (Value.Admits F M) (renderInclusionVia engine resolve render included target extra only)
      (renderInclusionVia engine resolve' render' included' target extra only) := by
  rw [← renderInclusionBy_template, ← renderInclusionBy_template]
  exact renderInclusionBy_lockstep hQ hvar hextra hdepth hisolated hinside

theorem renderInclusion_lockstep {Q : Template η → Prop} {engine : Engine η} {target : Target}
    {extra : List (String × Node η)} {only : Bool} (hQ : ∀ name t, engine.template? name = some t → Q t)
    (hvar : ∀ v, target = .var v → Lockstep T R (Value.Admits F M) (resolve v) (resolve' v))
    (hextra : ∀ e ∈ extra, Lockstep T R (Value.Admits F M) (render e.2) (render' e.2))
    (hdepth : ∀ c d, R c d → c.depth = d.depth)
    (hisolated : ∀ t frame c d, Q t → (∀ e ∈ frame, e.2.Admits F M) → R c d →
      c.depth < engine.maxIncludeDepth →
      Alike T R (Value.Admits F M) (renderIsolated engine render t frame c)
        (renderIsolated engine render' t frame d))
    (hinside : ∀ t frame c d, Q t → (∀ e ∈ frame, e.2.Admits F M) → R c d → c.depth < engine.maxIncludeDepth →
      Alike T R (Value.Admits F M) (renderInside engine render t frame c)
        (renderInside engine render' t frame d)) :
    Lockstep T R (Value.Admits F M) (renderInclusion engine resolve render target extra only)
      (renderInclusion engine resolve' render' target extra only) := by
  rw [← renderInclusionVia_self, ← renderInclusionVia_self]
  exact renderInclusionVia_lockstep hQ hvar hextra hdepth hisolated hinside

end

section
variable [HostCode η]

/-- Renders a node by means of what renders the nodes inside of it and what renders the nodes of
included templates. -/
def renderStepVia (engine : Engine η) (render included : Renderer η) : Node η → RenderM η (Val η)
  | .inclusion target extra only =>
    renderInclusionVia engine (resolve render) render included target extra only
  | n => renderStep engine render n

theorem renderStepVia_self (engine : Engine η) (render : Renderer η) (n : Node η) :
    renderStepVia engine render render n = renderStep engine render n := by
  cases n <;> rfl

end

end TemplateTree
