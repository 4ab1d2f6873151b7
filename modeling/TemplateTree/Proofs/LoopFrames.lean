import TemplateTree.Host.Procedure
import TemplateTree.Proofs.Extension
import TemplateTree.Proofs.Termination

/-!
# The frame of a loop

All rounds of a loop share one frame. Nodes that bind no names in the frame where they render leave that
frame as it is, so a round finds in it what the items before have bound, and nothing else. A loop is
therefore the same as rounds apart, each in a frame of its own that starts with these bindings; and with
an empty one where each item binds all that the items before have bound.
-/

namespace TemplateTree

open RenderM

variable {η α : Type}

/-! ## Frames that stay -/

/-- Whatever the frames of a context are, they are the same afterwards. -/
abbrev KeepsFrames (P : α → Prop) (x : RenderM η α) : Prop :=
  ∀ frames, Keeps (fun c => c.frames = frames) P x

section
variable {frames : List (Dict (Val η))}

theorem steady_frames : Steady (Invariantly fun c : Context η => c.frames = frames) :=
  steady_invariantly fun _ h => h

theorem moves_frames {id : Nat} : Moves (Invariantly fun c : Context η => c.frames = frames) id :=
  moves_invariantly fun _ _ h => h

theorem framed_frames {frame : Dict (Val η)} {c : Context η} (hc : c.frames = frames) :
    Framed (Invariantly fun c => c.frames = frames)
      (Invariantly (Context.Restored Set.univ (c.push frame))) frame c c
    where
  push := ⟨rfl, .refl _⟩
  pop := by
    intro c' _ hcd
    obtain ⟨rfl, hc'⟩ := hcd
    obtain ⟨f, d, hpop, -, hframes⟩ := hc'.pop?
    exact ⟨f, f, d, d, hpop, hpop, rfl, hframes.trans hc⟩

theorem keepsFrames_inFrame {x : RenderM η α} (hx : Restores Set.univ x) (frame : Dict (Val η)) :
    KeepsFrames (fun _ => True) (inFrame frame x) := by
  intro frames
  refine inFrame_lockstep ?_
  intro c _ hcd
  obtain ⟨rfl, hc⟩ := hcd
  exact ⟨_, framed_frames hc, hx _ trivial⟩

end

section
variable {engine : Engine Empty} {render : Renderer Empty} (hrestores : ∀ n, Restores n.bound (render n))
include hrestores

theorem keepsFrames_renderBlock (b : Block Empty) : KeepsFrames AnyValue (renderBlock render b) :=
  fun frames =>
    (keepsFrames_inFrame (restores_operative hrestores b) [] frames).map Value.list fun _ _ => anyValue_of _

theorem keepsFrames_renderSuper (b : Block Empty) : KeepsFrames AnyValue (renderSuper render b) := by
  intro frames
  refine .get_bind ?_
  intro c _ hcd
  obtain ⟨rfl, hc⟩ := hcd
  cases queued? c b.name with
  | none => exact .result (anyValue_of _) ⟨rfl, hc⟩
  | some _ => exact keepsFrames_renderBlock hrestores b frames c c ⟨rfl, hc⟩

theorem keepsFrames_resolve (v : Variable) : KeepsFrames AnyValue (resolve render v) := by
  intro frames
  refine resolve_lockstep v ?_ (fun _ _ w _ _ => anyValue_of w) fun _ f _ _ => ?_
  · intro c _ hcd
    obtain ⟨rfl, -⟩ := hcd
    rfl
  · cases f with
    | super b => exact keepsFrames_renderSuper hrestores b frames
    | host p => cases p

theorem keepsFrames_renderInclusion {target : Target} {extra : List (String × Node Empty)} {only : Bool}
    (hextra : ∀ e ∈ extra, KeepsFrames AnyValue (render e.2)) :
    KeepsFrames AnyValue (renderInclusion engine (resolve render) render target extra only) := by
  intro frames
  refine renderInclusion_lockstep (Q := fun _ => True) (fun _ _ _ => trivial)
    (fun v _ => keepsFrames_resolve hrestores v frames) (fun e he => hextra e he frames) ?_ ?_ ?_
  · intro c _ hcd
    obtain ⟨rfl, -⟩ := hcd
    rfl
  · intro t frame c _ _ _ hcd _
    obtain ⟨rfl, hc⟩ := hcd
    exact renderIsolated_invariantly (renderTemplate_alike (rootRestores hrestores t _)) fun _ => hc
  · intro t frame c d _ _ hcd _
    exact (keepsFrames_inFrame (restores_template hrestores t) frame frames).anyValue c d hcd

theorem keepsFrames_renderStep {n : Node Empty} (hn : n.bound = ∅)
    (hchildren : ∀ m ∈ n.sameFrame, KeepsFrames AnyValue (render m)) :
    KeepsFrames AnyValue (renderStep engine render n) := by
  intro frames
  have hvar (v : Variable) := keepsFrames_resolve hrestores v frames
  have hchild (m : Node Empty) (hm : m ∈ n.sameFrame) := hchildren m hm frames
  rw [← renderStepVia_self]
  refine renderStepVia_lockstep steady_frames hvar hchild ?loop ?block ?inclusion ?cycle
  case loop =>
    rintro vars list contents fallback rfl
    refine renderLoop_lockstep (hvar list) hchild ?_ ?_
    · intro c _ hcd
      obtain ⟨rfl, -⟩ := hcd
      exact ⟨rfl, fun v _ => anyValue_of v⟩
    · intro c _ hcd
      obtain ⟨rfl, hc⟩ := hcd
      refine ⟨_, framed_frames hc, fun x _ => binds_restored (Set.mem_univ x), fun m _ => ?_⟩
      exact ((hrestores m).mono stable_true (Set.subset_univ _) _ trivial).anyValue
  case block => exact fun b _ => keepsFrames_renderBlock hrestores b frames
  case inclusion =>
    rintro target extra only rfl
    exact keepsFrames_renderInclusion hrestores (fun e he => hchildren e.2 (List.mem_map_of_mem he)) frames
  case cycle =>
    rintro id values name silent rfl
    refine ⟨moves_frames, ?_⟩
    rintro x rfl
    have hx : x ∈ (Node.cycle id values (some x) silent).bound := ⟨id, values, silent, .refl⟩
    rw [hn] at hx
    exact hx.elim

end

theorem keepsFrames_renderNode (engine : Engine Empty) : ∀ (depth : Nat) {n : Node Empty}, n.bound = ∅ →
    KeepsFrames AnyValue (renderNode engine depth n)
  | 0, _, _ => fun _ _ _ _ => .exhausted trivial
  | depth + 1, _, hn => keepsFrames_renderStep (restores_renderNode engine depth) hn fun _ hm =>
    keepsFrames_renderNode engine depth (Set.subset_eq_empty (Node.bound_subset hm) hn)

/-! ## Rounds apart -/

/-- What a loop binds of an item: the whole to a single variable, else part by part, as far as both
lists go. -/
def bindings (vars : List String) (item : Val η) : Except RenderFault (List (String × Val η)) :=
  match vars, item with
  | [var], item => .ok [(var, item)]
  | vars, .list parts => .ok (vars.zip parts)
  | vars, .string s => .ok (vars.zip (Value.ofChars s))
  | vars, item => .error (.notUnpackable item.kind vars.length)

def renderRound (render : Renderer η) (vars : List String) (contents : List (Node η)) (state item : Val η) :
    RenderM η (List (Val η)) := do
  bindItem vars item
  bindVar "forloop" state
  renderAll render contents

/-- The rounds of a loop, each in a frame of its own. `next` tells what the frame of the next round
starts with. -/
def renderRoundsApart (render : Renderer η) (vars : List String) (contents : List (Node η))
    (parent : Val η) (n : Nat) (next : Dict (Val η) → Val η → Dict (Val η)) :
    Nat → Dict (Val η) → List (Val η) → RenderM η (List (Val η))
  | _, _, [] => pure []
  | i, frame, item :: items => do
    let here ← inFrame frame (renderRound render vars contents (loopState parent i n) item)
    let rest ← renderRoundsApart render vars contents parent n next (i + 1) (next frame item) items
    return here ++ rest

def renderLoopApart (resolve : Resolver η) (render : Renderer η) (next : Dict (Val η) → Val η → Dict (Val η))
    (vars : List String) (list : Variable) (contents empty : List (Node η)) : RenderM η (Val η) := do
  match ← ofFault (loopItems (← resolve list)) with
  | [] => return .list (← renderAll render empty)
  | items =>
    let parent := ((← get).get? "forloop").getD (.map [])
    return .list (← renderRoundsApart render vars contents parent items.length next 0 [] items)

def afresh (_ : Dict (Val η)) (_ : Val η) : Dict (Val η) :=
  []

/-- Each round starts with what the items before have bound, the later ones in place of the earlier ones. -/
def carry (vars : List String) (frame : Dict (Val η)) (item : Val η) : Dict (Val η) :=
  match bindings vars item with
  | .ok bs => frame.insertAll bs
  | .error _ => frame

theorem bindItem_eq (vars : List String) (item : Val η) : bindItem vars item =
    match bindings vars item with
    | .ok bs => update (·.mapTop (·.insertAll bs))
    | .error fault => fail (.render fault) := by
  rcases vars with _ | ⟨x, _ | ⟨y, vars⟩⟩ <;> cases item <;> rfl

theorem renderRounds_cons (render : Renderer η) (vars : List String)
    (contents : List (Node η)) (parent : Val η) (n i : Nat) (item : Val η) (items : List (Val η)) :
    renderRounds render vars contents parent n i (item :: items) =
      renderRound render vars contents (loopState parent i n) item >>= fun here =>
        renderRounds render vars contents parent n (i + 1) items >>= fun rest => pure (here ++ rest) := by
  simp only [renderRounds, renderRound, bind_assoc]

section
variable {render : Renderer η} {vars : List String} {contents : List (Node η)} {state item : Val η}

theorem renderRound_of_error {fault : RenderFault} (h : bindings vars item = .error fault) (c : Context η) :
    renderRound render vars contents state item c = some (.error (.ofCause (.render fault)), c) := by
  unfold renderRound
  rw [bindItem_eq, h]
  rfl

theorem renderRound_of_ok {bs : List (String × Val η)} (h : bindings vars item = .ok bs) (c : Context η)
    (frame : Dict (Val η)) : renderRound render vars contents state item (c.push frame) =
      renderAll render contents (c.push ((Dict.insertAll frame bs).insert "forloop" state)) := by
  unfold renderRound
  rw [bindItem_eq, h]
  rfl

end

/-! ## Frames that are the same -/

namespace Dict

theorem get?_insertAll_congr {d d' : Dict α} {x : String} {entries : List (String × α)}
    (h : x ∉ keys entries → d.get? x = d'.get? x) :
    (d.insertAll entries).get? x = (d'.insertAll entries).get? x := by
  rw [get?_insertAll, get?_insertAll]
  cases hx : (ofList entries).get? x with
  | none => rw [h (get?_ofList_eq_none_iff.mp hx)]
  | some v => rfl

theorem get?_insertAll_of_not_mem {d : Dict α} {x : String} {entries : List (String × α)}
    (hx : x ∉ keys entries) : (d.insertAll entries).get? x = d.get? x := by
  rw [get?_insertAll, get?_ofList_eq_none_iff.mpr hx, Option.none_or]

theorem keys_nodup {d : Dict α} (h : d.Sorted) : d.keys.Nodup := by
  refine (List.pairwise_map.mpr h).imp fun {a b} hlt => ?_
  rintro rfl
  exact String.lt_irrefl a hlt

theorem eq_of_get? {d d' : Dict α} (h : d.Sorted) (h' : d'.Sorted)
    (hget : ∀ x, d.get? x = d'.get? x) : d = d' := by
  have hmem : ∀ e, e ∈ d ↔ e ∈ d' := by
    intro e
    constructor
    · intro he
      exact mem_of_get? ((hget e.1).symm.trans (get?_of_mem (keys_nodup h) he))
    · intro he
      exact mem_of_get? ((hget e.1).trans (get?_of_mem (keys_nodup h') he))
  have hperm : d.Perm d' :=
    (List.perm_ext_iff_of_nodup (.of_map _ (keys_nodup h)) (.of_map _ (keys_nodup h'))).mpr hmem
  refine hperm.eq_of_pairwise (fun a b _ _ hab hba => ?_) h h'
  exact absurd hba (String.lt_asymm hab)

end Dict

theorem Context.eq_push_of_frames {c c' : Context η} {frame : Dict (Val η)}
    (h : c'.frames = (c.push frame).frames) : ∃ d : Context η, c' = d.push frame := by
  obtain ⟨globals, stack, render, saved, depth, made⟩ := c'
  cases stack with
  | nil => exact absurd (List.cons.inj h).2 (by simp)
  | cons f stack =>
    obtain ⟨rfl, -⟩ := List.cons.inj h
    exact ⟨⟨globals, stack, render, saved, depth, made⟩, rfl⟩

/-! ## Rounds in one frame and apart -/

section
variable {render : Renderer η} {vars : List String} {contents : List (Node η)}
  (hkeeps : ∀ n ∈ contents, KeepsFrames AnyValue (render n))
include hkeeps

theorem renderRound_alike {state item : Val η} {bs : List (String × Val η)}
    {F G : Dict (Val η)} (hF : F.Sorted) (hG : G.Sorted) (hbs : bindings vars item = .ok bs)
    (hagree : ∀ x ≠ "forloop", x ∉ Dict.keys bs → F.get? x = G.get? x) (c : Context η) :
    Alike True (fun c' d' => c' = d'.push ((Dict.insertAll F bs).insert "forloop" state)) (fun _ => True)
      (renderRound render vars contents state item (c.push F))
      (inFrame G (renderRound render vars contents state item) c) := by
  -- Once the item is bound the two frames are one, `H`, since they are sorted and show the same.
  generalize hH : Dict.insert (Dict.insertAll F bs) "forloop" state = H
  have hsame : Dict.insert (Dict.insertAll G bs) "forloop" state = H := by
    rw [← hH]
    refine Dict.eq_of_get? (Dict.sorted_insert (Dict.sorted_insertAll hG bs) _ _)
      (Dict.sorted_insert (Dict.sorted_insertAll hF bs) _ _) fun x => ?_
    rw [Dict.get?_insert, Dict.get?_insert]
    split
    · rfl
    · next hx => exact (Dict.get?_insertAll_congr (hagree x (Ne.symm hx))).symm
  have hpush : (pushFrame G : RenderM η Unit) c = some (.ok (), c.push G) := rfl
  unfold inFrame
  rw [bracket_apply hpush, renderRound_of_ok hbs, renderRound_of_ok hbs, hsame, hH]
  cases hx : renderAll render contents (c.push H) with
  | none => exact .exhausted trivial
  | some o =>
    obtain ⟨r, c'⟩ := o
    have hall : KeepsFrames (fun _ => True) (renderAll render contents) := fun frames =>
      (renderAll_lockstep fun n hn => hkeeps n hn frames).weaken fun _ _ => trivial
    -- The contents leave `H` as it is, so what the shared frame has behind the round is known.
    obtain ⟨hr, hframes⟩ := (hall _).outcome rfl hx
    obtain ⟨d, rfl⟩ := Context.eq_push_of_frames hframes
    have hpop : (discard popFrame : RenderM η Unit) (d.push H) = some (.ok (), d) := popFrame_discard rfl
    simp only [RenderM.bind_apply, hpop]
    cases r with
    | ok vs => exact .result trivial rfl
    | error e => exact .error hr rfl

end

/-- What is known, before a round, of the frame that all rounds share, the frame of this round and the
items left: once the next item is bound, the two frames show the same. -/
structure FrameInvariant (vars : List String) (next : Dict (Val η) → Val η → Dict (Val η))
    (I : Dict (Val η) → Dict (Val η) → List (Val η) → Prop) : Prop where
  sorted : ∀ {F G items}, I F G items → F.Sorted ∧ G.Sorted
  agree : ∀ {F G item items bs}, I F G (item :: items) → bindings vars item = .ok bs →
    ∀ x ≠ "forloop", x ∉ Dict.keys bs → F.get? x = G.get? x
  step : ∀ {F G item items bs} (state : Val η), I F G (item :: items) → bindings vars item = .ok bs →
    I ((Dict.insertAll F bs).insert "forloop" state) (next G item) items

section
variable {render : Renderer η} {vars : List String} {contents : List (Node η)}
  (hkeeps : ∀ n ∈ contents, KeepsFrames AnyValue (render n)) {next : Dict (Val η) → Val η → Dict (Val η)}
  {I : Dict (Val η) → Dict (Val η) → List (Val η) → Prop} (hI : FrameInvariant vars next I)
include hkeeps hI

theorem renderRounds_alike {parent : Val η} {n : Nat} :
    ∀ {items : List (Val η)} {i : Nat} {F G : Dict (Val η)},
    I F G items → ∀ c : Context η, Alike True (fun c' d' => ∃ frame, c' = d'.push frame) (fun _ => True)
      (renderRounds render vars contents parent n i items (c.push F))
      (renderRoundsApart render vars contents parent n next i G items c)
  | [], _, F, _, _, _ => .result trivial ⟨F, rfl⟩
  | item :: items, i, F, G, h, c => by
    rw [renderRounds_cons, renderRoundsApart]
    cases hbs : bindings vars item with
    | error fault =>
      have hpush : (pushFrame G : RenderM η Unit) c = some (.ok (), c.push G) := rfl
      unfold inFrame
      rw [RenderM.bind_apply, RenderM.bind_apply, bracket_apply hpush, renderRound_of_error hbs,
        renderRound_of_error hbs]
      exact .error nofun ⟨F, rfl⟩
    | ok bs =>
      obtain ⟨hF, hG⟩ := hI.sorted h
      refine (renderRound_alike hkeeps hF hG hbs (hI.agree h hbs) c).bind_of (fun _ _ hcd => ⟨_, hcd⟩) ?_
      rintro here c' d - rfl
      refine (renderRounds_alike (hI.step _ h hbs) d).bind fun rest _ => ?_
      exact .pure trivial

theorem renderRounds_eq_apart {items : List (Val η)} (h : I [] [] items) (parent : Val η)
    (n i : Nat) (c : Context η) : inFrame [] (renderRounds render vars contents parent n i items) c =
      renderRoundsApart render vars contents parent n next i [] items c := by
  have hpush : (pushFrame [] : RenderM η Unit) c = some (.ok (), c.push []) := rfl
  refine eq_of_alike (.bracket_left hpush (renderRounds_alike hkeeps hI h c) ?_)
  rintro _ d ⟨frame, rfl⟩
  exact ⟨d, popFrame_discard rfl, rfl⟩

theorem renderLoop_eq_apart {resolve : Resolver η} {list : Variable}
    {fallback : List (Node η)} {c : Context η}
    (hstart : ∀ v c' items, resolve list c = some (.ok v, c') → loopItems v = .ok items → I [] [] items) :
    renderLoop resolve render vars list contents fallback c =
      renderLoopApart resolve render next vars list contents fallback c := by
  refine RenderM.bind_congr_apply fun v c₁ hv => RenderM.bind_congr_apply fun items c₂ hitems => ?_
  have hitems : loopItems v = .ok items := by
    cases h : loopItems v with
    | error fault =>
      rw [h] at hitems
      cases hitems
    | ok items' =>
      rw [h] at hitems
      obtain ⟨hitems, -⟩ := Prod.mk.inj (Option.some.inj hitems)
      exact congrArg Except.ok (Except.ok.inj hitems)
  cases items with
  | nil => rfl
  | cons item items =>
    have hrounds := renderRounds_eq_apart hkeeps hI (hstart v c₁ _ hv hitems)
      ((c₂.get? "forloop").getD (.map [])) (item :: items).length 0 c₂
    refine (RenderM.get_bind_apply _ c₂).trans (Eq.trans ?_ (RenderM.get_bind_apply _ c₂).symm)
    exact RenderM.map_apply_congr Value.list hrounds

end

/-! ## What the items before leave -/

/-- Each item binds all that an item before it binds. An item that cannot be unpacked ends the loop. -/
def Covering (vars : List String) (items : List (Val η)) : Prop :=
  items.Pairwise fun earlier item => ∀ bs bs', bindings vars earlier = .ok bs → bindings vars item = .ok bs' →
    ∀ x ∈ Dict.keys bs, x ∈ Dict.keys bs'

section
variable {vars : List String}

theorem Dict.get?_bound {d : Dict (Val η)} {bs : List (String × Val η)} {state : Val η} {x : String}
    (hx : x ≠ "forloop") :
    (Dict.insert (Dict.insertAll d bs) "forloop" state).get? x = (Dict.insertAll d bs).get? x :=
  get?_insert_of_ne (Ne.symm hx) _ state

theorem frameInvariant_carry : FrameInvariant (η := η) vars (carry vars) fun F G _ =>
    (F.Sorted ∧ G.Sorted) ∧ ∀ x ≠ "forloop", F.get? x = G.get? x where
  sorted h := h.1
  agree h _ x hx _ := h.2 x hx
  step := by
    rintro F G item items bs state ⟨⟨hF, hG⟩, h⟩ hbs
    have hcarry : carry vars G item = Dict.insertAll G bs := by
      unfold carry
      rw [hbs]
    rw [hcarry]
    refine ⟨⟨Dict.sorted_insert (Dict.sorted_insertAll hF bs) _ _, Dict.sorted_insertAll hG bs⟩,
      fun x hx => ?_⟩
    rw [Dict.get?_bound hx]
    exact Dict.get?_insertAll_congr fun _ => h x hx

theorem frameInvariant_afresh : FrameInvariant (η := η) vars afresh fun F G items =>
    (F.Sorted ∧ G = []) ∧ Covering vars items ∧ ∀ x ≠ "forloop", F.get? x ≠ none →
      ∀ item ∈ items, ∀ bs, bindings vars item = .ok bs → x ∈ Dict.keys bs where
  sorted := by
    rintro F _ items ⟨⟨hF, rfl⟩, -⟩
    exact ⟨hF, .nil⟩
  agree := by
    rintro F _ item items bs ⟨⟨-, rfl⟩, -, h⟩ hbs x hx hkey
    by_contra hne
    exact hkey (h x hx hne item (List.mem_cons_self ..) bs hbs)
  step := by
    rintro F _ item items bs state ⟨⟨hF, rfl⟩, hcovering, h⟩ hbs
    obtain ⟨hcovers, hcovering⟩ := List.pairwise_cons.mp hcovering
    refine ⟨⟨Dict.sorted_insert (Dict.sorted_insertAll hF bs) _ _, rfl⟩, hcovering, ?_⟩
    intro x hx hne item' hitem' bs' hbs'
    rw [Dict.get?_bound hx] at hne
    by_cases hkey : x ∈ Dict.keys bs
    · exact hcovers item' hitem' bs bs' hbs hbs' x hkey
    · rw [Dict.get?_insertAll_of_not_mem hkey] at hne
      exact h x hx hne item' (List.mem_cons_of_mem _ hitem') bs' hbs'

end

/-! ## Loops -/

def Node.NotNamedCycle : Node η → Prop
  | .cycle _ _ (some _) _ => False
  | _ => True

theorem Node.bound_eq_empty_of_throughout {n : Node η} (h : n.Throughout NotNamedCycle) : n.bound = ∅ := by
  refine Set.eq_empty_of_forall_notMem ?_
  rintro name ⟨id, values, silent, hcycle⟩
  exact h _ (Relation.ReflTransGen.mono (fun _ _ => children_of_sameFrame) _ _ hcycle)

/-- A loop without named cycles in its body renders to an end, and as its rounds apart do: each in a
frame that starts with what the items before have bound, or in an empty one if each item binds all that
the items before it bind. -/
theorem loop_eq_rounds_apart (engine : Engine Empty) {vars : List String} {list : Variable}
    {contents fallback : List (Node Empty)} (hcycles : ∀ n ∈ contents, n.Throughout Node.NotNamedCycle)
    (c : Context Empty) :
    (∃ o, ∀ depth, engine.depthFor c [.loop vars list contents fallback] ≤ depth →
      renderNode engine depth (.loop vars list contents fallback) c = some o) ∧
    ∀ depth, renderNode engine (depth + 1) (.loop vars list contents fallback) c =
        renderLoopApart (resolve (renderNode engine depth)) (renderNode engine depth)
          (carry vars) vars list contents fallback c ∧
      ((∀ v c' items, resolve (renderNode engine depth) list c = some (.ok v, c') → loopItems v = .ok items →
          Covering vars items) →
        renderNode engine (depth + 1) (.loop vars list contents fallback) c =
          renderLoopApart (resolve (renderNode engine depth)) (renderNode engine depth)
            afresh vars list contents fallback c) := by
  obtain ⟨r, c', hrender⟩ := exists_renderOne engine (.loop vars list contents fallback) c
  refine ⟨⟨(r, c'), fun depth hdepth => renderNode_extends engine hdepth _ c _ hrender⟩, fun depth => ?_⟩
  have hkeeps : ∀ n ∈ contents, KeepsFrames AnyValue (renderNode engine depth n) := fun n hn =>
    keepsFrames_renderNode engine depth (Node.bound_eq_empty_of_throughout (hcycles n hn))
  refine ⟨renderLoop_eq_apart hkeeps frameInvariant_carry ?_, fun hcovering => ?_⟩
  · exact fun _ _ _ _ _ => ⟨⟨.nil, .nil⟩, fun _ _ => rfl⟩
  · refine renderLoop_eq_apart hkeeps frameInvariant_afresh fun v c' items hv hitems => ?_
    exact ⟨⟨.nil, rfl⟩, hcovering v c' items hv hitems, fun x _ hne => absurd rfl hne⟩

/-- Pairs all through: each item binds both variables. -/
theorem pairs_loop_afresh :
    let turns : List (Node Empty) := [.var (.called "a"), .var (.called "forloop.last")]
    let body : List (Node Empty) := [.var (.called "b"), .cycle 1 turns none false]
    let pairs : Val Empty := .list [.list [.string "1", .string "2"], .string "34"]
    let c := Context.withGlobals [("b", .string "outer"), ("pairs", pairs)]
    (∃ o, ∀ depth, Engine.html.depthFor c [.loop ["a", "b"] (.called "pairs") body []] ≤ depth →
      renderNode Engine.html depth (.loop ["a", "b"] (.called "pairs") body []) c = some o) ∧
    renderNode Engine.html 4 (.loop ["a", "b"] (.called "pairs") body []) c =
      renderLoopApart (resolve (renderNode Engine.html 3)) (renderNode Engine.html 3) afresh ["a", "b"]
        (.called "pairs") body [] c := by
  intro turns body pairs c
  have hvar (v : Variable) : (Node.var v : Node Empty).Throughout Node.NotNamedCycle :=
    Node.throughout_iff.mpr ⟨trivial, List.forall_mem_nil _⟩
  have hcycles : ∀ n ∈ body, n.Throughout Node.NotNamedCycle := by
    refine List.forall_mem_cons.mpr
      ⟨hvar _, List.forall_mem_singleton.mpr (Node.throughout_iff.mpr ⟨trivial, ?_⟩)⟩
    exact List.forall_mem_cons.mpr ⟨hvar _, List.forall_mem_singleton.mpr (hvar _)⟩
  obtain ⟨hends, hloop⟩ := loop_eq_rounds_apart Engine.html hcycles c
  refine ⟨hends, (hloop 3).2 fun v c' items hv hitems => ?_⟩
  have hpairs : resolve (renderNode Engine.html 3) (.called "pairs") c = some (.ok pairs, c) := rfl
  obtain ⟨hv, -⟩ := Prod.mk.inj (Option.some.inj (hv.symm.trans hpairs))
  obtain rfl := Except.ok.inj hv
  obtain rfl := Except.ok.inj hitems
  refine List.pairwise_cons.mpr ⟨List.forall_mem_singleton.mpr ?_, List.pairwise_singleton _ _⟩
  rintro _ _ ⟨⟩ ⟨⟩
  exact fun x hx => hx

/-- A round sees what an item before has bound if its own item has fewer parts than there are variables.
Host code, even in a template that the body includes, reaches the frame of all rounds. -/
theorem shared_frame_shows :
    let pairs : List (Node Empty) := [.var (.called "a"), .var (.called "b")]
    let c := Context.withGlobals (η := Empty) [("b", .string "outer"),
      ("xs", .list [.list [.string "1", .string "2"], .list [.string "3"]])]
    let part : Template Procedure :=
      ⟨"part", none, [.cond (.host .pop) [] [], .host (.assign "b" (.string "left")), .host (.push [])],
        [], rfl⟩
    let engine : Engine Procedure := Engine.html.add part
    let body : List (Node Procedure) := [.var (.called "b"), .inclusion (.name "part") [] false]
    let d := Context.withGlobals (η := Procedure)
      [("b", .string "outer"), ("xs", .list [.string "1", .string "2"])]
    let text {η : Type} (o : Option (Except Error (Val η) × Context η)) : Option String :=
      o.bind fun r => r.1.toOption.bind fun v => v.text.toOption
    text (renderNode Engine.html 3 (.loop ["a", "b"] (.called "xs") pairs []) c) = some "1232" ∧
      text (renderLoopApart (resolve (renderNode Engine.html 2)) (renderNode Engine.html 2) afresh ["a", "b"]
        (.called "xs") pairs [] c) = some "123outer" ∧
      text (renderNode engine 5 (.loop ["a"] (.called "xs") body []) d) = some "outerleft" ∧
      text (renderLoopApart (resolve (renderNode engine 4)) (renderNode engine 4) afresh
        ["a"] (.called "xs") body [] d) = some "outerouter" := by
  decide +kernel

end TemplateTree
