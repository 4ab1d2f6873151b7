import TemplateTree.Proofs.Invariance
import TemplateTree.Proofs.LoopFrames

/-!
# What loops show of their rounds

While a body renders, the variable of the innermost loop counts its rounds, and the loops around are
found by following `parentloop`. To say so of every moment of a render, the render is watched: it
carries the rounds under way along, and where a node starts to render in a context that does not show
them it has no outcome. A render that is never stopped in this way goes on as it does unwatched.
-/

namespace TemplateTree

open RenderM

variable {η α : Type}

/-! ## Rounds under way -/

/-- A round of a loop, counted from 0, and the number of rounds. -/
structure Round where
  index : Nat
  count : Nat
deriving DecidableEq

/-- Whether a property is a number, or the greatest integer in place of a greater number. -/
def Value.counts {φ : Type} (v : Value φ) (name : String) (n : Nat) : Bool :=
  match v.property? name with
  | some (.integer i) => i.toInt == min (n : Int) Int64.maxValue.toInt
  | _ => false

def Value.tells {φ : Type} (v : Value φ) (name : String) (b : Bool) : Bool :=
  match v.property? name with
  | some (.bool b') => b == b'
  | _ => false

def Value.isEmptyMap {φ : Type} : Value φ → Bool
  | .map [] => true
  | _ => false

/-- Whether a value shows a round: counted from the front and from behind, from 1 and from 0. -/
def Round.isShownBy (r : Round) (v : Val η) : Bool :=
  r.index < r.count && v.counts "counter" (r.index + 1) && v.counts "counter0" r.index &&
    v.counts "revcounter" (r.count - r.index) && v.counts "revcounter0" (r.count - r.index - 1) &&
      v.tells "first" (r.index == 0) && v.tells "last" (r.index == r.count - 1)

/-- What is found where `parentloop` is followed some times from the variable of the innermost loop. -/
def Context.loopState? (c : Context η) : Nat → Option (Val η)
  | 0 => c.get? "forloop"
  | j + 1 => (c.loopState? j).bind (·.property? "parentloop")

/-- A context shows the rounds under way, the innermost one first, behind them an empty map, and outside
of all loops nothing. -/
structure Context.ShowsRounds (rounds : List Round) (c : Context η) : Prop where
  unbound : rounds = [] → (c.get? "forloop").isNone
  shown : ∀ j : Fin rounds.length, (c.loopState? j).any rounds[j].isShownBy
  outermost : rounds ≠ [] → (c.loopState? rounds.length).any Value.isEmptyMap

instance (rounds : List Round) (c : Context η) : Decidable (c.ShowsRounds rounds) :=
  decidable_of_iff ((rounds = [] → (c.get? "forloop").isNone) ∧
      (∀ j : Fin rounds.length, (c.loopState? j).any rounds[j].isShownBy) ∧
      (rounds ≠ [] → (c.loopState? rounds.length).any Value.isEmptyMap))
    ⟨fun h => ⟨h.1, h.2.1, h.2.2⟩, fun h => ⟨h.unbound, h.shown, h.outermost⟩⟩

/-! ## Watched renders -/

/-- The rounds of a loop, with a renderer for each. -/
def renderRoundsEach (render : Round → Renderer η) (vars : List String)
    (contents : List (Node η)) (parent : Val η) (n : Nat) : Nat → List (Val η) → RenderM η (List (Val η))
  | _, [] => pure []
  | i, item :: items => do
    let here ← renderRound (render ⟨i, n⟩) vars contents (loopState parent i n) item
    let rest ← renderRoundsEach render vars contents parent n (i + 1) items
    return here ++ rest

def renderLoopEach (resolve : Resolver η) (render : Renderer η)
    (inner : Round → Renderer η) (vars : List String) (list : Variable)
    (contents empty : List (Node η)) : RenderM η (Val η) := do
  match ← ofFault (loopItems (← resolve list)) with
  | [] => return .list (← renderAll render empty)
  | items =>
    let parent := ((← get).get? "forloop").getD (.map [])
    return .list (← inFrame [] (renderRoundsEach inner vars contents parent items.length 0 items))

section
variable [HostCode η]

/-- Renders a node by means of what renders the nodes inside of it, and for those in the body of a loop
what renders them in each round. -/
def renderStepEach (engine : Engine η) (render : Renderer η) (inner : Round → Renderer η) :
    Node η → RenderM η (Val η)
  | .loop vars list contents empty => renderLoopEach (resolve render) render inner vars list contents empty
  | n => renderStep engine render n

/-- Renders a node inside of some rounds of loops, the innermost one first, as long as `watch` allows it. -/
def renderWatched (engine : Engine η) (watch : List Round → Context η → Bool) : Nat → List Round → Renderer η
  | 0, _, _ => exhausted
  | depth + 1, rounds, n => fun ctx =>
    if watch rounds ctx then
      renderStepEach engine (renderWatched engine watch depth rounds)
        (fun r => renderWatched engine watch depth (r :: rounds)) n ctx
    else none

end

section
variable {resolve resolve' : Resolver η} {render render' : Renderer η}

theorem renderRoundsEach_extends {inner : Round → Renderer η} (hinner : ∀ r n, Extends (inner r n) (render n))
    (vars : List String) (contents : List (Node η)) (parent : Val η) (n : Nat) :
    ∀ (i : Nat) (items : List (Val η)),
      Extends (renderRoundsEach inner vars contents parent n i items)
        (renderRounds render vars contents parent n i items)
  | _, [] => .refl _
  | i, item :: items => by
    rw [renderRounds_cons, renderRoundsEach]
    refine Extends.bind ?_ fun _ =>
      (renderRoundsEach_extends hinner vars contents parent n (i + 1) items).map _
    exact (Extends.refl _).bind fun _ => (Extends.refl _).bind fun _ =>
      renderAll_extends (hinner ⟨i, n⟩) contents

theorem renderLoopEach_extends {inner : Round → Renderer η} (hresolve : ∀ v, Extends (resolve' v) (resolve v))
    (hrender : ∀ n, Extends (render' n) (render n))
    (hinner : ∀ r n, Extends (inner r n) (render n)) (vars : List String)
    (list : Variable) (contents empty : List (Node η)) :
    Extends (renderLoopEach resolve' render' inner vars list contents empty)
      (renderLoop resolve render vars list contents empty) := by
  refine (hresolve list).bind fun v => (Extends.refl _).bind fun items => ?_
  cases items with
  | nil => exact renderList_extends hrender empty
  | cons item items =>
    exact .get_bind fun c => ((renderRoundsEach_extends hinner vars contents _ _ 0 _).inFrame []).map _

end

/-- Watching only takes outcomes away. -/
theorem renderWatched_extends (engine : Engine Empty) (watch : List Round → Context Empty → Bool) :
    ∀ (depth : Nat) (rounds : List Round) (n : Node Empty),
      Extends (renderWatched engine watch depth rounds n) (renderNode engine depth n)
  | 0, _, _ => .refl _
  | depth + 1, rounds, n => by
    intro c o ho
    simp only [renderWatched] at ho
    split at ho
    · have hall := renderWatched_extends engine watch depth rounds
      have hhost (p : Empty) (receiver : Val Empty) :
          Extends (HostCode.run (renderWatched engine watch depth rounds) p receiver)
            (HostCode.run (renderNode engine depth) p receiver) := nomatch p
      have hstep : Extends (renderStepEach engine (renderWatched engine watch depth rounds)
          (fun r => renderWatched engine watch depth (r :: rounds)) n)
            (renderStep engine (renderNode engine depth) n) := by
        cases n with
        | loop vars list contents empty =>
          exact renderLoopEach_extends (resolve_extends hall hhost) hall
            (fun r => renderWatched_extends engine watch depth (r :: rounds)) vars list contents empty
        | _ =>
          rw [renderStepEach, ← renderStepVia_self, ← renderStepVia_self]
          · exact renderStepVia_extends hall hhost hall _
          · simp
      exact hstep c o ho
    · cases ho

/-! ## What the states of loops are -/

theorem toInt_countInteger (n : Nat) : (countInteger n).toInt = min (n : Int) Int64.maxValue.toInt := by
  have hmin : Int64.minValue.toInt ≤ (n : Int) := by
    rw [Int64.toInt_minValue]
    omega
  unfold countInteger
  cases h : integer? n with
  | some w =>
    have hn := h
    unfold integer? at hn
    split at hn
    · next hle => rw [Option.getD_some, toInt_of_integer? h, min_eq_left hle.2]
    · cases hn
  | none =>
    unfold integer? at h
    split at h
    · cases h
    · next hle =>
      rw [Option.getD_none, min_eq_right]
      by_contra hlt
      exact hle ⟨hmin, by omega⟩

/-- The state of the innermost of some rounds. -/
def stateOf : List Round → Val η
  | [] => .map []
  | r :: rounds => loopState (stateOf rounds) r.index r.count

theorem counts_ofNat {φ : Type} {v : Value φ} {name : String} {n : Nat}
    (h : v.property? name = some (.ofNat n)) : v.counts name n := by
  unfold Value.counts
  rw [h]
  simp [Value.ofNat, toInt_countInteger]

theorem tells_bool {φ : Type} {v : Value φ} {name : String} {b : Bool}
    (h : v.property? name = some (.bool b)) : v.tells name b := by
  unfold Value.tells
  rw [h]
  simp

theorem isShownBy_loopState {r : Round} (h : r.index < r.count) (parent : Val η) :
    r.isShownBy (loopState parent r.index r.count) := by
  unfold Round.isShownBy
  rw [counts_ofNat rfl, counts_ofNat rfl, counts_ofNat rfl, counts_ofNat rfl, tells_bool rfl, tells_bool rfl]
  simpa using h

theorem parentloop_loopState (parent : Val η) (i n : Nat) :
    (loopState parent i n).property? "parentloop" = some parent :=
  rfl

theorem loopState?_of_stateOf {c : Context η} {rounds : List Round}
    (h : c.get? "forloop" = some (stateOf rounds)) :
    ∀ {j : Nat}, j ≤ rounds.length → c.loopState? j = some (stateOf (rounds.drop j))
  | 0, _ => h
  | j + 1, hj => by
    have ih := loopState?_of_stateOf h (Nat.le_of_succ_le hj)
    rw [Context.loopState?, ih, List.drop_eq_getElem_cons hj]
    exact parentloop_loopState _ _ _

/-! ## Rounds under way are shown -/

/-- Neither includes a template nor gives the variable of loops another value. -/
def Node.LeavesForloop : Node η → Prop
  | .inclusion .. => False
  | .loop vars _ _ _ => "forloop" ∉ vars
  | .cycle _ _ (some name) _ => name ≠ "forloop"
  | _ => True

theorem Node.Throughout.ne_of_bound {n : Node η} (hn : n.Throughout LeavesForloop)
    {x : String} (hx : x ∈ n.bound) : x ≠ "forloop" := by
  obtain ⟨id, values, silent, hcycle⟩ := hx
  exact hn _ (Relation.ReflTransGen.mono (fun _ _ => children_of_sameFrame) _ _ hcycle)

/-- The variable of loops is what the rounds under way have made it, and nothing that is queued gives it
another value. -/
structure Context.Within (rounds : List Round) (c : Context η) : Prop where
  forloop : c.get? "forloop" = if rounds = [] then none else some (stateOf rounds)
  queues : c.Queues Node.LeavesForloop

section
variable {rounds : List Round} {c : Context Empty}

theorem Context.Within.showsRounds (h : c.Within rounds) (hrounds : ∀ r ∈ rounds, r.index < r.count) :
    c.ShowsRounds rounds where
  unbound hnil := by
    rw [h.forloop, if_pos hnil]
    rfl
  shown j := by
    have hne : rounds ≠ [] := List.ne_nil_of_length_pos (Nat.lt_of_le_of_lt (Nat.zero_le _) j.isLt)
    have hstate : c.get? "forloop" = some (stateOf rounds) := by rw [h.forloop, if_neg hne]
    rw [loopState?_of_stateOf hstate j.isLt.le, List.drop_eq_getElem_cons j.isLt]
    exact isShownBy_loopState (hrounds _ (List.getElem_mem j.isLt)) _
  outermost hne := by
    have hstate : c.get? "forloop" = some (stateOf rounds) := by rw [h.forloop, if_neg hne]
    rw [loopState?_of_stateOf hstate (Nat.le_refl _), List.drop_length]
    rfl

theorem Context.Within.parent (h : c.Within rounds) : (c.get? "forloop").getD (.map []) = stateOf rounds := by
  rw [h.forloop]
  cases rounds <;> rfl

theorem Context.Within.set (h : c.Within rounds) {x : String} (hx : x ≠ "forloop") (v : Val Empty) :
    (c.set x v).Within rounds where
  forloop := by rw [Context.get?_set, if_neg hx, h.forloop]
  queues := h.queues.of_queue? (Context.queue?_set c x · v)

theorem sheltered_within (rounds : List Round) :
    Sheltered Node.LeavesForloop (Context.Within (η := Empty) rounds) where
  queues c h := h.queues
  parts c c' d h h' hframes hrender :=
    ⟨(Context.get?_of_frames hframes "forloop").trans h.forloop, h'.queues.of_render hrender⟩
  push c h := ⟨(Context.get?_push c [] "forloop").trans h.forloop, h.queues⟩
  bindBlock c v h := h.set (by decide) v
  mapBlocks c f h hqueues := ⟨h.forloop, hqueues⟩

/-- Inside of a loop the variable is another one, but it comes back with the frames. -/
theorem framed_within (h : c.Within rounds) : Framed (Invariantly (Context.Within rounds))
    (Invariantly (Context.Restored Set.univ (c.push []))) [] c c where
  push := ⟨rfl, .refl _⟩
  pop := by
    intro c' _ hcd
    obtain ⟨rfl, hc'⟩ := hcd
    obtain ⟨f, d, hpop, hd, hframes⟩ := hc'.pop?
    have hforloop := (Context.get?_of_frames hframes "forloop").trans h.forloop
    exact ⟨f, f, d, d, hpop, hpop, rfl, hforloop, h.queues.of_restored hd⟩

end

section
variable {render watched : Renderer Empty} {inner : Round → Renderer Empty} {rounds : List Round}
  (hrestores : ∀ n, Restores n.bound (render n))
  (hinner : ∀ r : Round, r.index < r.count → ∀ n : Node Empty, n.Throughout Node.LeavesForloop →
    AgreeUnder (Context.Within (r :: rounds)) render (inner r) n)
include hrestores hinner

theorem renderRoundsEach_watched {vars : List String} {contents : List (Node Empty)}
    (hcontents : ∀ n ∈ contents, n.Throughout Node.LeavesForloop) {start : Context Empty}
    (hqueues : start.Queues Node.LeavesForloop) {n : Nat} : ∀ {items : List (Val Empty)} {i : Nat},
      i + items.length = n → Lockstep True (Invariantly (Context.Restored Set.univ start)) (fun _ => True)
        (renderRounds render vars contents (stateOf rounds) n i items)
        (renderRoundsEach inner vars contents (stateOf rounds) n i items)
  | [], _, _ => .pure trivial
  | item :: items, i, hn => by
    rw [List.length_cons] at hn
    rw [renderRounds_cons, renderRoundsEach]
    refine Lockstep.bind (P := fun _ => True) ?_ fun here _ =>
      (renderRoundsEach_watched hcontents hqueues (by omega)).bind fun rest _ => .pure trivial
    refine (bindItem_lockstep (fun x _ => binds_restored (Set.mem_univ x)) (anyValue_of item)).bind
      fun _ _ => ?_
    intro c _ hcd
    obtain ⟨rfl, hc⟩ := hcd
    -- from here on, up to the next item, the variable shows this round
    have hround := hinner ⟨i, n⟩ (show i < n by omega)
    have hset := hc.trans (Context.restored_set (Set.mem_univ "forloop") (loopState (stateOf rounds) i n))
    have hwithin : Context.Within (⟨i, n⟩ :: rounds) (c.set "forloop" (loopState (stateOf rounds) i n)) :=
      ⟨by rw [Context.get?_set, if_pos rfl, if_neg (by simp)]; rfl, hqueues.of_restored hset⟩
    have hall := renderAll_lockstep fun m hm => (hround m (hcontents m hm)).and_restored
      ((hrestores m).mono stable_true (Set.subset_univ _)) start
    exact (hall _ _ ⟨⟨rfl, hwithin⟩, hset⟩).mono (fun _ _ hcd => ⟨hcd.1.1, hcd.2⟩) fun _ _ => trivial

variable (hwatched : ∀ n : Node Empty, n.Throughout Node.LeavesForloop →
  AgreeUnder (Context.Within rounds) render watched n)
include hwatched

theorem renderLoopEach_watched {vars : List String} {list : Variable} {contents fallback : List (Node Empty)}
    (hcontents : ∀ n ∈ contents, n.Throughout Node.LeavesForloop)
    (hfallback : ∀ n ∈ fallback, n.Throughout Node.LeavesForloop) :
    Lockstep True (Invariantly (Context.Within rounds)) AnyValue
      (renderLoop (resolve render) render vars list contents fallback)
      (renderLoopEach (resolve watched) watched inner vars list contents fallback) := by
  have hI := sheltered_within rounds
  refine (resolve_under hI hrestores hwatched list).bind fun v _ => ?_
  refine Lockstep.bind (P := fun _ => True) (.ofFault fun _ _ => trivial) fun items _ => ?_
  cases items with
  | nil => exact renderList_lockstep fun n hn => hwatched n (hfallback n hn)
  | cons item items =>
    refine .get_bind ?_
    intro c _ hcd
    obtain ⟨rfl, hc⟩ := hcd
    rw [hc.parent]
    refine Lockstep.map (P := fun _ => True) Value.list (inFrame_lockstep ?_)
      (fun _ _ => anyValue_of _) c c ⟨rfl, hc⟩
    intro c _ hcd
    obtain ⟨rfl, hc⟩ := hcd
    have hqueues := (hI.push c hc).queues
    exact ⟨_, framed_within hc, renderRoundsEach_watched hrestores hinner hcontents hqueues (Nat.zero_add _)⟩

theorem renderStepEach_watched {engine : Engine Empty} {n : Node Empty}
    (hn : n.Throughout Node.LeavesForloop) :
    Lockstep True (Invariantly (Context.Within rounds)) AnyValue (renderStep engine render n)
      (renderStepEach engine watched inner n) := by
  cases n with
  | loop vars list contents fallback =>
    refine renderLoopEach_watched hrestores hinner hwatched (fun n hm => hn.child ?_) fun n hm => hn.child ?_
    · exact List.mem_append_left _ hm
    · exact List.mem_append_right _ hm
  | inclusion target extra only => exact hn.here.elim
  | _ =>
    exact renderStep_under (sheltered_within rounds) hrestores hwatched engine hn (by simp) (by simp)
      (fun _ _ _ _ _ _ _ hc => ⟨hc.forloop, hc.queues⟩) fun x hx c v hc => hc.set (hn.ne_of_bound hx) v

end

theorem renderWatched_lockstep (engine : Engine Empty) : ∀ (depth : Nat) {rounds : List Round},
    (∀ r ∈ rounds, r.index < r.count) → ∀ n : Node Empty, n.Throughout Node.LeavesForloop →
      AgreeUnder (Context.Within rounds) (renderNode engine depth)
        (renderWatched engine (fun rounds c => c.ShowsRounds rounds) depth rounds) n
  | 0, _, _, _, _ => fun _ _ _ => .exhausted trivial
  | depth + 1, rounds, hrounds, n, hn => by
    intro c _ hcd
    obtain ⟨rfl, hc⟩ := hcd
    simp only [renderWatched, hc.showsRounds hrounds, decide_true, if_true]
    exact renderStepEach_watched (restores_renderNode engine depth)
      (fun r hr => renderWatched_lockstep engine depth (List.forall_mem_cons.mpr ⟨hr, hrounds⟩))
      (renderWatched_lockstep engine depth hrounds) hn c c ⟨rfl, hc⟩

/-- Without inclusions, and where nothing else binds the variable of loops, every node renders where
that variable shows the rounds under way: the loop that many further out for each of them, and an empty
map behind all. Outside of all loops it is unbound, before a render and after it. -/
theorem loop_states_show_rounds (engine : Engine Empty) {n : Node Empty}
    (hn : n.Throughout Node.LeavesForloop) {c : Context Empty} (hqueues : c.Queues Node.LeavesForloop)
    (hc : c.get? "forloop" = none) :
    (∃ o, ∀ depth, engine.depthFor c [n] ≤ depth → renderNode engine depth n c = some o) ∧
    ∀ depth, renderWatched engine (fun rounds c => c.ShowsRounds rounds) depth [] n c =
      renderNode engine depth n c ∧ ∀ r c', renderNode engine depth n c = some (r, c') →
      c'.get? "forloop" = none := by
  obtain ⟨r, c', hrender⟩ := exists_renderOne engine n c
  refine ⟨⟨(r, c'), fun depth hdepth => renderNode_extends engine hdepth n c _ hrender⟩, fun depth => ?_⟩
  have hwithin : c.Within [] := ⟨hc, hqueues⟩
  have hagree := renderWatched_lockstep engine depth (List.forall_mem_nil _) n hn c c ⟨rfl, hwithin⟩
  exact ⟨hagree.eq.symm, fun r c' hr => (hagree.outcome hr).2.forloop⟩

/-- Rows of different lengths, with an element and a block between the two loops. -/
theorem nested_rounds_are_shown :
    let cells : List (Node Empty) :=
      [.var (.called "forloop.parentloop.counter"), .var (.called "forloop.revcounter0")]
    let row : Node Empty := .block (.mk "row" [.loop ["cell"] (.called "row") cells []])
    let rows : Node Empty := .loop ["row"] (.called "rows") [.element "tr" [] [row]] []
    let c := Context.withGlobals [("rows", .list [.list [.string "a", .string "b"], .list [.string "c"]])]
    let text (o : Option (Except Error (Val Empty) × Context Empty)) : Option String :=
      o.bind fun r => r.1.toOption.bind fun v => v.text.toOption
    text (renderNode Engine.html 6 rows c) = some "<tr>1110</tr><tr>20</tr>" ∧
    (∃ o, ∀ depth, Engine.html.depthFor c [rows] ≤ depth → renderNode Engine.html depth rows c = some o) ∧
    renderWatched Engine.html (fun rounds c => c.ShowsRounds rounds) 6 [] rows c =
      renderNode Engine.html 6 rows c ∧ ∀ r c', renderNode Engine.html 6 rows c = some (r, c') →
      c'.get? "forloop" = none := by
  intro cells row rows c text
  have hvar (v : Variable) : (Node.var v : Node Empty).Throughout Node.LeavesForloop :=
    Node.throughout_iff.mpr ⟨trivial, List.forall_mem_nil _⟩
  have hcells : ∀ n ∈ cells ++ [], n.Throughout Node.LeavesForloop :=
    List.forall_mem_cons.mpr ⟨hvar _, List.forall_mem_singleton.mpr (hvar _)⟩
  have hloop : (Node.loop ["cell"] (.called "row") cells []).Throughout Node.LeavesForloop :=
    Node.throughout_iff.mpr ⟨show "forloop" ∉ ["cell"] by decide, hcells⟩
  have hrow : row.Throughout Node.LeavesForloop :=
    Node.throughout_iff.mpr ⟨trivial, List.forall_mem_singleton.mpr hloop⟩
  have helement : (Node.element "tr" [] [row]).Throughout Node.LeavesForloop :=
    Node.throughout_iff.mpr ⟨trivial, List.forall_mem_singleton.mpr hrow⟩
  have hrows : rows.Throughout Node.LeavesForloop :=
    Node.throughout_iff.mpr ⟨show "forloop" ∉ ["row"] by decide, List.forall_mem_singleton.mpr helement⟩
  have hqueues : c.Queues Node.LeavesForloop := fun _ _ hq => nomatch hq
  obtain ⟨hends, hshown⟩ := loop_states_show_rounds Engine.html hrows hqueues rfl
  exact ⟨by decide +kernel, hends, hshown 6⟩

end TemplateTree
