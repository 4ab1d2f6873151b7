import Mathlib.Data.List.Flatten
import TemplateTree.Proofs.Restoration
import TemplateTree.Render.Run

/-!
# Renders end

On its way down a render comes to lower nodes. Where it jumps, either a definition leaves its queue or
one more inclusion is under way. So a depth that depends on nothing but the templates suffices, unless
host code runs.
-/

namespace TemplateTree

variable {η : Type}

/-! ## Heights -/

namespace Node

theorem height_le_of_mem {ns : List (Node η)} {n : Node η} (h : n ∈ ns) : n.height ≤ heightOfAll ns := by
  induction ns with
  | nil => cases h
  | cons m ns ih =>
    rw [heightOfAll]
    rcases List.mem_cons.mp h with rfl | h
    · exact Nat.le_max_left ..
    · exact (ih h).trans (Nat.le_max_right ..)

theorem height_le_of_mem_entries {es : List (String × Node η)} {n : Node η} (h : n ∈ es.map (·.2)) :
    n.height ≤ heightOfEntries es := by
  induction es with
  | nil => cases h
  | cons e es ih =>
    obtain ⟨name, m⟩ := e
    rw [heightOfEntries]
    rcases List.mem_cons.mp h with rfl | h
    · exact Nat.le_max_left ..
    · exact (ih h).trans (Nat.le_max_right ..)

theorem height_lt_of_child {n m : Node η} (h : m ∈ n.children) : m.height < n.height := by
  cases n with
  | element tag attributes contents =>
    rw [height]
    rcases List.mem_append.mp h with h | h
    · exact Nat.lt_succ_of_le ((height_le_of_mem_entries h).trans (Nat.le_max_left ..))
    · exact Nat.lt_succ_of_le ((height_le_of_mem h).trans (Nat.le_max_right ..))
  | loop _ _ contents fallback | cond _ contents fallback =>
    rw [height]
    rcases List.mem_append.mp h with h | h
    · exact Nat.lt_succ_of_le ((height_le_of_mem h).trans (Nat.le_max_left ..))
    · exact Nat.lt_succ_of_le ((height_le_of_mem h).trans (Nat.le_max_right ..))
  | block b =>
    obtain ⟨name, contents⟩ := b
    rw [height, Block.height]
    exact Nat.lt_succ_of_le (height_le_of_mem h)
  | inclusion target extra only =>
    rw [height]
    exact Nat.lt_succ_of_le (height_le_of_mem_entries h)
  | cycle id values name silent =>
    rw [height]
    exact Nat.lt_succ_of_le (height_le_of_mem h)
  | empty contents | otherwise contents =>
    rw [height]
    exact Nat.lt_succ_of_le (height_le_of_mem h)
  | _ => cases h

theorem height_le_of_contains {n m : Node η} (h : n.Contains m) : m.height ≤ n.height := by
  induction h with
  | refl => exact Nat.le_refl _
  | tail _ hm ih => exact (height_lt_of_child hm).le.trans ih

end Node

theorem Block.height_le_of_mem {b : Block η} {n : Node η} (h : n ∈ b.contents) : n.height ≤ b.height := by
  obtain ⟨name, contents⟩ := b
  rw [Block.height]
  exact Node.height_le_of_mem h

theorem le_greatest {l : List Nat} {n : Nat} (h : n ∈ l) : n ≤ greatest l := by
  induction l with
  | nil => cases h
  | cons m l ih =>
    show n ≤ max m (greatest l)
    rcases List.mem_cons.mp h with rfl | h
    · exact Nat.le_max_left ..
    · exact (ih h).trans (Nat.le_max_right ..)

theorem Engine.height_le_of_registered {engine : Engine η} {name : String} {t : Template η}
    (h : engine.template? name = some t) : t.height ≤ engine.height :=
  le_greatest (List.mem_map.mpr ⟨_, Dict.mem_of_get? h, rfl⟩)

theorem Chain.height_le_of_mem_definitions {chain : Chain η} {top : Nat}
    (h : ∀ t ∈ chain.templates, t.height ≤ top) {name : String} {b : Block η}
    (hb : b ∈ chain.definitions name) : b.height ≤ top := by
  obtain ⟨t, ht, n, hn, hcontains⟩ := (Chain.holds_of_mem_definitions hb).2
  have hblock : (Node.block b).height ≤ n.height := Node.height_le_of_contains hcontains
  have hcontents : n.height ≤ t.height := Node.height_le_of_mem hn
  rw [Node.height] at hblock
  have htop := h t ht
  omega

/-! ## Numbers of definitions -/

/-- The names of the blocks of some templates, each as often as there are blocks of that name. -/
def blockNames (ts : List (Template η)) : List String :=
  ts.flatMap (·.blocks.keys)

theorem length_blockNames_cons (t : Template η) (ts : List (Template η)) :
    (blockNames (t :: ts)).length = t.blocks.length + (blockNames ts).length := by
  simp [blockNames, Dict.keys]

theorem Engine.blockCount_eq (engine : Engine η) :
    engine.blockCount = (blockNames (engine.templates.map (·.2))).length := by
  unfold Engine.blockCount
  induction engine.templates with
  | nil => rfl
  | cons e es ih => rw [List.foldr_cons, List.map_cons, length_blockNames_cons, ih]

theorem Engine.length_blockNames_le {engine : Engine η} {ts : List (Template η)} (hdistinct : ts.Nodup)
    (hregistered : ∀ t ∈ ts, ∃ name, engine.template? name = some t) :
    (blockNames ts).length ≤ engine.blockCount := by
  obtain ⟨us, hperm, hsub⟩ := subperm_of_registered hdistinct hregistered
  have hlength : (blockNames us).length = (blockNames ts).length := (hperm.flatMap_right _).length_eq
  rw [engine.blockCount_eq, ← hlength]
  exact (hsub.flatMap _).length_le

section
variable {engine : Engine η} {t : Template η} {chain : Chain η} (h : engine.chain t = .ok chain)
include h

theorem Engine.nodup_chain : chain.templates.Nodup :=
  .of_map _ (Engine.nodup_of_followParents h).2

theorem Engine.length_blockNames_of_registered {name : String} (ht : engine.template? name = some t) :
    (blockNames chain.templates).length ≤ engine.blockCount := by
  refine length_blockNames_le (nodup_chain h) fun u hu => ?_
  rcases mem_chain h hu with rfl | hu
  · exact ⟨name, ht⟩
  · exact hu

theorem Engine.length_blockNames_of_chain :
    (blockNames chain.templates).length ≤ engine.blockCount + t.blocks.length := by
  obtain ⟨ts, hts, hregistered⟩ := (derives_of_followParents h).exists_cons
  have hdistinct := nodup_chain h
  rw [hts] at hdistinct ⊢
  have hlength := length_blockNames_le (List.nodup_cons.mp hdistinct).2 hregistered
  rw [length_blockNames_cons]
  omega

end

theorem Chain.length_definitions_le (c : Chain η) (name : String) :
    (c.definitions name).length ≤ (blockNames c.templates).count name := by
  unfold definitions blockNames
  induction c.templates with
  | nil => exact Nat.le_refl _
  | cons t ts ih =>
    rw [List.flatMap_cons, List.count_append, List.filterMap_cons]
    cases h : t.blocks.get? name with
    | none => exact ih.trans (Nat.le_add_left ..)
    | some b =>
      have hmem : name ∈ t.blocks.keys := List.mem_map.mpr ⟨_, Dict.mem_of_get? h, rfl⟩
      have hpos := List.count_pos_iff.mpr hmem
      rw [List.length_cons]
      omega

/-! ## Room for jumps -/

/-- Room for `inclusions` more inclusions and for `queued` definitions, none of them higher than `top`. -/
structure Context.Room (engine : Engine η) (top inclusions queued : Nat) (c : Context η) : Prop where
  depth : engine.maxIncludeDepth ≤ c.depth + inclusions
  /-- Each name is listed once for each definition in its queue. -/
  queued : ∃ names : List String, names.length ≤ queued ∧ ∀ x bs, c.queue? x = some bs →
    bs.length ≤ names.count x
  height : ∀ x bs, c.queue? x = some bs → ∀ b ∈ bs, b.height ≤ top

section
variable {engine : Engine η} {top i q : Nat} {c : Context η}

theorem stable_room : Stable (Context.Room (η := η) engine top i q) where
  restored := by
    intro c d hc hd
    obtain ⟨names, hlength, hcount⟩ := hc.queued
    refine ⟨hd.depth ▸ hc.depth, ⟨names, hlength, fun x bs hx => ?_⟩, fun x bs hx => ?_⟩
    · rw [hd.queue] at hx
      exact hcount x bs hx
    · rw [hd.queue] at hx
      exact hc.height x bs hx
  push := fun c frame hc => ⟨hc.depth, hc.queued, hc.height⟩

theorem Context.Room.pop (h : c.Room engine top i q) {name : String} {b : Block η} {rest : List (Block η)}
    (hq : c.queue? name = some (b :: rest)) :
    ∃ q', q = q' + 1 ∧ Context.Room engine top i q' (c.mapBlocks (·.pop name)) := by
  obtain ⟨names, hlength, hcount⟩ := h.queued
  have hpos : rest.length + 1 ≤ names.count name := hcount name _ hq
  have hmem : name ∈ names := List.count_pos_iff.mp (by omega)
  have herase := List.length_erase_of_mem hmem
  have hnames := List.length_pos_of_mem hmem
  refine ⟨q - 1, by omega, h.depth, ⟨names.erase name, by omega, fun x bs hx => ?_⟩, fun x bs hx b' hb' => ?_⟩
  · rw [Context.queue?_pop hq] at hx
    split at hx
    · next hname =>
      obtain rfl := Option.some.inj hx
      rw [← hname, List.count_erase_self]
      omega
    · next hname =>
      rw [List.count_erase_of_ne fun h => hname h.symm]
      exact hcount x bs hx
  · rw [Context.queue?_pop hq] at hx
    split at hx
    · obtain rfl := Option.some.inj hx
      exact h.height name _ hq b' (List.mem_cons_of_mem _ hb')
    · exact h.height x bs hx b' hb'

theorem Context.Starts.room {chain : Chain η} {depth : Nat} (h : c.Starts chain depth)
    (hdepth : engine.maxIncludeDepth ≤ depth + i) (hcount : (blockNames chain.templates).length ≤ q)
    (htop : ∀ t ∈ chain.templates, t.height ≤ top) : c.Room engine top i q := by
  refine ⟨h.depth ▸ hdepth, ⟨blockNames chain.templates, hcount, fun x bs hx => ?_⟩, fun x bs hx => ?_⟩
  · rw [h.queue] at hx
    rw [← Option.some.inj hx]
    exact chain.length_definitions_le x
  · rw [h.queue] at hx
    rw [← Option.some.inj hx]
    exact fun b => Chain.height_le_of_mem_definitions htop

end

/-! ## Depths -/

/-- The depth that suffices to go down `height` levels where there is room. -/
def Engine.depthWithin (engine : Engine η) (top inclusions queued height : Nat) : Nat :=
  inclusions * ((engine.blockCount + 1) * (top + 1)) + queued * (top + 1) + height + 1

section
variable {engine : Engine η} {top i q height : Nat}

theorem Engine.depthWithin_eq :
    engine.depthWithin top engine.maxIncludeDepth q height = engine.depthBound q top height := by
  rw [depthWithin, depthBound, Nat.mul_assoc]

theorem Engine.depthWithin_le {height' : Nat} (h : height' ≤ height) :
    engine.depthWithin top i q height' ≤ engine.depthWithin top i q height := by
  unfold depthWithin
  omega

theorem Engine.depthWithin_queued {height' : Nat} (h : height' ≤ top) :
    engine.depthWithin top i q height' < engine.depthWithin top i (q + 1) height := by
  unfold depthWithin
  rw [Nat.succ_mul q]
  omega

theorem Engine.depthWithin_included {height' : Nat} (h : height' ≤ top) :
    engine.depthWithin top i engine.blockCount height' < engine.depthWithin top (i + 1) q height := by
  unfold depthWithin
  rw [Nat.succ_mul i, Nat.succ_mul engine.blockCount]
  omega

end

/-! ## Renders without host code -/

section
variable {engine : Engine Empty} {top : Nat}

theorem rootRestores_within {render : Renderer Empty} {t : Template Empty} {depth i q : Nat}
    (htop : ∀ name u, engine.template? name = some u → u.height ≤ top) (ht : t.height ≤ top)
    (hdepth : engine.maxIncludeDepth ≤ depth + i)
    (hcount : ∀ chain, engine.chain t = .ok chain → (blockNames chain.templates).length ≤ q)
    (h : ∀ n : Node Empty, n.height ≤ top →
      RestoresFrom False (Context.Room engine top i q) n.bound (render n)) :
    RootRestores False engine render t depth := by
  intro chain c hchain hstarts
  have htemplates : ∀ u ∈ chain.templates, u.height ≤ top := by
    intro u hu
    rcases Engine.mem_chain hchain hu with rfl | ⟨name, hname⟩
    · exact ht
    · exact htop name u hname
  refine ⟨_, stable_room, hstarts.room hdepth (hcount chain hchain) htemplates, fun n hn => h n ?_⟩
  exact (Node.height_le_of_mem hn).trans (htemplates chain.root chain.root_mem)

variable (htop : ∀ name t, engine.template? name = some t → t.height ≤ top)
include htop

/-- Where there is room, nodes render to an end. -/
theorem restores_within :
    ∀ (depth : Nat) {i q : Nat} {n : Node Empty}, engine.depthWithin top i q n.height ≤ depth →
    RestoresFrom False (Context.Room engine top i q) n.bound (renderNode engine depth n)
  | 0, _, _, _, h => absurd h (Nat.not_succ_le_zero _)
  | depth + 1, i, q, n, h => by
    have ih := @restores_within depth
    refine restores_renderStep stable_room ?_ ?_ fun m hm => ih ?_
    · intro c name definition rest hc hq
      obtain ⟨q', rfl, hpop⟩ := hc.pop hq
      refine ⟨Context.Room engine top i q', stable_room, hpop, fun m hm => ih ?_⟩
      have hheight := hc.height name _ hq definition (List.mem_cons_self ..)
      refine Nat.le_of_lt_succ (Nat.lt_of_lt_of_le ?_ h)
      exact Engine.depthWithin_queued ((Block.height_le_of_mem hm).trans hheight)
    · intro c name t hc hdepth ht
      have hroom := hc.depth
      obtain ⟨i, rfl⟩ : ∃ i', i = i' + 1 := ⟨i - 1, by omega⟩
      have hleft : engine.maxIncludeDepth ≤ c.depth + 1 + i := by omega
      refine rootRestores_within htop (htop name t ht) hleft
        (fun chain hchain => Engine.length_blockNames_of_registered hchain ht) fun m hm => ih ?_
      exact Nat.le_of_lt_succ (Nat.lt_of_lt_of_le (Engine.depthWithin_included hm) h)
    · exact Nat.le_of_succ_le_succ (Nat.le_trans (Engine.depthWithin_le (Node.height_lt_of_child hm)) h)

end

/-- Every render of a template ends, in a result or in an error. -/
theorem exists_renderWith (engine : Engine Empty) (t : Template Empty) (c : Context Empty) :
    ∃ r c', engine.renderWith t c = some (r, c') := by
  let top := max engine.height t.height
  have htop : ∀ name u, engine.template? name = some u → u.height ≤ top :=
    fun _ _ hu => (Engine.height_le_of_registered hu).trans (Nat.le_max_left ..)
  have hroot : RootRestores False engine (renderNode engine (engine.depthForTemplate t)) t c.depth := by
    refine rootRestores_within htop (Nat.le_max_right ..) (Nat.le_add_left ..)
      (fun chain => Engine.length_blockNames_of_chain) fun n hn => restores_within htop _ ?_
    rw [Engine.depthForTemplate, ← Engine.depthWithin_eq]
    exact (Engine.depthWithin_le hn).trans (Nat.le_add_right ..)
  have halike := renderTemplate_alike hroot
  rw [← Engine.renderWith] at halike
  cases hrender : engine.renderWith t c with
  | some o => exact ⟨o.1, o.2, rfl⟩
  | none =>
    rw [hrender] at halike
    cases halike with
    | exhausted h => exact h.elim

/-! ## Nodes in a context -/

/-- The names of queued definitions, each once for each definition in its queue. -/
def Blocks.names (bs : Blocks η) : List String :=
  bs.flatMap fun e => List.replicate e.2.length e.1

theorem Blocks.length_names (bs : Blocks η) : bs.names.length = bs.size := by
  induction bs with
  | nil => rfl
  | cons e bs ih =>
    show (List.replicate e.2.length e.1 ++ Blocks.names bs).length = e.2.length + Blocks.size bs
    rw [List.length_append, List.length_replicate, ih]

theorem Blocks.length_queue_le (bs : Blocks η) (x : String) : (bs.queue x).length ≤ bs.names.count x := by
  cases h : bs.get? x with
  | none => simp [queue, h]
  | some q =>
    obtain ⟨before, behind, hbs⟩ := List.append_of_mem (Dict.mem_of_get? h)
    rw [queue, h, Option.getD_some, names, hbs, List.flatMap_append, List.flatMap_cons, List.count_append,
      List.count_append, List.count_replicate_self]
    exact (Nat.le_add_right ..).trans (Nat.le_add_left ..)

theorem Blocks.height_le_of_mem_queue {bs : Blocks η} {x : String} {b : Block η} (hb : b ∈ bs.queue x) :
    b.height ≤ bs.height := by
  cases h : bs.get? x with
  | none => simp [queue, h] at hb
  | some q =>
    have hb : b ∈ q := by simpa [queue, h] using hb
    have hq : greatest (q.map Block.height) ≤ bs.height :=
      le_greatest (List.mem_map.mpr ⟨_, Dict.mem_of_get? h, rfl⟩)
    exact (le_greatest (List.mem_map_of_mem hb)).trans hq

theorem Context.room_of_height (engine : Engine η) (c : Context η) {top : Nat}
    (htop : Blocks.height (c.render.blocks.getD []) ≤ top) :
    c.Room engine top engine.maxIncludeDepth (Blocks.size (c.render.blocks.getD [])) := by
  have hqueue : ∀ x q, c.queue? x = some q → q = Blocks.queue (c.render.blocks.getD []) x := by
    intro x q hq
    obtain ⟨bs, hbs, rfl⟩ := Option.map_eq_some_iff.mp hq
    rw [hbs, Option.getD_some]
  refine ⟨Nat.le_add_left .., ⟨_, (Blocks.length_names _).le, fun x q hq => ?_⟩, fun x q hq b hb => ?_⟩
  · rw [hqueue x q hq]
    exact Blocks.length_queue_le _ x
  · rw [hqueue x q hq] at hb
    exact (Blocks.height_le_of_mem_queue hb).trans htop

/-- Every render of a node ends, whatever is queued. -/
theorem exists_renderOne (engine : Engine Empty) (n : Node Empty) (c : Context Empty) :
    ∃ r c', engine.renderOne n c = some (r, c') := by
  let top := max engine.height (max (Blocks.height (c.render.blocks.getD [])) n.height)
  have htop : ∀ name u, engine.template? name = some u → u.height ≤ top :=
    fun _ _ hu => (Engine.height_le_of_registered hu).trans (Nat.le_max_left ..)
  have hroom : c.Room engine top engine.maxIncludeDepth (Blocks.size (c.render.blocks.getD [])) :=
    c.room_of_height engine ((Nat.le_max_left ..).trans (Nat.le_max_right ..))
  have hdepth : engine.depthWithin top engine.maxIncludeDepth
      (Blocks.size (c.render.blocks.getD [])) n.height ≤ engine.depthFor c [n] := by
    rw [Engine.depthWithin_eq, Engine.depthFor]
    simp only [Node.heightOfAll, Nat.max_zero]
    exact Nat.le_add_right ..
  have halike := (restores_within htop _ hdepth).alike hroom
  rw [← Engine.renderOne] at halike
  cases hrender : engine.renderOne n c with
  | some o => exact ⟨o.1, o.2, rfl⟩
  | none =>
    rw [hrender] at halike
    cases halike with
    | exhausted h => exact h.elim

end TemplateTree
