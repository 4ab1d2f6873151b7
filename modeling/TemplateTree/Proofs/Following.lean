import TemplateTree.Proofs.Matching
import TemplateTree.Proofs.Restoration

/-!
# Renders that follow others

One step follows another if it does the same up to identity: from contexts whose variables match it ends
with a result that matches, or with the same error, and in contexts whose variables match again. The
pairing of identities grows on the way. There may be errors at which the comparison is given up:
whatever follows a step that ends with one of them may do what it likes.
-/

namespace TemplateTree

open RenderM
open Value (Matches AllMatch EntriesMatch optionRel_mono)

variable {α β γ δ : Type}

/-! ## Pairings of contexts -/

/-- Whether an identity was there before the one with this number was made. -/
def Identity.Before (n : Nat) : Identity → Prop
  | .given _ => True
  | .made k => k < n

theorem Identity.Before.mono {m n : Nat} (h : m ≤ n) : ∀ {i : Identity}, i.Before m → i.Before n
  | .given _, _ => trivial
  | .made _, hi => Nat.lt_of_lt_of_le hi h

theorem Identity.not_before_made (n : Nat) : ¬ (Identity.made n).Before n :=
  Nat.lt_irrefl n

/-- A pairing of two renders that have made `m` and `n` identities so far. What is known stands for itself. -/
structure Pairing.Valid (I : Pairing) (known : Identity → Prop) (m n : Nat) : Prop where
  oneToOne : I.OneToOne
  known : ∀ i, known i → I i i
  before : ∀ i j, I i j → i.Before m ∧ j.Before n

/-- The pairing with the next identities of both renders. -/
def Pairing.extend (I : Pairing) (m n : Nat) : Pairing :=
  fun i j => I i j ∨ i = .made m ∧ j = .made n

theorem Pairing.le_extend (I : Pairing) (m n : Nat) : I ≤ I.extend m n :=
  fun _ _ => .inl

namespace Pairing.Valid

variable {I : Pairing} {known : Identity → Prop} {m n : Nat}

theorem mono {m' n' : Nat} (h : I.Valid known m n) (hm : m ≤ m') (hn : n ≤ n') : I.Valid known m' n' :=
  ⟨h.oneToOne, h.known, fun i j hij => ⟨(h.before i j hij).1.mono hm, (h.before i j hij).2.mono hn⟩⟩

theorem extend (h : I.Valid known m n) : (I.extend m n).Valid known (m + 1) (n + 1) where
  -- neither of the two new identities is in a pair of `I`, for what is paired was there before
  oneToOne := by
    constructor
    · rintro i j j' (hij | ⟨rfl, rfl⟩) (hij' | ⟨hi, rfl⟩)
      · exact h.oneToOne.left i j j' hij hij'
      · exact absurd (hi ▸ (h.before i j hij).1) (Identity.not_before_made m)
      · exact absurd (h.before _ j' hij').1 (Identity.not_before_made m)
      · rfl
    · rintro i i' j (hij | ⟨rfl, rfl⟩) (hij' | ⟨rfl, hj⟩)
      · exact h.oneToOne.right i i' j hij hij'
      · exact absurd (hj ▸ (h.before i j hij).2) (Identity.not_before_made n)
      · exact absurd (h.before i' _ hij').2 (Identity.not_before_made n)
      · rfl
  known := fun i hi => .inl (h.known i hi)
  before := by
    rintro i j (hij | ⟨rfl, rfl⟩)
    · exact ⟨(h.before i j hij).1.mono (Nat.le_succ m), (h.before i j hij).2.mono (Nat.le_succ n)⟩
    · exact ⟨Nat.lt_succ_self m, Nat.lt_succ_self n⟩

end Pairing.Valid

/-- What is known stands for itself, and nothing else is paired. -/
theorem Pairing.valid_eq {known : Identity → Prop} {m n : Nat} (h : ∀ i, known i → i.Before m ∧ i.Before n) :
    Pairing.Valid (fun i j => i = j ∧ known i) known m n where
  oneToOne := ⟨fun _ _ _ h h' => h.1.symm.trans h'.1, fun _ _ _ h h' => h.1.trans h'.1.symm⟩
  known := fun _ hi => ⟨rfl, hi⟩
  before := by
    rintro i _ ⟨rfl, hi⟩
    exact h i hi

/-! ## Contexts -/

/-- How two renders are compared. -/
structure View where
  /-- Whether as many inclusions are under way on both sides. -/
  level : Prop
  /-- Whether there may be functions in values, and so blocks. -/
  functions : Prop
  /-- The identities that stand for themselves. -/
  known : Identity → Prop
  /-- The variables that keep their values. -/
  fixed : String → Option (Val Empty)
  /-- Nothing if the templates on both sides are in the same state, else the state of the one that follows. -/
  apart : Option (RenderFrame Empty)
  /-- Blocks bind a variable, and need the definitions that are queued. -/
  unrestricted : functions → apart = none ∧ fixed = fun _ => none

namespace View

/-- The view of two renders that may hold functions, with the templates on both sides in the same state. -/
def free (level : Prop) (known : Identity → Prop) : View :=
  ⟨level, True, known, fun _ => none, none, fun _ => ⟨rfl, rfl⟩⟩

/-- The view inside of a template, whose state is its own on both sides. -/
def inside (V : View) : View :=
  free V.level V.known

/-- The nodes that a view can follow. -/
def Allows (V : View) : Node Empty → Prop
  | .literal v => v.Known False V.known
  | .loop vars _ _ _ => ∀ x ∈ "forloop" :: vars, V.fixed x = none
  | .block _ => V.functions
  | .cycle _ _ name _ => V.apart = none ∧ ∀ x, name = some x → V.fixed x = none
  | _ => True

def AllowsAll (V : View) (ns : List (Node Empty)) : Prop :=
  ∀ n ∈ ns, n.Throughout V.Allows

/-- Variables that match, with no more inclusions under way on the right than on the left. -/
structure SameScope (V : View) (I : Pairing) (c d : Context Empty) : Prop where
  lookup : ∀ x, Option.Rel (Matches V.functions I) (c.get? x) (d.get? x)
  top : V.apart = none → ∀ x, Option.Rel (Matches V.functions I) (c.top.get? x) (d.top.get? x)
  fixed : ∀ x v, V.fixed x = some v → c.get? x = some v
  depth : d.depth ≤ c.depth
  level : V.level → c.depth = d.depth

/-- States of templates as the view has them. -/
structure SameState (V : View) (r s : RenderFrame Empty) : Prop where
  apart : ∀ frame, V.apart = some frame → s = frame
  together : V.apart = none → r = s
  queues : V.functions → ∀ bs, r.blocks = some bs → ∀ x, ∀ b ∈ bs.queue x, V.AllowsAll b.contents

/-- What two renders have in common apart from their variables. -/
structure InStep (V : View) (I : Pairing) (c d : Context Empty) : Prop where
  pairing : I.Valid V.known c.made d.made
  state : V.SameState c.render d.render

end View

structure Related (V : View) (I : Pairing) (c d : Context Empty) : Prop extends V.InStep I c d where
  scope : V.SameScope I c d

namespace Context

variable {η : Type}

theorem frames_eq_top (c : Context η) : c.frames = c.top :: c.frames.tail := by
  obtain ⟨globals, stack, render, saved, depth, made⟩ := c
  cases stack <;> rfl

theorem get?_eq_top (c : Context η) (x : String) :
    c.get? x = (c.top.get? x).or (c.frames.tail.findSome? (·.get? x)) := by
  rw [get?, frames_eq_top, List.findSome?_cons, List.tail_cons]
  cases c.top.get? x <;> rfl

theorem SameScope.get? {c d : Context η} (h : Context.SameScope ∅ c d) (x : String) :
    d.get? x = c.get? x := by
  rw [get?_eq_top, get?_eq_top, h.below, h.top x (Set.notMem_empty x)]

theorem top_set (c : Context η) (name x : String) (v : Val η) :
    (c.set name v).top.get? x = if name = x then some v else c.top.get? x := by
  obtain ⟨globals, stack, render, saved, depth, made⟩ := c
  cases stack <;> exact Dict.get?_insert _ name x v

theorem set_eq (c : Context η) (name : String) (v : Val η) :
    (c.set name v).made = c.made ∧ (c.set name v).depth = c.depth ∧ (c.set name v).render = c.render := by
  obtain ⟨globals, stack, render, saved, depth, made⟩ := c
  cases stack <;> exact ⟨rfl, rfl, rfl⟩

theorem pop?_eq {c c' : Context η} {f : Dict (Val η)} (h : c.pop? = some (f, c')) :
    c'.made = c.made ∧ c'.render = c.render := by
  obtain ⟨globals, stack, render, saved, depth, made⟩ := c
  cases stack with
  | nil => cases h
  | cons frame stack =>
    obtain ⟨-, rfl⟩ := Prod.mk.inj (Option.some.inj h)
    exact ⟨rfl, rfl⟩

end Context

namespace View.SameScope

variable {V : View} {I J : Pairing} {c d : Context Empty}

theorem mono (h : V.SameScope I c d) (hI : I ≤ J) : V.SameScope J c d :=
  ⟨fun x => optionRel_mono id hI (h.lookup x), fun hV x => optionRel_mono id hI (h.top hV x),
    h.fixed, h.depth, h.level⟩

theorem restored {c' d' : Context Empty} (h : V.SameScope I c d) (hc : Context.SameScope ∅ c c')
    (hd : Context.SameScope ∅ d d') : V.SameScope I c' d' where
  lookup := fun x => by
    rw [hc.get?, hd.get?]
    exact h.lookup x
  top := fun hV x => by
    rw [hc.top x (Set.notMem_empty x), hd.top x (Set.notMem_empty x)]
    exact h.top hV x
  fixed := fun x v hx => (hc.get? x).trans (h.fixed x v hx)
  depth := by
    rw [hc.depth, hd.depth]
    exact h.depth
  level := fun hV => by
    rw [hc.depth, hd.depth]
    exact h.level hV

theorem set (h : V.SameScope I c d) {name : String} (hname : V.fixed name = none) {v w : Val Empty}
    (hv : Matches V.functions I v w) : V.SameScope I (c.set name v) (d.set name w) where
  lookup := fun x => by
    rw [Context.get?_set, Context.get?_set]
    split
    · exact .some hv
    · exact h.lookup x
  top := fun hV x => by
    rw [Context.top_set, Context.top_set]
    split
    · exact .some hv
    · exact h.top hV x
  fixed := fun x u hx => by
    have hne : name ≠ x := by
      rintro rfl
      rw [hname] at hx
      cases hx
    rw [Context.get?_set, if_neg hne]
    exact h.fixed x u hx
  depth := by
    rw [(c.set_eq name v).2.1, (d.set_eq name w).2.1]
    exact h.depth
  level := fun hV => by
    rw [(c.set_eq name v).2.1, (d.set_eq name w).2.1]
    exact h.level hV

theorem push (h : V.SameScope I c d) : V.SameScope I (c.push []) (d.push []) :=
  ⟨h.lookup, fun _ _ => .none, h.fixed, h.depth, h.level⟩

/-- Where an included template starts, its own variables are those in the top frame. -/
theorem included (h : V.SameScope I c d) {f g : Dict (Val Empty)} (hf : EntriesMatch V.functions I f g) :
    V.inside.SameScope I (c.push f) (d.push g) where
  lookup := fun x => by
    rw [Context.get?_push, Context.get?_push]
    have hx := hf.get? x
    generalize Dict.get? f x = o at hx ⊢
    generalize Dict.get? g x = p at hx ⊢
    cases hx with
    | none => exact optionRel_mono (fun _ => trivial) (le_refl I) (h.lookup x)
    | some hv => exact .some (hv.mono (fun _ => trivial) (le_refl I))
  top := fun _ x => optionRel_mono (fun _ => trivial) (le_refl I) (hf.get? x)
  fixed := nofun
  depth := h.depth
  level := h.level

end View.SameScope

theorem View.SameState.queued {V : View} {c d : Context Empty} (h : V.SameState c.render d.render)
    (hV : V.functions) (name : String) : queued? c name = queued? d name ∧
      ∀ b, queued? c name = some b → V.AllowsAll b.contents := by
  refine ⟨congrArg (fun r : RenderFrame Empty => r.blocks.bind (·.first? name))
    (h.together (V.unrestricted hV).1), ?_⟩
  intro b hb
  obtain ⟨bs, hbs, hb⟩ := Option.bind_eq_some_iff.mp hb
  exact h.queues hV bs hbs name b (List.mem_of_mem_head? hb)

namespace Related

variable {V : View} {I J : Pairing} {c d : Context Empty}

theorem fresh (h : Related V I c d) : Related V (I.extend c.made d.made) { c with made := c.made + 1 }
    { d with made := d.made + 1 } where
  pairing := h.pairing.extend
  state := h.state
  scope := { h.scope.mono (I.le_extend _ _) with fixed := h.scope.fixed }

theorem set (h : Related V I c d) {name : String} (hname : V.fixed name = none) {v w : Val Empty}
    (hv : Matches V.functions I v w) : Related V I (c.set name v) (d.set name w) where
  pairing := by
    rw [(c.set_eq name v).1, (d.set_eq name w).1]
    exact h.pairing
  state := by
    rw [(c.set_eq name v).2.2, (d.set_eq name w).2.2]
    exact h.state
  scope := h.scope.set hname hv

theorem push (h : Related V I c d) : Related V I (c.push []) (d.push []) :=
  ⟨⟨h.pairing, h.state⟩, h.scope.push⟩

theorem setAll {names : List String} {vs ws : List (Val Empty)} (h : Related V I c d)
    (hnames : ∀ x ∈ names, V.fixed x = none) (hvs : AllMatch V.functions I vs ws) :
    Related V I (c.setAll names vs) (d.setAll names ws) := by
  have hnil {c d : Context Empty} (h : Related V I c d) : Related V I (c.mapTop id) (d.mapTop id) := by
    rwa [Context.mapTop_id, Context.mapTop_id]
  induction hvs generalizing names c d with
  | nil => cases names <;> exact hnil h
  | cons hv _ ih =>
    cases names with
    | nil => exact hnil h
    | cons x names =>
      obtain ⟨hx, hnames⟩ := List.forall_mem_cons.mp hnames
      have := ih (h.set hx hv) hnames
      unfold Context.setAll Context.set at this
      rwa [Context.mapTop_mapTop, Context.mapTop_mapTop] at this

theorem setPosition (h : Related V I c d) (hV : V.apart = none) (id i : Nat) :
    Related V I (c.setPosition id i) (d.setPosition id i) where
  pairing := h.pairing
  state :=
    { apart := fun frame hframe => by
        rw [hV] at hframe
        cases hframe
      together := fun _ => by
        show RenderFrame.mk _ _ = RenderFrame.mk _ _
        rw [h.state.together hV]
      queues := h.state.queues }
  scope := { h.scope with }

/-- Definitions may be taken off their queues, and allowed ones may be put there. -/
theorem mapBlocks (h : Related V I c d) (hV : V.functions) (f : Blocks Empty → Blocks Empty)
    (hf : ∀ bs, c.render.blocks = some bs → ∀ x, ∀ b ∈ (f bs).queue x, V.AllowsAll b.contents) :
    Related V I (c.mapBlocks f) (d.mapBlocks f) where
  pairing := h.pairing
  state :=
    { apart := fun frame hframe => by
        rw [(V.unrestricted hV).1] at hframe
        cases hframe
      together := fun hV => by
        show RenderFrame.mk _ _ = RenderFrame.mk _ _
        rw [h.state.together hV]
      queues := fun _ bs hbs => by
        obtain ⟨bs', hbs', rfl⟩ := Option.map_eq_some_iff.mp hbs
        exact hf bs' hbs' }
  scope := { h.scope with }

end Related

/-! ## Outcomes -/

/-- The second outcome follows the first one. -/
inductive Follows (A : Error → Prop) (R : Pairing → Context Empty → Context Empty → Prop)
    (Q : Pairing → α → β → Prop) (I : Pairing) :
    Option (Except Error α × Context Empty) → Option (Except Error β × Context Empty) → Prop
  | unfinished (p : Option (Except Error β × Context Empty)) : Follows A R Q I none p
  | result {J : Pairing} {a : α} {b : β} {c d : Context Empty} (hI : I ≤ J) (hcd : R J c d) (hab : Q J a b) :
    Follows A R Q I (some (.ok a, c)) (some (.ok b, d))
  | error {J : Pairing} {c d : Context Empty} (e : Error) (hI : I ≤ J) (hcd : R J c d) :
    Follows A R Q I (some (.error e, c)) (some (.error e, d))
  | abandoned {e : Error} (he : A e) (c : Context Empty) (p : Option (Except Error β × Context Empty)) :
    Follows A R Q I (some (.error e, c)) p

variable {A B : Error → Prop} {R S : Pairing → Context Empty → Context Empty → Prop}
  {Q : Pairing → α → β → Prop} {I J : Pairing}

namespace Follows

variable {o : Option (Except Error α × Context Empty)} {p : Option (Except Error β × Context Empty)}

theorem mono {Q' : Pairing → α → β → Prop} (h : Follows A R Q I o p) (hA : ∀ e, A e → B e) (hJ : J ≤ I)
    (hR : ∀ K c d, I ≤ K → R K c d → S K c d) (hQ : ∀ K a b, I ≤ K → Q K a b → Q' K a b) :
    Follows B S Q' J o p := by
  cases h with
  | unfinished => exact .unfinished p
  | result hI hcd hab => exact .result (hJ.trans hI) (hR _ _ _ hI hcd) (hQ _ _ _ hI hab)
  | error e hI hcd => exact .error e (hJ.trans hI) (hR _ _ _ hI hcd)
  | abandoned he c => exact .abandoned (hA _ he) c p

theorem inStep {V : View} (h : Follows A (Related V) Q I o p) : Follows A V.InStep Q I o p :=
  h.mono (fun _ => id) (le_refl I) (fun _ _ _ _ h => h.toInStep) fun _ _ _ _ => id

theorem exists_ok {a : α} {c : Context Empty} (h : Follows A R Q I (some (.ok a, c)) p) :
    ∃ J b d, I ≤ J ∧ p = some (.ok b, d) ∧ R J c d ∧ Q J a b := by
  cases h with
  | result hI hcd hab => exact ⟨_, _, _, hI, rfl, hcd, hab⟩

/-- If no error matters, it is enough that the second step succeeds where the first one does. -/
theorem of_ok (h : ∀ a c, o = some (.ok a, c) → ∃ J b d, I ≤ J ∧ p = some (.ok b, d) ∧ R J c d ∧ Q J a b) :
    Follows (fun _ => True) R Q I o p := by
  rcases o with _ | ⟨_ | a, c⟩
  · exact .unfinished p
  · exact .abandoned trivial c p
  · obtain ⟨J, b, d, hI, rfl, hcd, hab⟩ := h a c rfl
    exact .result hI hcd hab

/-- Where nothing is abandoned, the second outcome is there if the first one is. -/
theorem exists_rel {o : Except Error α × Context Empty} (h : Follows (fun _ => False) R Q I (some o) p) :
    ∃ q J, p = some q ∧ I ≤ J ∧ R J o.2 q.2 ∧ Except.Rel (Q J) o.1 q.1 := by
  cases h with
  | result hI hcd hab => exact ⟨_, _, rfl, hI, hcd, .ok hab⟩
  | error e hI hcd => exact ⟨_, _, rfl, hI, hcd, .error e⟩
  | abandoned he => exact he.elim

theorem also {L M : Context Empty → Prop} (h : Follows A R Q I o p) (hL : ∀ r c, o = some (r, c) → L c)
    (hM : ∀ r d, p = some (r, d) → M d) : Follows A (fun K c d => R K c d ∧ L c ∧ M d) Q I o p := by
  cases h with
  | unfinished => exact .unfinished p
  | result hI hcd hab => exact .result hI ⟨hcd, hL _ _ rfl, hM _ _ rfl⟩ hab
  | error e hI hcd => exact .error e hI ⟨hcd, hL _ _ rfl, hM _ _ rfl⟩
  | abandoned he c => exact .abandoned he c p

/-- Steps in brackets follow each other if the inner ones do and the closing ones lead back from
wherever those end. -/
theorem bracket {before : RenderM Empty γ} {before' : RenderM Empty δ} {after : γ → RenderM Empty Unit}
    {after' : δ → RenderM Empty Unit} {x : RenderM Empty α} {y : RenderM Empty β}
    {c d c₁ d₁ : Context Empty} {b : γ} {b' : δ} (hb : before c = some (.ok b, c₁))
    (hb' : before' d = some (.ok b', d₁)) (hx : Follows A S Q I (x c₁) (y d₁))
    (hafter : ∀ J c₂ d₂, I ≤ J → S J c₂ d₂ →
      ∃ c₃ d₃, after b c₂ = some (.ok (), c₃) ∧ after' b' d₂ = some (.ok (), d₃) ∧ R J c₃ d₃)
    (hleft : ∀ r c₂, x c₁ = some (r, c₂) → ∃ c₃, after b c₂ = some (.ok (), c₃)) :
    Follows A R Q I (RenderM.bracket before after x c) (RenderM.bracket before' after' y d) := by
  rw [RenderM.bracket_apply hb, RenderM.bracket_apply hb']
  generalize x c₁ = o at hx hleft ⊢
  generalize y d₁ = p at hx ⊢
  cases hx with
  | unfinished => exact .unfinished _
  | result hI hS hab =>
    obtain ⟨c₃, d₃, hc, hd, hR⟩ := hafter _ _ _ hI hS
    simp only [RenderM.bind_apply, hc, hd]
    exact .result hI hR hab
  | error e hI hS =>
    obtain ⟨c₃, d₃, hc, hd, hR⟩ := hafter _ _ _ hI hS
    simp only [RenderM.bind_apply, hc, hd]
    exact .error e hI hR
  | abandoned he c₂ =>
    -- the error is only abandoned if the closing step does not fail over it
    obtain ⟨c₃, hc⟩ := hleft _ c₂ rfl
    simp only [RenderM.bind_apply, hc]
    exact .abandoned he c₃ _

/-- What comes next starts from the contexts and with the pairing that the first steps lead to. -/
theorem andThen {P : Pairing → γ → δ → Prop} {x : RenderM Empty γ} {y : RenderM Empty δ}
    {f : γ → RenderM Empty α} {g : δ → RenderM Empty β} {c d : Context Empty}
    (hx : Follows A S P I (x c) (y d))
    (hf : ∀ J a b c d, I ≤ J → P J a b → S J c d → Follows A S Q J (f a c) (g b d)) :
    Follows A S Q I ((x >>= f) c) ((y >>= g) d) := by
  rw [RenderM.bind_apply, RenderM.bind_apply]
  generalize x c = o at hx ⊢
  generalize y d = p at hx ⊢
  cases hx with
  | unfinished => exact .unfinished _
  | result hI hcd hab =>
    exact (hf _ _ _ _ _ hI hab hcd).mono (fun _ => id) hI (fun _ _ _ _ => id) fun _ _ _ _ => id
  | error e hI hcd => exact .error e hI hcd
  | abandoned he c => exact .abandoned he c _

theorem map {P : Pairing → γ → δ → Prop} {x : RenderM Empty γ} {y : RenderM Empty δ} {f : γ → α} {g : δ → β}
    {c d : Context Empty} (hx : Follows A S P I (x c) (y d))
    (hf : ∀ J a b, I ≤ J → P J a b → Q J (f a) (g b)) :
    Follows A S Q I ((do return f (← x) : RenderM Empty α) c) ((do return g (← y) : RenderM Empty β) d) :=
  hx.andThen fun J a b _ _ hI hab hcd => .result (le_refl J) hcd (hf J a b hI hab)

/-- Under further frames it is enough to stay in step: what the steps do to variables ends with the frames. -/
theorem inFrame {V : View} {x : RenderM Empty α} {y : RenderM Empty β} {c d : Context Empty}
    {f g : Dict (Val Empty)} (hcd : Related V I c d) (hx : Restores Set.univ x) (hy : Restores Set.univ y)
    (h : Follows A V.InStep Q I (x (c.push f)) (y (d.push g))) :
    Follows A (Related V) Q I (RenderM.inFrame f x c) (RenderM.inFrame g y d) := by
  have hbelow {α : Type} {x : RenderM Empty α} (hx : Restores Set.univ x)
      {c : Context Empty} {f : Dict (Val Empty)} {r : Except Error α} {c₂ : Context Empty}
      (hr : x (c.push f) = some (r, c₂)) : Context.Restored Set.univ (c.push f) c₂ :=
      (hx.outcome trivial hr).2
  refine .bracket rfl rfl (h.also (fun _ _ => hbelow hx) (fun _ _ => hbelow hy)) ?_ ?_
  · rintro J c₂ d₂ hJ ⟨hstep, hc₂, hd₂⟩
    obtain ⟨_, c₃, hc, hc₃, -⟩ := hc₂.pop?
    obtain ⟨_, d₃, hd, hd₃, -⟩ := hd₂.pop?
    refine ⟨c₃, d₃, popFrame_discard hc, popFrame_discard hd, ⟨?_, ?_⟩, ?_⟩
    · rw [(Context.pop?_eq hc).1, (Context.pop?_eq hd).1]
      exact hstep.pairing
    · rw [(Context.pop?_eq hc).2, (Context.pop?_eq hd).2]
      exact hstep.state
    · exact (hcd.scope.mono hJ).restored hc₃.toSameScope hd₃.toSameScope
  · intro r c₂ hr
    obtain ⟨_, c₃, hc, -, -⟩ := (hbelow hx hr).pop?
    exact ⟨c₃, popFrame_discard hc⟩

theorem inTemplate {x : RenderM Empty α} {y : RenderM Empty β} {c d : Context Empty} {name : String}
    (h : Follows A R Q I (x c) (y d)) (hA : ∀ e, A e → A (e.inTemplate name)) :
    Follows A R Q I (TemplateTree.inTemplate name x c) (TemplateTree.inTemplate name y d) := by
  rw [inTemplate_apply, inTemplate_apply]
  generalize x c = o at h ⊢
  generalize y d = p at h ⊢
  cases h with
  | unfinished => exact .unfinished _
  | result hI hcd hab => exact .result hI hcd hab
  | error e hI hcd => exact .error _ hI hcd
  | abandoned he c => exact .abandoned (hA _ he) c _

end Follows

/-! ## Steps -/

/-- From related contexts, with any pairing from `I` on, the second step follows the first one. -/
def Simulates (A : Error → Prop) (V : View) (I : Pairing) (Q : Pairing → α → β → Prop) (x : RenderM Empty α)
    (y : RenderM Empty β) : Prop :=
  ∀ J c d, I ≤ J → Related V J c d → Follows A (Related V) Q J (x c) (y d)

namespace Simulates

variable {V : View} {P : Pairing → γ → δ → Prop} {x : RenderM Empty γ} {y : RenderM Empty δ}

theorem later (h : Simulates A V I P x y) (hI : I ≤ J) : Simulates A V J P x y :=
  fun K c d hJ => h K c d (hI.trans hJ)

theorem weaken {P' : Pairing → γ → δ → Prop} (h : Simulates A V I P x y) (hA : ∀ e, A e → B e)
    (hP : ∀ J a b, I ≤ J → P J a b → P' J a b) : Simulates B V I P' x y :=
  fun J c d hJ hcd => (h J c d hJ hcd).mono hA (le_refl J) (fun _ _ _ _ => id) fun K a b hK =>
    hP K a b (hJ.trans hK)

theorem pure {a : α} {b : β} (h : ∀ J c d, I ≤ J → Related V J c d → Q J a b) :
    Simulates A V I Q (pure a) (pure b) :=
  fun J c d hJ hcd => .result (le_refl J) hcd (h J c d hJ hcd)

theorem bind {f : γ → RenderM Empty α} {g : δ → RenderM Empty β} (hx : Simulates A V I P x y)
    (hf : ∀ J a b, I ≤ J → P J a b → Simulates A V J Q (f a) (g b)) : Simulates A V I Q (x >>= f) (y >>= g) :=
  fun J c d hJ hcd => (hx J c d hJ hcd).andThen fun K a b c d hK hab =>
    hf K a b (hJ.trans hK) hab K c d (le_refl K)

theorem map {f : γ → α} {g : δ → β} (hx : Simulates A V I P x y)
    (hf : ∀ J a b, I ≤ J → P J a b → Q J (f a) (g b)) :
    Simulates A V I Q (do return f (← x)) (do return g (← y)) :=
  fun J c d hJ hcd => (hx J c d hJ hcd).map fun K a b hK => hf K a b (hJ.trans hK)

theorem get_bind {f : Context Empty → RenderM Empty α} {g : Context Empty → RenderM Empty β}
    (h : ∀ J c d, I ≤ J → Related V J c d → Follows A (Related V) Q J (f c c) (g d d)) :
    Simulates A V I Q (get >>= f) (get >>= g) :=
  h

theorem ofResult {r : Except Error α} {Q : Pairing → α → α → Prop} (h : ∀ J a, r = .ok a → Q J a a) :
    Simulates A V I Q (RenderM.ofResult r) (RenderM.ofResult r) := by
  intro J c d _ hcd
  cases r with
  | ok a => exact .result (le_refl J) hcd (h J a rfl)
  | error e => exact .error e (le_refl J) hcd

theorem fail (cause : Cause) : Simulates A V I Q (RenderM.fail cause) (RenderM.fail cause) :=
  fun J _ _ _ hcd => .error _ (le_refl J) hcd

theorem ofFault {r : Except RenderFault α} {s : Except RenderFault β}
    (h : ∀ J c d, I ≤ J → Related V J c d → Except.Rel (Q J) r s) :
    Simulates A V I Q (RenderM.ofFault r) (RenderM.ofFault s) := by
  intro J c d hJ hcd
  cases h J c d hJ hcd with
  | ok hab => exact .result (le_refl J) hcd hab
  | error fault => exact .error _ (le_refl J) hcd

theorem ofFault_of_ok {r : Except RenderFault α} {s : Except RenderFault β}
    (h : ∀ J c d a, I ≤ J → Related V J c d → r = .ok a → ∃ b, s = .ok b ∧ Q J a b) :
    Simulates (fun _ => True) V I Q (RenderM.ofFault r) (RenderM.ofFault s) := by
  intro J c d hJ hcd
  cases r with
  | error fault => exact .abandoned trivial c _
  | ok a =>
    obtain ⟨b, rfl, hab⟩ := h J c d a hJ hcd rfl
    exact .result (le_refl J) hcd hab

theorem update {f g : Context Empty → Context Empty}
    (h : ∀ J c d, I ≤ J → Related V J c d → Related V J (f c) (g d)) :
    Simulates A V I (fun _ _ _ => True) (RenderM.update f) (RenderM.update g) :=
  fun J c d hJ hcd => .result (le_refl J) (h J c d hJ hcd) trivial

theorem bindVar {name : String} (hname : V.fixed name = none) {v w : Val Empty}
    (hv : Matches V.functions I v w) :
    Simulates A V I (fun _ _ _ => True) (RenderM.bindVar name v) (RenderM.bindVar name w) :=
  .update fun _ _ _ hJ hcd => hcd.set hname (hv.mono id hJ)

theorem newIdentity : Simulates A V I (fun J i j => J i j) RenderM.newIdentity RenderM.newIdentity :=
  fun J _ _ _ hcd => .result (J.le_extend _ _) hcd.fresh (.inr ⟨rfl, rfl⟩)

theorem ite {x' : RenderM Empty γ} {y' : RenderM Empty δ} (p : Prop) [Decidable p]
    (hx : Simulates A V I P x y) (hx' : Simulates A V I P x' y') :
    Simulates A V I P (if p then x else x') (if p then y else y') := by
  by_cases h : p
  · rwa [if_pos h, if_pos h]
  · rwa [if_neg h, if_neg h]

end Simulates

end TemplateTree
