import TemplateTree.Proofs.Restoration

/-!
# The walk to the root

A template is rendered by a walk from it up to the root of its chain. Each round of the walk looks
whether the name of the template at hand was visited, queues the blocks of the template and looks up its
parent. The walk ends within one round more than there are templates, since the names visited are
distinct names of templates. It ends at a name that comes again, at a parent that is not there or at a
root, whichever the parents lead to first.
-/

namespace TemplateTree

open RenderM

variable {η : Type}

/-! ## Engines as they are built -/

namespace Engine

inductive Built : Engine η → Prop
  | new (mode : Mode (Callable η)) (limit : Nat) : Built ⟨mode, [], limit⟩
  | add {engine : Engine η} (h : Built engine) (t : Template η) : Built (engine.add t)

theorem Built.name_eq {engine : Engine η} (h : engine.Built) : ∀ {name : String} {t : Template η},
    engine.template? name = some t → t.name = name := by
  induction h with
  | new _ _ => nofun
  | @add engine _ u ih =>
    intro name t ht
    rw [template?, Engine.add, Dict.get?_insert] at ht
    split at ht
    · next hu =>
      obtain rfl := Option.some.inj ht
      exact hu
    · exact ih ht

/-! ## The names that the parents lead to -/

/-- The parents of templates lead from a name to another one. The list has the names on the way, without
the last. -/
inductive Leads (engine : Engine η) : String → List String → String → Prop
  | here (name : String) : Leads engine name [] name
  | up {name parent last : String} {names : List String} {t : Template η} (h : engine.template? name = some t)
    (hparent : t.parent = some parent) (hrest : Leads engine parent names last) :
    Leads engine name (name :: names) last

/-- No parent leads further from a name. -/
def IsEnd (engine : Engine η) (name : String) : Prop :=
  ∀ t, engine.template? name = some t → t.parent = none

namespace Leads

variable {engine : Engine η} {start last last' : String} {names names' : List String}

theorem snoc {t : Template η} {parent : String} (h : engine.Leads start names last)
    (ht : engine.template? last = some t) (hparent : t.parent = some parent) :
    engine.Leads start (names ++ [last]) parent := by
  induction h with
  | here _ => exact .up ht hparent (.here parent)
  | up hname hup _ ih => exact .up hname hup (ih ht)

theorem split {name : String} : ∀ {names : List String} {start : String},
    engine.Leads start (names ++ name :: names') last →
      engine.Leads start names name ∧ engine.Leads name (name :: names') last
  | [], _, h => by
    cases h with
    | up ht hparent hrest => exact ⟨.here _, .up ht hparent hrest⟩
  | _ :: _, _, h => by
    cases h with
    | up ht hparent hrest =>
      obtain ⟨hbefore, hbehind⟩ := split hrest
      exact ⟨.up ht hparent hbefore, hbehind⟩

theorem total (h : engine.Leads start names last) :
    ∀ {names' : List String}, engine.Leads start names' last' →
    (∃ rest, names' = names ++ rest ∧ engine.Leads last rest last') ∨
      ∃ rest, names = names' ++ rest ∧ engine.Leads last' rest last := by
  induction h with
  | here _ => exact fun h' => .inl ⟨_, rfl, h'⟩
  | @up name parent last names t ht hparent hrest ih =>
    intro names' h'
    cases h' with
    | here _ => exact .inr ⟨_, rfl, .up ht hparent hrest⟩
    | @up _ parent' _ names' t' ht' hparent' hrest' =>
      obtain rfl : t = t' := Option.some.inj (ht.symm.trans ht')
      obtain rfl : parent = parent' := Option.some.inj (hparent.symm.trans hparent')
      rcases ih hrest' with ⟨rest, rfl, h⟩ | ⟨rest, rfl, h⟩
      · exact .inl ⟨rest, rfl, h⟩
      · exact .inr ⟨rest, rfl, h⟩

theorem exists_parent (h : engine.Leads start names last) {name : String} (hname : name ∈ names) :
    ∃ t parent, engine.template? name = some t ∧ t.parent = some parent ∧
      (parent ∈ names ∨ parent = last) := by
  obtain ⟨names₁, names₂, rfl⟩ := List.append_of_mem hname
  cases h.split.2 with
  | @up _ parent _ _ t ht hparent hrest =>
    refine ⟨t, parent, ht, hparent, ?_⟩
    cases hrest with
    | here _ => exact .inr rfl
    | up _ _ _ => exact .inl (List.mem_append_right _ (List.mem_cons_of_mem _ (List.mem_cons_self ..)))

theorem not_isEnd (h : engine.Leads start names last) {name : String} (hname : name ∈ names) :
    ¬ engine.IsEnd name := by
  intro hend
  obtain ⟨t, parent, ht, hparent, -⟩ := h.exists_parent hname
  cases (hend t ht).symm.trans hparent

theorem mem_of_cycle (h : engine.Leads start names last) (hlast : last ∈ names) {name : String}
    (h' : engine.Leads name names' last') (hname : name ∈ names) : last' ∈ names := by
  induction h' with
  | here _ => exact hname
  | @up name parent _ _ t ht hparent _ ih =>
    obtain ⟨t', parent', ht', hparent', hnext⟩ := h.exists_parent hname
    obtain rfl : t = t' := Option.some.inj (ht.symm.trans ht')
    obtain rfl : parent = parent' := Option.some.inj (hparent.symm.trans hparent')
    exact ih (hnext.elim id fun heq => heq ▸ hlast)

theorem nodup (h : engine.Leads start names last) (hend : engine.IsEnd last) : (names ++ [last]).Nodup := by
  induction h with
  | here _ => exact List.nodup_singleton _
  | @up name parent last names t ht hparent hrest ih =>
    -- If the first name comes again, the way goes on in a cycle, where no name is an end.
    refine List.nodup_cons.mpr ⟨fun hmem => ?_, ih hend⟩
    have hway : engine.Leads name (name :: names) last := .up ht hparent hrest
    rcases List.mem_append.mp hmem with hmem | hmem
    · obtain ⟨names₁, names₂, rfl⟩ := List.append_of_mem hmem
      have hcycle : engine.Leads name (name :: names₁) name := .up ht hparent hrest.split.1
      have hlast := hcycle.mem_of_cycle (List.mem_cons_self ..) hway (List.mem_cons_self ..)
      exact hcycle.not_isEnd hlast hend
    · obtain rfl := List.mem_singleton.mp hmem
      exact hway.not_isEnd (List.mem_cons_self ..) hend

theorem nil_of_stop {rest : List String} (h : engine.Leads last rest last') (hnodup : (names ++ rest).Nodup)
    (hstop : last ∈ names ∨ engine.IsEnd last) : rest = [] ∧ last = last' := by
  cases h with
  | here _ => exact ⟨rfl, rfl⟩
  | up ht hparent _ =>
    exfalso
    rcases hstop with hmem | hend
    · exact (List.nodup_append.mp hnodup).2.2 _ hmem _ (List.mem_cons_self ..) rfl
    · cases (hend _ ht).symm.trans hparent

/-- There is one way from a name, without a name twice, to where a name comes again or no parent leads
further. -/
theorem stop_unique (h : engine.Leads start names last)
    (h' : engine.Leads start names' last') (hnodup : names.Nodup)
    (hnodup' : names'.Nodup) (hstop : last ∈ names ∨ engine.IsEnd last)
    (hstop' : last' ∈ names' ∨ engine.IsEnd last') : names = names' ∧ last = last' := by
  rcases h.total h' with ⟨rest, rfl, hrest⟩ | ⟨rest, rfl, hrest⟩
  · obtain ⟨rfl, rfl⟩ := hrest.nil_of_stop hnodup' hstop
    exact ⟨(List.append_nil _).symm, rfl⟩
  · obtain ⟨rfl, rfl⟩ := hrest.nil_of_stop hnodup hstop'
    exact ⟨List.append_nil _, rfl⟩

end Leads

def definition? (engine : Engine η) (x name : String) : Option (Block η) :=
  (engine.template? name).bind (·.blocks.get? x)

end Engine

/-! ## Rounds -/

/-- The state of a walk: the names visited, the template at hand, and the context with the blocks queued
so far. -/
structure Walk (η : Type) where
  visited : List String
  template : Template η
  context : Context η

namespace Walk

def cycleError (start : String) (visited : List String) (again : String) : Error :=
  (Error.ofCause (.cyclicParents again visited)).inTemplate start

def missingError (child name : String) : Error :=
  (Error.ofCause (.noTemplate [name])).inTemplate child

/-- One round of a walk, with the next state or with how the walk ends: at an error, or at a root. -/
def round (engine : Engine η) (start : String) (w : Walk η) :
    Walk η ⊕ Except Error (Template η × Context η) :=
  if w.template.name ∈ w.visited then .inr (.error (cycleError start w.visited w.template.name))
  else match w.template.parent with
    | none => .inr (.ok (w.template, w.context.addLevel w.template.blocks))
    | some name =>
      match engine.template? name with
      | none => .inr (.error (missingError w.template.name name))
      | some parent => .inl ⟨w.visited ++ [w.template.name], parent, w.context.addLevel w.template.blocks⟩

/-- How a walk ends, if it does so within a number of rounds. -/
def run (engine : Engine η) (start : String) : Nat → Walk η → Option (Except Error (Template η × Context η))
  | 0, _ => none
  | rounds + 1, w =>
    match round engine start w with
    | .inl w' => run engine start rounds w'
    | .inr outcome => some outcome

def proceed (engine : Engine η) (render : Renderer η) :
    Except Error (Template η × Context η) → RenderM η (Val η)
  | .error e => ofResult (.error e)
  | .ok (root, c) =>
    bracket (update fun _ => c) (fun _ => leaveTemplate)
      (inTemplate root.name (renderFragment engine render root.contents))

section
variable {engine : Engine η} {start : String} {w w' : Walk η}
  {outcome : Except Error (Template η × Context η)}

theorem round_eq_inl (h : round engine start w = .inl w') : w.template.name ∉ w.visited ∧
    ∃ name, w.template.parent = some name ∧ engine.template? name = some w'.template ∧
      w'.visited = w.visited ++ [w.template.name] ∧ w'.context = w.context.addLevel w.template.blocks := by
  unfold round at h
  split at h
  · cases h
  · next hvisited =>
    split at h
    · cases h
    · next name hparent =>
      split at h
      · cases h
      · next parent hname =>
        obtain rfl := Sum.inl.inj h
        exact ⟨hvisited, name, hparent, hname, rfl, rfl⟩

theorem round_eq_inr (h : round engine start w = .inr outcome) :
    w.template.name ∈ w.visited ∧ outcome = .error (cycleError start w.visited w.template.name) ∨
    w.template.name ∉ w.visited ∧
      ((∃ name, w.template.parent = some name ∧ engine.template? name = none ∧
        outcome = .error (missingError w.template.name name)) ∨
      w.template.parent = none ∧ outcome = .ok (w.template, w.context.addLevel w.template.blocks)) := by
  unfold round at h
  split at h
  · next hvisited =>
    obtain rfl := Sum.inr.inj h
    exact .inl ⟨hvisited, rfl⟩
  · next hvisited =>
    refine .inr ⟨hvisited, ?_⟩
    split at h
    · next hparent =>
      obtain rfl := Sum.inr.inj h
      exact .inr ⟨hparent, rfl⟩
    · next name hparent =>
      split at h
      · next hname =>
        obtain rfl := Sum.inr.inj h
        exact .inl ⟨name, hparent, hname, rfl⟩
      · cases h

theorem followParents_of_run {rounds fuel : Nat} {w : Walk η} (h : run engine start rounds w = some outcome)
    (hfuel : rounds ≤ fuel) :
    (∀ e, outcome = .error e → engine.followParents start fuel w.visited w.template = .error e) ∧
    ∀ root c, outcome = .ok (root, c) → ∃ derived,
      engine.followParents start fuel w.visited w.template = .ok ⟨derived, root⟩ ∧
        c = queueBlocks w.context (derived ++ [root]) := by
  induction rounds generalizing fuel w with
  | zero => cases h
  | succ rounds ih =>
    obtain ⟨fuel, rfl⟩ : ∃ k, fuel = k + 1 := Nat.exists_eq_succ_of_ne_zero (by omega)
    rw [run] at h
    rw [Engine.followParents]
    split at h
    · next w' hround =>
      obtain ⟨hvisited, name, hparent, hname, hvisited', hcontext'⟩ := round_eq_inl hround
      obtain ⟨herror, hok⟩ := ih h (Nat.le_of_succ_le_succ hfuel)
      rw [if_neg (by simpa using hvisited), hparent, ← hvisited']
      simp only [Engine.template, hname]
      refine ⟨fun e he => ?_, fun root c hc => ?_⟩
      · rw [herror e he]
        rfl
      · obtain ⟨derived, hfollow, rfl⟩ := hok root c hc
        rw [hfollow, hcontext']
        exact ⟨w.template :: derived, rfl, rfl⟩
    · next hround =>
      obtain rfl := Option.some.inj h
      rcases round_eq_inr hround with ⟨hvisited, rfl⟩ | ⟨hvisited,
        ⟨name, hparent, hname, rfl⟩ | ⟨hparent, rfl⟩⟩
      · rw [if_pos (by simpa using hvisited)]
        refine ⟨fun e he => congrArg Except.error (Except.error.inj he), fun _ _ hc => ?_⟩
        cases hc
      · rw [if_neg (by simpa using hvisited), hparent]
        simp only [Engine.template, hname]
        refine ⟨fun e he => congrArg Except.error (Except.error.inj he), fun _ _ hc => ?_⟩
        cases hc
      · rw [if_neg (by simpa using hvisited), hparent]
        refine ⟨fun _ he => ?_, fun root c hc => ?_⟩
        · cases he
        · obtain ⟨rfl, rfl⟩ := Prod.mk.inj (Except.ok.inj hc)
          exact ⟨[], rfl, rfl⟩

theorem renderTemplate_of_run {rounds : Nat} {t : Template η} {c : Context η}
    (h : run engine t.name rounds ⟨[], t, c.enter⟩ = some outcome)
    (hrounds : rounds ≤ engine.templates.length + 1) (render : Renderer η) :
    renderTemplate engine render t c = proceed engine render outcome c := by
  have hfuel : rounds ≤ engine.templates.length + 2 := Nat.le_succ_of_le hrounds
  obtain ⟨herror, hok⟩ := followParents_of_run h hfuel
  have henter : (update (·.enter) : RenderM η Unit) c = some (.ok (), c.enter) := rfl
  unfold renderTemplate
  rw [bracket_apply henter]
  cases outcome with
  | error e =>
    rw [renderChain_of_error (herror e rfl)]
    rfl
  | ok r =>
    obtain ⟨root, c'⟩ := r
    obtain ⟨derived, hchain, rfl⟩ := hok root c' rfl
    have hstart : (update fun _ => queueBlocks c.enter (derived ++ [root]) : RenderM η Unit) c =
        some (.ok (), queueBlocks c.enter (derived ++ [root])) := rfl
    rw [renderChain_of_ok hchain, proceed, bracket_apply hstart]
    rfl

/-! ## The invariant -/

/-- What is known between two rounds of the walk from a template. -/
structure Reached (engine : Engine η) (start : String) (w : Walk η) : Prop where
  leads : engine.Leads start w.visited w.template.name
  nodup : w.visited.Nodup
  registered : engine.template? w.template.name = some w.template
  queue : ∀ x, (w.context.queue? x).getD [] = w.visited.filterMap (engine.definition? x)

inductive Ending (engine : Engine η) (start : String) : Except Error (Template η × Context η) → Prop
  | cycle {visited : List String} {again : String}
      (leads : engine.Leads start visited again) (nodup : visited.Nodup)
    (mem : again ∈ visited) : Ending engine start (.error (cycleError start visited again))
  | missing {visited : List String} {child name : String}
      (leads : engine.Leads start (visited ++ [child]) name)
    (missing : engine.template? name = none) : Ending engine start (.error (missingError child name))
  | root {visited : List String} {root : Template η} {c : Context η}
      (leads : engine.Leads start visited root.name)
    (registered : engine.template? root.name = some root) (hroot : root.parent = none)
    (queue : ∀ x, c.queue? x = some ((visited ++ [root.name]).filterMap (engine.definition? x))) :
    Ending engine start (.ok (root, c))

theorem Reached.queue_addLevel (h : Reached engine start w) (x : String) :
    (w.context.addLevel w.template.blocks).queue? x =
      some ((w.visited ++ [w.template.name]).filterMap (engine.definition? x)) := by
  have hdefinition : engine.definition? x w.template.name = w.template.blocks.get? x := by
    rw [Engine.definition?, h.registered, Option.bind_some]
  rw [Context.queue?_addLevel _ w.template.blocks_nodup, h.queue, List.filterMap_append, List.filterMap_cons,
    hdefinition]
  cases w.template.blocks.get? x <;> rfl

theorem Reached.next (hengine : engine.Built) (h : Reached engine start w)
    (hround : round engine start w = .inl w') :
    Reached engine start w' ∧ w'.visited.length = w.visited.length + 1 := by
  obtain ⟨hvisited, name, hparent, hname, hvisited', hcontext'⟩ := round_eq_inl hround
  refine ⟨⟨?_, ?_, ?_, fun x => ?_⟩, ?_⟩
  · rw [hvisited', hengine.name_eq hname]
    exact h.leads.snoc h.registered hparent
  · rw [hvisited', List.nodup_append_comm]
    exact List.nodup_cons.mpr ⟨hvisited, h.nodup⟩
  · rw [hengine.name_eq hname, hname]
  · rw [hcontext', hvisited', h.queue_addLevel, Option.getD_some]
  · rw [hvisited', List.length_append, List.length_singleton]

theorem Reached.ending (h : Reached engine start w) (hround : round engine start w = .inr outcome) :
    Ending engine start outcome := by
  rcases round_eq_inr hround with ⟨hvisited, rfl⟩ | ⟨-, ⟨name, hparent, hname, rfl⟩ | ⟨hparent, rfl⟩⟩
  · exact .cycle h.leads h.nodup hvisited
  · exact .missing (h.leads.snoc h.registered hparent) hname
  · exact .root h.leads h.registered hparent h.queue_addLevel

theorem Reached.visited_le (h : Reached engine start w) : w.visited.length ≤ engine.templates.length := by
  have hsub : w.visited.Subperm engine.templates.keys := by
    refine List.subperm_of_subset h.nodup fun name hname => ?_
    obtain ⟨t, _, ht, -⟩ := h.leads.exists_parent hname
    by_contra hmem
    cases (Dict.get?_eq_none_iff.mpr hmem).symm.trans ht
  simpa [Dict.keys] using hsub.length_le

theorem Reached.ends (hengine : engine.Built) : ∀ {left : Nat} {w : Walk η}, Reached engine start w →
    engine.templates.length ≤ w.visited.length + left →
    ∃ outcome, run engine start (left + 1) w = some outcome ∧
      Ending engine start outcome
  -- By the number of templates not yet visited: a round that goes on visits one of them.
  | left, w, h, hleft => by
    rw [run]
    cases hround : round engine start w with
    | inr outcome => exact ⟨outcome, rfl, h.ending hround⟩
    | inl w' =>
      obtain ⟨h', hvisited'⟩ := h.next hengine hround
      have hle := h'.visited_le
      cases left with
      | zero => omega
      | succ left => exact ends hengine h' (by omega)

/-! ## Where the parents lead -/

theorem cycleError_inj {visited visited' : List String} {again again' : String}
    (h : cycleError start visited again = cycleError start visited' again') :
    visited = visited' ∧ again = again' := by
  have hcause : Cause.cyclicParents again visited = .cyclicParents again' visited' := congrArg Error.cause h
  obtain ⟨rfl, rfl⟩ := Cause.cyclicParents.inj hcause
  exact ⟨rfl, rfl⟩

theorem missingError_inj {child child' name name' : String}
    (h : missingError child name = missingError child' name') :
    child = child' ∧ name = name' := by
  have hcause : Cause.noTemplate [name] = .noTemplate [name'] := congrArg Error.cause h
  have htemplate : some child = some child' := congrArg Error.template h
  exact ⟨Option.some.inj htemplate, (List.cons.inj (Cause.noTemplate.inj hcause)).1⟩

theorem cycleError_ne {visited : List String} {again child name : String} :
    cycleError start visited again ≠ missingError child name := by
  intro h
  have hcause : Cause.cyclicParents again visited = .noTemplate [name] := congrArg Error.cause h
  cases hcause

theorem isEnd_of_missing {name : String} (h : engine.template? name = none) : engine.IsEnd name := by
  intro t ht
  cases h.symm.trans ht

theorem isEnd_of_root {root : Template η} (h : engine.template? root.name = some root)
    (hroot : root.parent = none) : engine.IsEnd root.name := by
  intro t ht
  obtain rfl : root = t := Option.some.inj (h.symm.trans ht)
  exact hroot

theorem not_cycle_of_isEnd {names visited : List String} {last again : String}
    (h : engine.Leads start names last) (hend : engine.IsEnd last)
    (h' : engine.Leads start visited again) (hnodup : visited.Nodup)
    (hmem : again ∈ visited) : False := by
  obtain ⟨rfl, rfl⟩ := h.stop_unique h' (List.nodup_append.mp (h.nodup hend)).1 hnodup (.inr hend) (.inl hmem)
  exact h.not_isEnd hmem hend

theorem end_unique {names names' : List String} {last last' : String} (h : engine.Leads start names last)
    (hend : engine.IsEnd last) (h' : engine.Leads start names' last') (hend' : engine.IsEnd last') :
    names = names' ∧ last = last' :=
  h.stop_unique h' (List.nodup_append.mp (h.nodup hend)).1
    (List.nodup_append.mp (h'.nodup hend')).1 (.inr hend) (.inr hend')

namespace Ending

variable (h : Ending engine start outcome)
include h

theorem cycle_iff {visited : List String} {again : String} :
    outcome = .error (cycleError start visited again) ↔
      engine.Leads start visited again ∧ visited.Nodup ∧ again ∈ visited := by
  constructor
  · intro heq
    cases h with
    | cycle leads nodup mem =>
      obtain ⟨rfl, rfl⟩ := cycleError_inj (Except.error.inj heq)
      exact ⟨leads, nodup, mem⟩
    | missing _ _ => exact absurd (Except.error.inj heq).symm cycleError_ne
    | root _ _ _ _ => cases heq
  · rintro ⟨leads', nodup', mem'⟩
    cases h with
    | cycle leads nodup mem =>
      obtain ⟨rfl, rfl⟩ := leads.stop_unique leads' nodup nodup' (.inl mem) (.inl mem')
      rfl
    | missing leads missing =>
      exact (not_cycle_of_isEnd leads (isEnd_of_missing missing) leads' nodup' mem').elim
    | root leads registered hroot _ =>
      exact (not_cycle_of_isEnd leads (isEnd_of_root registered hroot) leads' nodup' mem').elim

theorem missing_iff {child name : String} : outcome = .error (missingError child name) ↔
    engine.template? name = none ∧ ∃ visited, engine.Leads start (visited ++ [child]) name := by
  constructor
  · intro heq
    cases h with
    | cycle _ _ _ => exact absurd (Except.error.inj heq) cycleError_ne
    | @missing visited _ _ leads missing =>
      obtain ⟨rfl, rfl⟩ := missingError_inj (Except.error.inj heq)
      exact ⟨missing, visited, leads⟩
    | root _ _ _ _ => cases heq
  · rintro ⟨missing', visited', leads'⟩
    have hend' := isEnd_of_missing missing'
    cases h with
    | cycle leads nodup mem => exact (not_cycle_of_isEnd leads' hend' leads nodup mem).elim
    | missing leads missing =>
      obtain ⟨hnames, rfl⟩ := end_unique leads (isEnd_of_missing missing) leads' hend'
      obtain ⟨-, hchild⟩ := List.append_inj' hnames rfl
      rw [(List.cons.inj hchild).1]
    | root leads registered hroot _ =>
      obtain ⟨-, rfl⟩ := end_unique leads (isEnd_of_root registered hroot) leads' hend'
      cases missing'.symm.trans registered

theorem root_iff {root : Template η} : (∃ c, outcome = .ok (root, c)) ↔
    engine.template? root.name = some root ∧ root.parent = none ∧
    ∃ visited, engine.Leads start visited root.name := by
  constructor
  · rintro ⟨c, heq⟩
    cases h with
    | cycle _ _ _ => cases heq
    | missing _ _ => cases heq
    | @root visited _ _ leads registered hroot _ =>
      obtain ⟨rfl, -⟩ := Prod.mk.inj (Except.ok.inj heq)
      exact ⟨registered, hroot, visited, leads⟩
  · rintro ⟨registered', hroot', visited', leads'⟩
    have hend' := isEnd_of_root registered' hroot'
    cases h with
    | cycle leads nodup mem => exact (not_cycle_of_isEnd leads' hend' leads nodup mem).elim
    | missing leads missing =>
      obtain ⟨-, rfl⟩ := end_unique leads (isEnd_of_missing missing) leads' hend'
      cases missing.symm.trans registered'
    | @root _ root' c leads registered hroot _ =>
      obtain ⟨-, hname⟩ := end_unique leads (isEnd_of_root registered hroot) leads' hend'
      rw [hname, registered'] at registered
      obtain rfl := Option.some.inj registered
      exact ⟨c, rfl⟩

/-- The queues have their fronts at the end of the list. -/
theorem queue_reverse {root : Template η} {c : Context η} (heq : outcome = .ok (root, c)) :
    ∃ visited, engine.Leads start visited root.name ∧ ∀ x, (c.queue? x).map List.reverse =
      some ((root.name :: visited.reverse).filterMap (engine.definition? x)) := by
  cases h with
  | cycle _ _ _ => cases heq
  | missing _ _ => cases heq
  | @root visited _ _ leads registered hroot queue =>
    obtain ⟨rfl, rfl⟩ := Prod.mk.inj (Except.ok.inj heq)
    refine ⟨visited, leads, fun x => ?_⟩
    rw [queue, Option.map_some, ← List.filterMap_reverse, List.reverse_append, List.reverse_singleton,
      List.singleton_append]

end Ending

end

end Walk

/-- The walk up the chain of a registered template ends within one round more than there are templates,
in one of three ways. Rendering goes on from there. -/
theorem Engine.Built.walk_ends {engine : Engine η} (hengine : engine.Built) {t : Template η}
    (ht : engine.template? t.name = some t) (c : Context η) :
    ∃ rounds ≤ engine.templates.length + 1, ∃ outcome,
      Walk.run engine t.name rounds ⟨[], t, c.enter⟩ = some outcome ∧
      (∀ render, renderTemplate engine render t c = Walk.proceed engine render outcome c) ∧
      ((∃ visited again, outcome = .error (Walk.cycleError t.name visited again)) ∨
        (∃ child name, outcome = .error (Walk.missingError child name)) ∨
        ∃ root c', outcome = .ok (root, c')) ∧
      (∀ visited again, outcome = .error (Walk.cycleError t.name visited again) ↔
        engine.Leads t.name visited again ∧ visited.Nodup ∧ again ∈ visited) ∧
      (∀ child name, outcome = .error (Walk.missingError child name) ↔
        engine.template? name = none ∧ ∃ visited, engine.Leads t.name (visited ++ [child]) name) ∧
      (∀ root, (∃ c', outcome = .ok (root, c')) ↔
        engine.template? root.name = some root ∧ root.parent = none ∧
        ∃ visited, engine.Leads t.name visited root.name) ∧
      ∀ root c', outcome = .ok (root, c') → ∃ visited, engine.Leads t.name visited root.name ∧
        ∀ x, (c'.queue? x).map List.reverse =
          some ((root.name :: visited.reverse).filterMap (engine.definition? x)) := by
  have hstart : Walk.Reached engine t.name ⟨[], t, c.enter⟩ := ⟨.here _, List.nodup_nil, ht, fun _ => rfl⟩
  obtain ⟨outcome, hrun, hending⟩ := hstart.ends hengine (Nat.le_add_left engine.templates.length 0)
  refine ⟨_, Nat.le_refl _, outcome, hrun, Walk.renderTemplate_of_run hrun (Nat.le_refl _), ?_,
    fun _ _ => hending.cycle_iff, fun _ _ => hending.missing_iff, fun _ => hending.root_iff,
    fun _ _ => hending.queue_reverse⟩
  cases hending with
  | cycle _ _ _ => exact .inl ⟨_, _, rfl⟩
  | missing _ _ => exact .inr (.inl ⟨_, _, rfl⟩)
  | root _ _ _ _ => exact .inr (.inr ⟨_, _, rfl⟩)

/-- The cycle that a walk ends in need not lead through the template where it began. -/
theorem walk_ends_in_cycle :
    let a : Template Empty := ⟨"a", some "b", [], [], rfl⟩
    let b : Template Empty := ⟨"b", some "a", [], [], rfl⟩
    let page : Template Empty := ⟨"page", some "a", [], [], rfl⟩
    let engine := ((Engine.html.add a).add b).add page
    ∃ rounds ≤ engine.templates.length + 1, Walk.run engine "page" rounds ⟨[], page, Context.empty.enter⟩ =
      some (.error (Walk.cycleError "page" ["page", "a", "b"] "a")) := by
  intro a b page engine
  have hbuilt : engine.Built := .add (.add (.add (.new Html.mode Engine.defaultIncludeDepth) a) b) page
  have ha : engine.template? "a" = some a := by
    simp [engine, Engine.template?, Engine.add, Dict.get?_insert, page, a, b]
  have hb : engine.template? "b" = some b := by
    simp [engine, Engine.template?, Engine.add, Dict.get?_insert, page, b]
  have hpage : engine.template? page.name = some page := by
    simp [engine, Engine.template?, Engine.add]
  obtain ⟨rounds, hrounds, outcome, hrun, -, -, hcycle, -⟩ := hbuilt.walk_ends hpage Context.empty
  obtain rfl := (hcycle ["page", "a", "b"] "a").mpr
    ⟨.up hpage rfl (.up ha rfl (.up hb rfl (.here "a"))), by decide, by decide⟩
  exact ⟨rounds, hrounds, hrun⟩

end TemplateTree
