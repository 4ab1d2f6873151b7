import Mathlib.Data.List.Nodup
import Mathlib.Data.List.Perm.Subperm
import TemplateTree.Proofs.Occurrence
import TemplateTree.Proofs.Scopes

/-!
# Chains of templates

A chain without a name that comes back is found to its root, since no chain of distinct templates is
longer than the registry. The queue of a name then holds what the templates of the chain define, one
definition a template, because the blocks of a template have distinct names.
-/

namespace TemplateTree

variable {η α : Type}

/-! ## Distinct keys -/

namespace Dict

theorem insert_perm {d : Dict α} {key : String} (h : d.get? key = none) (v : α) :
    (d.insert key v).Perm ((key, v) :: d) := by
  induction d with
  | nil => exact .refl _
  | cons e d ih =>
    obtain ⟨k, w⟩ := e
    have hk : k ≠ key := by
      intro heq
      subst heq
      simp [get?] at h
    have hd : get? d key = none := by simpa [get?, hk] using h
    simp only [insert, if_neg hk]
    split
    · exact .refl _
    · exact ((ih hd).cons _).trans (.swap ..)

theorem get?_eq_none_iff {d : Dict α} {key : String} : d.get? key = none ↔ key ∉ d.keys := by
  induction d with
  | nil => simp [keys]
  | cons e d ih =>
    obtain ⟨k, v⟩ := e
    by_cases h : k = key
    · simp [get?, keys, h]
    · have h' : key ≠ k := fun hk => h hk.symm
      simpa [get?, keys, h, h'] using ih

theorem get?_of_mem {key : String} {v : α} : ∀ {d : Dict α},
    d.keys.Nodup → (key, v) ∈ d → d.get? key = some v
  | (k, w) :: d, h, hmem => by
    obtain ⟨hk, hd⟩ := List.nodup_cons.mp h
    rw [get?]
    rcases List.mem_cons.mp hmem with heq | hmem
    · obtain ⟨rfl, rfl⟩ := Prod.mk.inj heq
      rw [if_pos rfl]
    · have hne : k ≠ key := fun heq => hk (List.mem_map.mpr ⟨(key, v), hmem, heq.symm⟩)
      rw [if_neg hne, get?_of_mem hd hmem]

end Dict

theorem perm_of_declare : ∀ {bs : List (Block η)} {d d' : Dict (Block η)}, declare d bs = .ok d' →
    d'.Perm (d ++ bs.map fun b => (b.name, b)) ∧ (d.keys.Nodup → d'.keys.Nodup)
  | [], d, d', h => by
    obtain rfl := Except.ok.inj h
    simp
  | b :: bs, d, d', h => by
    simp only [declare] at h
    split at h
    · cases h
    · next hb =>
      have hnone : d.get? b.name = none := by simpa [Dict.has] using hb
      have hperm := Dict.insert_perm hnone b
      obtain ⟨ih, ihkeys⟩ := perm_of_declare h
      refine ⟨?_, fun hd => ihkeys ?_⟩
      · refine (ih.trans (hperm.append_right _)).trans ?_
        simpa using List.perm_middle.symm
      · have hkeys : (d.insert b.name b).keys.Perm (b.name :: d.keys) := hperm.map _
        exact hkeys.nodup_iff.mpr (List.nodup_cons.mpr ⟨Dict.get?_eq_none_iff.mp hnone, hd⟩)

theorem declare_pair {a b : Block η} (hne : a.name ≠ b.name) (hlt : ¬ b.name < a.name) :
    declare [] [a, b] = .ok [(a.name, a), (b.name, b)] := by
  simp [declare, Dict.has, Dict.get?, Dict.insert, hne, hlt]

namespace Template

theorem blocks_perm (t : Template η) :
    t.blocks.Perm ((Node.blocksOfAll t.contents).map fun b => (b.name, b)) := by
  simpa using (perm_of_declare t.declared).1

theorem blocks_nodup (t : Template η) : t.blocks.keys.Nodup :=
  (perm_of_declare t.declared).2 List.nodup_nil

theorem mem_of_get? {t : Template η} {name : String} {b : Block η} (h : t.blocks.get? name = some b) :
    b.name = name ∧ b ∈ Node.blocksOfAll t.contents := by
  have hmem := t.blocks_perm.mem_iff.mp (Dict.mem_of_get? h)
  obtain ⟨b', hb', heq⟩ := List.mem_map.mp hmem
  obtain ⟨rfl, rfl⟩ := Prod.mk.inj heq
  exact ⟨rfl, hb'⟩

end Template

/-! ## Queues -/

theorem Blocks.queue_addLevel :
    ∀ {level : Dict (Block η)} (_ : level.keys.Nodup) (bs : Blocks η) (x : String),
    (bs.addLevel level).queue x = bs.queue x ++ (level.get? x).toList
  | [], _, bs, x => by simp [addLevel]
  | (name, b) :: level, h, bs, x => by
    obtain ⟨hname, h⟩ := List.nodup_cons.mp h
    have hrest := queue_addLevel h (Dict.insert bs name (bs.queue name ++ [b])) x
    refine hrest.trans ?_
    rw [queue_insert, Dict.get?]
    by_cases hx : name = x
    · subst hx
      rw [if_pos rfl, if_pos rfl, Dict.get?_eq_none_iff.mpr hname]
      simp
    · rw [if_neg hx, if_neg hx]

namespace Context

theorem queue?_addLevel (c : Context η) {level : Dict (Block η)} (h : level.keys.Nodup) (x : String) :
    (c.addLevel level).queue? x = some ((c.queue? x).getD [] ++ (level.get? x).toList) := by
  simp only [queue?, addLevel, setBlocks, Option.map_some, Blocks.queue_addLevel h]
  cases c.render.blocks <;> rfl

theorem queue?_queueBlocks : ∀ (ts : List (Template η)) (t : Template η) (c : Context η) (x : String),
    (queueBlocks c (t :: ts)).queue? x = some ((c.queue? x).getD [] ++ (t :: ts).filterMap (·.blocks.get? x))
  | [], t, c, x => by
    refine (queue?_addLevel c t.blocks_nodup x).trans ?_
    cases h : t.blocks.get? x <;> simp [h]
  | u :: ts, t, c, x => by
    refine (queue?_queueBlocks ts u (c.addLevel t.blocks) x).trans ?_
    rw [queue?_addLevel c t.blocks_nodup x]
    cases h : t.blocks.get? x <;> simp [h]

end Context

namespace Chain

theorem root_mem (c : Chain η) : c.root ∈ c.templates :=
  List.mem_append_right _ (List.mem_singleton.mpr rfl)

theorem templates_ne_nil (c : Chain η) : c.templates ≠ [] :=
  List.ne_nil_of_mem c.root_mem

/-- What the templates of a chain define under a name, the most derived definition first. -/
def definitions (c : Chain η) (name : String) : List (Block η) :=
  c.templates.filterMap (·.blocks.get? name)

theorem queue?_queueBlocks (chain : Chain η) {c : Context η} (h : c.render.blocks = none) (x : String) :
    (queueBlocks c chain.templates).queue? x = some (chain.definitions x) := by
  obtain ⟨t, ts, hts⟩ := List.exists_cons_of_ne_nil chain.templates_ne_nil
  have hqueue : c.queue? x = none := by simp [Context.queue?, h]
  rw [definitions, hts, Context.queue?_queueBlocks, hqueue]
  rfl

def Holds (c : Chain η) (n : Node η) : Prop :=
  ∃ t ∈ c.templates, ∃ m ∈ t.contents, m.Contains n

theorem holds_of_mem_definitions {c : Chain η} {name : String} {b : Block η} (h : b ∈ c.definitions name) :
    b.name = name ∧ c.Holds (.block b) := by
  obtain ⟨t, ht, hb⟩ := List.mem_filterMap.mp h
  obtain ⟨hname, hmem⟩ := Template.mem_of_get? hb
  exact ⟨hname, t, ht, Node.exists_contains_of_mem hmem⟩

theorem Holds.child {c : Chain η} {n m : Node η} (h : c.Holds n) (hm : m ∈ n.children) : c.Holds m := by
  obtain ⟨t, ht, k, hk, hn⟩ := h
  exact ⟨t, ht, k, hk, hn.tail hm⟩

end Chain

/-! ## The way to the root -/

/-- The chain of a template that derives from registered templates up to one without a parent. -/
inductive Engine.Derives (engine : Engine η) : Template η → Chain η → Prop
  | root {t : Template η} (h : t.parent = none) : Derives engine t ⟨[], t⟩
  | parent {t u : Template η} {name : String} {c : Chain η} (h : t.parent = some name)
    (hname : engine.template? name = some u) (hc : Derives engine u c) :
    Derives engine t ⟨t :: c.derived, c.root⟩

theorem Engine.subperm_of_registered {engine : Engine η} {ts : List (Template η)} (hdistinct : ts.Nodup)
    (hregistered : ∀ t ∈ ts, ∃ name, engine.template? name = some t) :
    ts.Subperm (engine.templates.map (·.2)) := by
  refine List.subperm_of_subset hdistinct fun t ht => ?_
  obtain ⟨name, hname⟩ := hregistered t ht
  exact List.mem_map_of_mem (Dict.mem_of_get? hname)

namespace Engine.Derives

variable {engine : Engine η} {t : Template η} {c : Chain η}

theorem exists_cons (h : engine.Derives t c) :
    ∃ ts, c.templates = t :: ts ∧ ∀ u ∈ ts, ∃ name, engine.template? name = some u := by
  induction h with
  | root _ => exact ⟨[], rfl, nofun⟩
  | @parent t u name c _ hname _ ih =>
    obtain ⟨ts, hts, hregistered⟩ := ih
    refine ⟨u :: ts, congrArg (t :: ·) hts, ?_⟩
    intro v hv
    rcases List.mem_cons.mp hv with rfl | hv
    · exact ⟨name, hname⟩
    · exact hregistered v hv

theorem followParents_eq {start : String} (h : engine.Derives t c) : ∀ {rounds : Nat} {visited : List String},
    c.templates.length ≤ rounds → (visited ++ c.templates.map (·.name)).Nodup →
      engine.followParents start rounds visited t = .ok c := by
  induction h with
  | root hparent =>
    intro rounds visited hrounds hnodup
    obtain ⟨rounds, rfl⟩ := Nat.exists_eq_succ_of_ne_zero (Nat.ne_of_gt hrounds)
    have hvisited := (List.nodup_append.mp hnodup).2.2
    simp only [Engine.followParents]
    rw [if_neg, hparent]
    intro hmem
    exact hvisited _ (by simpa using hmem) _ (List.mem_singleton.mpr rfl) rfl
  | @parent t u name c hparent hname _ ih =>
    intro rounds visited hrounds hnodup
    obtain ⟨rounds, rfl⟩ :=
      Nat.exists_eq_succ_of_ne_zero (Nat.ne_of_gt (Nat.lt_of_lt_of_le (Nat.succ_pos _) hrounds))
    have hvisited := (List.nodup_append.mp hnodup).2.2
    have hrest : engine.followParents start rounds (visited ++ [t.name]) u = .ok c :=
      ih (Nat.le_of_succ_le_succ hrounds) (by simpa [Chain.templates] using hnodup)
    simp only [Engine.followParents, Engine.template]
    rw [if_neg, hparent]
    · simp only [hname, hrest]
      rfl
    · intro hmem
      exact hvisited _ (by simpa using hmem) t.name (List.mem_cons_self ..) rfl

/-- A chain of templates with distinct names is found. -/
theorem chain_eq (h : engine.Derives t c) (hnodup : (c.templates.map (·.name)).Nodup) :
    engine.chain t = .ok c := by
  obtain ⟨ts, hts, hregistered⟩ := h.exists_cons
  refine h.followParents_eq ?_ (by simpa using hnodup)
  have hdistinct : (t :: ts).Nodup := by
    rw [hts] at hnodup
    exact .of_map _ hnodup
  have hlength := (subperm_of_registered (List.nodup_cons.mp hdistinct).2 hregistered).length_le
  rw [hts, List.length_cons]
  simp only [List.length_map] at hlength
  omega

end Engine.Derives

theorem Engine.derives_of_followParents {engine : Engine η} {start : String} : ∀ {rounds : Nat}
    {visited : List String} {t : Template η} {c : Chain η},
      engine.followParents start rounds visited t = .ok c → engine.Derives t c
  | 0, _, _, _, h => nomatch h
  | rounds + 1, visited, t, c, h => by
    simp only [Engine.followParents, Engine.template] at h
    split at h
    · cases h
    · split at h
      · next hparent =>
        rw [← Except.ok.inj h]
        exact .root hparent
      · next name hparent =>
        cases hname : engine.template? name with
        | none =>
          rw [hname] at h
          cases h
        | some u =>
          rw [hname] at h
          obtain ⟨c', hc', h⟩ := Except.ok_of_bind h
          rw [← Except.ok.inj h]
          exact .parent hparent hname (derives_of_followParents hc')

theorem Engine.mem_chain {engine : Engine η} {t u : Template η} {c : Chain η} (h : engine.chain t = .ok c)
    (hu : u ∈ c.templates) : u = t ∨ ∃ name, engine.template? name = some u := by
  obtain ⟨ts, hts, hregistered⟩ := (Engine.derives_of_followParents h).exists_cons
  rw [hts] at hu
  exact (List.mem_cons.mp hu).imp_right (hregistered u)

theorem Engine.nodup_of_followParents {engine : Engine η} {start : String} : ∀ {rounds : Nat}
    {visited : List String} {t : Template η} {c : Chain η},
    engine.followParents start rounds visited t = .ok c →
      (∀ u ∈ c.templates, u.name ∉ visited) ∧ (c.templates.map (·.name)).Nodup
  | 0, _, _, _, h => nomatch h
  | rounds + 1, visited, t, c, h => by
    simp only [Engine.followParents, Engine.template] at h
    split at h
    · cases h
    · next hvisited =>
      have ht : t.name ∉ visited := by simpa using hvisited
      split at h
      · rw [← Except.ok.inj h]
        simpa [Chain.templates] using ht
      · next name _ =>
        cases hname : engine.template? name with
        | none =>
          rw [hname] at h
          cases h
        | some u =>
          rw [hname] at h
          obtain ⟨c', hc', h⟩ := Except.ok_of_bind h
          rw [← Except.ok.inj h]
          obtain ⟨hnew, hnodup⟩ := nodup_of_followParents hc'
          simp only [List.mem_append, List.mem_singleton, not_or] at hnew
          refine ⟨List.forall_mem_cons.mpr ⟨ht, fun u hu => (hnew u hu).1⟩, List.nodup_cons.mpr ⟨?_, hnodup⟩⟩
          intro hmem
          obtain ⟨u, hu, heq⟩ := List.mem_map.mp hmem
          exact (hnew u hu).2 heq

end TemplateTree
