import TemplateTree.Proofs.Chains

/-!
# Declared blocks

A template is made exactly where the blocks that its contents declare have distinct names, and it knows
each of them by its name. What a list of nodes declares is told apart by address, that is by the way
down to it, since one block may stand in several places. The declared blocks are those in the contents
of nodes. A block that is an attribute of an element, a value of a cycle or a variable of an inclusion
is not among them.
-/

namespace TemplateTree

variable {η : Type}

/-! ## Addresses -/

namespace Node

/-- The nodes inside of a node that stand in its contents, by their numbers. -/
def InContents : Node η → Nat → Prop
  | .element _ attributes _, i => attributes.length ≤ i
  | .inclusion .., _ | .cycle .., _ => False
  | _, _ => True

/-- All nodes inside of a node, attributes, values of cycles and variables of inclusions too. -/
def Anywhere : Node η → Nat → Prop :=
  fun _ _ => True

/-- Whether the way down from a node, always to nodes that stand in the right place, leads to another one. -/
def At (place : Node η → Nat → Prop) : Node η → List Nat → Node η → Prop
  | n, [], m => n = m
  | n, i :: p, m => place n i ∧ ∃ k, n.children[i]? = some k ∧ At place k p m

/-- Whether a block is at an address in a list of nodes whose first one has the number `start`. -/
def BlockFrom (place : Node η → Nat → Prop) (start : Nat) (ns : List (Node η))
    (p : List Nat) (b : Block η) : Prop :=
  ∃ i q n, p = (start + i) :: q ∧ ns[i]? = some n ∧ n.At place q (.block b)

abbrev BlockAt (place : Node η → Nat → Prop) (ns : List (Node η)) (p : List Nat) (b : Block η) : Prop :=
  BlockFrom place 0 ns p b

theorem At.eq {place : Node η → Nat → Prop} : ∀ {p : List Nat} {n m m' : Node η},
    n.At place p m → n.At place p m' → m = m'
  | [], _, _, _, h, h' => h.symm.trans h'
  | _ :: _, _, _, _, ⟨_, k, hk, h⟩, ⟨_, k', hk', h'⟩ => by
    obtain rfl : k = k' := Option.some.inj (hk.symm.trans hk')
    exact h.eq h'

section
variable {place : Node η → Nat → Prop} {start : Nat} {ns ms : List (Node η)} {n : Node η} {p : List Nat}
  {b b' : Block η}

theorem BlockFrom.eq (h : BlockFrom place start ns p b) (h' : BlockFrom place start ns p b') : b = b' := by
  obtain ⟨i, q, n, rfl, hn, hb⟩ := h
  obtain ⟨i', q', n', hp, hn', hb'⟩ := h'
  obtain ⟨hi, rfl⟩ := List.cons.inj hp
  obtain rfl : i = i' := Nat.add_left_cancel hi
  obtain rfl : n = n' := Option.some.inj (hn.symm.trans hn')
  exact Node.block.inj (hb.eq hb')

theorem BlockFrom.start_le (h : BlockFrom place start ns p b) :
    ∃ i q, p = i :: q ∧ start ≤ i ∧ i < start + ns.length := by
  obtain ⟨i, q, n, rfl, hn, -⟩ := h
  obtain ⟨hi, -⟩ := List.getElem?_eq_some_iff.mp hn
  exact ⟨start + i, q, rfl, Nat.le_add_right .., Nat.add_lt_add_left hi start⟩

theorem blockFrom_nil : ¬ BlockFrom place start ([] : List (Node η)) p b :=
  fun ⟨_, _, _, _, hn, _⟩ => nomatch hn

theorem blockFrom_cons : BlockFrom place start (n :: ns) p b ↔
    (∃ q, p = start :: q ∧ n.At place q (.block b)) ∨ BlockFrom place (start + 1) ns p b := by
  constructor
  · rintro ⟨_ | i, q, m, rfl, hm, hb⟩
    · obtain rfl := Option.some.inj hm
      exact .inl ⟨q, rfl, hb⟩
    · exact .inr ⟨i, q, m, by rw [Nat.add_assoc, Nat.add_comm 1], hm, hb⟩
  · rintro (⟨q, rfl, hb⟩ | ⟨i, q, m, rfl, hm, hb⟩)
    · exact ⟨0, q, n, rfl, rfl, hb⟩
    · exact ⟨i + 1, q, m, by rw [Nat.add_assoc, Nat.add_comm 1], hm, hb⟩

theorem blockFrom_append : BlockFrom place start (ns ++ ms) p b ↔
    BlockFrom place start ns p b ∨ BlockFrom place (start + ns.length) ms p b := by
  induction ns generalizing start with
  | nil => exact ⟨.inr, fun h => h.resolve_left blockFrom_nil⟩
  | cons n ns ih =>
    rw [List.cons_append, blockFrom_cons, blockFrom_cons, ih, or_assoc, List.length_cons, Nat.add_assoc,
      Nat.add_comm 1]

theorem not_blockFrom_here : ¬ BlockFrom place start ns [] b :=
  fun ⟨_, _, _, hp, _⟩ => nomatch hp

/-- Where all that is inside of a node, from some number on, stands in its contents, what is declared
there is what the node declares below itself. -/
theorem at_block_iff (before : List (Node η)) {i : Nat} (hchildren : n.children = before ++ ns)
    (hcontents : ∀ i, n.InContents i ↔ before.length ≤ i) :
    n.At InContents (i :: p) (.block b) ↔ BlockFrom InContents before.length ns (i :: p) b := by
  constructor
  · rintro ⟨hi, m, hm, hb⟩
    rw [hcontents] at hi
    rw [hchildren, List.getElem?_append_right hi] at hm
    exact ⟨i - before.length, p, m, by rw [Nat.add_sub_cancel' hi], hm, hb⟩
  · rintro ⟨j, q, m, hp, hm, hb⟩
    obtain ⟨rfl, rfl⟩ := List.cons.inj hp
    refine ⟨(hcontents _).mpr (Nat.le_add_right ..), m, ?_, hb⟩
    rw [hchildren, List.getElem?_append_right (Nat.le_add_right ..), Nat.add_sub_cancel_left, hm]

end

end Node

/-! ## Lists of blocks and their addresses -/

/-- The blocks that stand somewhere, one for each of their addresses. -/
structure Enumerates (stands : List Nat → Block η → Prop) (ps : List (List Nat))
    (bs : List (Block η)) : Prop where
  nodup : ps.Nodup
  each : List.Forall₂ stands ps bs
  all : ∀ p b, stands p b → p ∈ ps

namespace Enumerates

variable {stands : List Nat → Block η → Prop} {ps : List (List Nat)} {bs : List (Block η)} {p q : List Nat}
  {b b' : Block η}

theorem stands_getElem (h : Enumerates stands ps bs) {i : Nat} (hi : bs[i]? = some b) :
    ∃ p, ps[i]? = some p ∧ stands p b := by
  obtain ⟨hlt, rfl⟩ := List.getElem?_eq_some_iff.mp hi
  have hlt' : i < ps.length := h.each.length_eq ▸ hlt
  exact ⟨ps[i], List.getElem?_eq_getElem hlt', h.each.get hlt' hlt⟩

theorem exists_stands (h : Enumerates stands ps bs) (hp : p ∈ ps) : ∃ b, stands p b := by
  obtain ⟨i, hi, rfl⟩ := List.getElem_of_mem hp
  exact ⟨_, h.each.get hi (h.each.length_eq ▸ hi)⟩

theorem exists_index (h : Enumerates stands ps bs) (hstands : ∀ {p b b'}, stands p b → stands p b' → b = b')
    (hb : stands p b) : ∃ i : Nat, ps[i]? = some p ∧ bs[i]? = some b := by
  obtain ⟨i, hi, rfl⟩ := List.getElem_of_mem (h.all p b hb)
  have hi' : i < bs.length := h.each.length_eq ▸ hi
  obtain rfl := hstands hb (h.each.get hi hi')
  exact ⟨i, List.getElem?_eq_getElem hi, List.getElem?_eq_getElem hi'⟩

theorem mem_iff (h : Enumerates stands ps bs) (hstands : ∀ {p b b'}, stands p b → stands p b' → b = b') :
    b ∈ bs ↔ ∃ p, stands p b := by
  constructor
  · intro hb
    obtain ⟨i, hi⟩ := List.getElem?_of_mem hb
    obtain ⟨p, -, hp⟩ := h.stands_getElem hi
    exact ⟨p, hp⟩
  · rintro ⟨p, hp⟩
    obtain ⟨i, -, hi⟩ := h.exists_index hstands hp
    exact List.mem_of_getElem? hi

theorem address_eq (h : Enumerates stands ps bs) (hstands : ∀ {p b b'}, stands p b → stands p b' → b = b')
    (hbs : (bs.map Block.name).Nodup) (hb : stands p b) (hb' : stands q b') (hname : b.name = b'.name) :
    p = q := by
  obtain ⟨i, hp, hi⟩ := h.exists_index hstands hb
  obtain ⟨j, hq, hj⟩ := h.exists_index hstands hb'
  -- Equal blocks may stand at two addresses, so their places in the list are compared.
  have hij : i = j := by
    have hi' : (bs.map Block.name)[i]? = some b.name := by rw [List.getElem?_map, hi, Option.map_some]
    have hj' : (bs.map Block.name)[j]? = some b.name := by rw [List.getElem?_map, hj, Option.map_some, hname]
    exact (List.getElem?_inj (List.getElem?_eq_some_iff.mp hi').1 hbs).mp (hi'.trans hj'.symm)
  subst hij
  exact Option.some.inj (hp.symm.trans hq)

theorem exists_addresses {bs₁ bs₂ : List (Block η)}
    (h : Enumerates stands ps (bs₁ ++ b :: bs₂)) (hb' : b' ∈ bs₁) :
    ∃ p q, p ≠ q ∧ stands p b ∧ stands q b' := by
  obtain ⟨i, hi⟩ := List.getElem?_of_mem hb'
  have hlt : i < bs₁.length := (List.getElem?_eq_some_iff.mp hi).1
  obtain ⟨q, hq, hqb⟩ := h.stands_getElem ((List.getElem?_append_left hlt).trans hi)
  obtain ⟨p, hp, hpb⟩ := h.stands_getElem (i := bs₁.length)
    (by rw [List.getElem?_append_right (Nat.le_refl _), Nat.sub_self, List.getElem?_cons_zero])
  refine ⟨p, q, ?_, hpb, hqb⟩
  rintro rfl
  have hi' : i = bs₁.length :=
    (List.getElem?_inj (List.getElem?_eq_some_iff.mp hq).1 h.nodup).mp (hq.trans hp.symm)
  exact absurd hi' (Nat.ne_of_lt hlt)

end Enumerates

def Listed (stands : List Nat → Block η → Prop) (bs : List (Block η)) : Prop :=
  ∃ ps, Enumerates stands ps bs

namespace Listed

variable {stands stands' : List Nat → Block η → Prop} {bs bs' : List (Block η)}

theorem congr (h : Listed stands bs) (hstands : ∀ p b, stands' p b ↔ stands p b) : Listed stands' bs := by
  obtain ⟨ps, h⟩ := h
  exact ⟨ps, h.nodup, h.each.imp fun p b => (hstands p b).mpr, fun p b hb => h.all p b ((hstands p b).mp hb)⟩

theorem nil (h : ∀ p b, ¬ stands p b) : Listed stands [] :=
  ⟨[], List.nodup_nil, .nil, fun p b hb => absurd hb (h p b)⟩

theorem cons {b : Block η} (h : Listed stands bs) (hnil : ∀ b, ¬ stands [] b) :
    Listed (fun p b' => p = [] ∧ b' = b ∨ stands p b') (b :: bs) := by
  obtain ⟨ps, h⟩ := h
  refine ⟨[] :: ps, List.nodup_cons.mpr ⟨fun hmem => ?_, h.nodup⟩, ?_, ?_⟩
  · obtain ⟨b', hb'⟩ := h.exists_stands hmem
    exact hnil b' hb'
  · exact .cons (.inl ⟨rfl, rfl⟩) (h.each.imp fun p b => .inr)
  · rintro p b' (⟨rfl, rfl⟩ | hb)
    · exact List.mem_cons_self ..
    · exact List.mem_cons_of_mem _ (h.all p b' hb)

theorem under (i : Nat) (h : Listed stands bs) : Listed (fun p b => ∃ q, p = i :: q ∧ stands q b) bs := by
  obtain ⟨ps, h⟩ := h
  refine ⟨ps.map (i :: ·), h.nodup.map fun p q hpq => (List.cons.inj hpq).2, ?_, ?_⟩
  · exact List.forall₂_map_left_iff.mpr (h.each.imp fun p b hb => ⟨p, rfl, hb⟩)
  · rintro _ b ⟨q, rfl, hb⟩
    exact List.mem_map_of_mem (h.all q b hb)

theorem append (h : Listed stands bs) (h' : Listed stands' bs')
    (hne : ∀ p b b', stands p b → ¬ stands' p b') :
    Listed (fun p b => stands p b ∨ stands' p b) (bs ++ bs') := by
  obtain ⟨ps, h⟩ := h
  obtain ⟨ps', h'⟩ := h'
  refine ⟨ps ++ ps', List.nodup_append.mpr ⟨h.nodup, h'.nodup, ?_⟩, ?_, ?_⟩
  · rintro p hp _ hp' rfl
    obtain ⟨b, hb⟩ := h.exists_stands hp
    obtain ⟨b', hb'⟩ := h'.exists_stands hp'
    exact hne p b b' hb hb'
  · exact List.rel_append (h.each.imp fun _ _ => .inl) (h'.each.imp fun _ _ => .inr)
  · rintro p b (hb | hb)
    · exact List.mem_append_left _ (h.all p b hb)
    · exact List.mem_append_right _ (h'.all p b hb)

end Listed

namespace Node

theorem listed_append {start : Nat} {ns ms : List (Node η)} {bs bs' : List (Block η)}
    (h : Listed (BlockFrom InContents start ns) bs)
    (h' : Listed (BlockFrom InContents (start + ns.length) ms) bs') :
    Listed (BlockFrom InContents start (ns ++ ms)) (bs ++ bs') := by
  refine (h.append h' ?_).congr fun p b => blockFrom_append
  intro p b b' hb hb'
  obtain ⟨i, q, rfl, -, hi⟩ := hb.start_le
  obtain ⟨j, q', hp, hj, -⟩ := hb'.start_le
  obtain rfl := (List.cons.inj hp).1
  exact absurd hi (Nat.not_lt.mpr hj)

theorem listed_children {n : Node η} {ns : List (Node η)} {bs : List (Block η)} (before : List (Node η))
    (h : Listed (BlockFrom InContents before.length ns) bs) (hchildren : n.children = before ++ ns)
    (hcontents : ∀ i, n.InContents i ↔ before.length ≤ i) (hn : ∀ b, n ≠ .block b) :
    Listed (fun p b => n.At InContents p (.block b)) bs := by
  refine h.congr fun p b => ?_
  cases p with
  | nil => exact iff_of_false (hn b) not_blockFrom_here
  | cons i q => exact at_block_iff before hchildren hcontents

theorem listed_none {n : Node η} (hcontents : ∀ i, ¬ (n.InContents i ∧ i < n.children.length))
    (hn : ∀ b, n ≠ .block b) : Listed (fun p b => n.At InContents p (.block b)) [] := by
  refine .nil fun p b h => ?_
  cases p with
  | nil => exact hn b h
  | cons i q =>
    obtain ⟨hi, m, hm, -⟩ := h
    exact hcontents i ⟨hi, (List.getElem?_eq_some_iff.mp hm).1⟩

mutual

theorem listed_blocks : ∀ n : Node η, Listed (fun p b => n.At InContents p (.block b)) n.blocks
  | .element _ attributes contents =>
    listed_children (attributes.map (·.2)) (listed_blocksOfAll _ contents) rfl
      (fun _ => by rw [List.length_map]; rfl) (by simp)
  | .loop _ _ contents fallback | .cond _ contents fallback =>
    listed_children [] (listed_append (listed_blocksOfAll 0 contents) (listed_blocksOfAll _ fallback)) rfl
      (fun i => ⟨fun _ => Nat.zero_le i, fun _ => trivial⟩) (by simp)
  | .block b => listed_inner b
  | .empty contents | .otherwise contents =>
    listed_children [] (listed_blocksOfAll 0 contents) rfl
      (fun i => ⟨fun _ => Nat.zero_le i, fun _ => trivial⟩) (by simp)
  | .inclusion .. | .cycle .. => listed_none (fun _ h => h.1) (by simp)
  | .literal _ | .text _ | .var _ | .doctype _ | .host _ =>
    listed_none (fun _ h => absurd h.2 (Nat.not_lt_zero _)) (by simp)

theorem listed_inner :
    ∀ b : Block η, Listed (fun p b' => (Node.block b).At InContents p (.block b')) (b :: b.inner)
  | .mk name contents => by
    refine ((listed_blocksOfAll 0 contents).cons fun _ => not_blockFrom_here).congr fun p b => ?_
    cases p with
    | nil =>
      rw [or_iff_left not_blockFrom_here]
      exact ⟨fun h => ⟨rfl, (Node.block.inj h).symm⟩, fun h => congrArg Node.block h.2.symm⟩
    | cons i q =>
      rw [or_iff_right fun h => List.cons_ne_nil i q h.1]
      exact at_block_iff [] rfl fun i => ⟨fun _ => Nat.zero_le i, fun _ => trivial⟩

theorem listed_blocksOfAll : ∀ (start : Nat) (ns : List (Node η)),
    Listed (BlockFrom InContents start ns) (blocksOfAll ns)
  | _, [] => .nil fun _ _ => blockFrom_nil
  | start, n :: ns => by
    have hn : Listed (BlockFrom InContents start [n]) n.blocks := by
      refine ((listed_blocks n).under start).congr fun p b => ?_
      rw [blockFrom_cons, or_iff_left blockFrom_nil]
    exact listed_append hn (listed_blocksOfAll (start + 1) ns)

end

end Node

/-! ## Names -/

/-- The first name that comes again is the one in the error. -/
theorem declare_eq_error : ∀ {bs : List (Block η)} {d : Dict (Block η)} {e : Error}, declare d bs = .error e →
    ∃ bs₁ b bs₂, bs = bs₁ ++ b :: bs₂ ∧ b.name ∈ d.keys ++ bs₁.map Block.name ∧
      e = .ofCause (.duplicateBlock b.name)
  | b :: bs, d, e, h => by
    simp only [declare] at h
    split at h
    · next hb =>
      obtain rfl := Except.error.inj h
      have hmem : b.name ∈ d.keys := by
        by_contra hmem
        rw [Dict.has, Dict.get?_eq_none_iff.mpr hmem] at hb
        cases hb
      exact ⟨[], b, bs, rfl, List.mem_append_left _ hmem, rfl⟩
    · next hb =>
      have hnone : d.get? b.name = none := by simpa [Dict.has] using hb
      obtain ⟨bs₁, b', bs₂, rfl, hmem, rfl⟩ := declare_eq_error h
      refine ⟨b :: bs₁, b', bs₂, rfl, ?_, rfl⟩
      have hkeys : (d.insert b.name b).keys.Perm (b.name :: d.keys) := (Dict.insert_perm hnone b).map _
      have hperm := (hkeys.append_right (bs₁.map Block.name)).trans List.perm_middle.symm
      exact hperm.mem_iff.mp hmem

namespace Template

variable {name : String} {parent : Option String} {contents : List (Node η)}

theorem make_eq_ok {t : Template η} (h : make name parent contents = .ok t) :
    t.name = name ∧ t.parent = parent ∧ t.contents = contents := by
  unfold make at h
  split at h
  · obtain rfl := Except.ok.inj h
    exact ⟨rfl, rfl, rfl⟩
  · cases h

theorem make_eq_error {e : Error} (h : make name parent contents = .error e) :
    declare [] (Node.blocksOfAll contents) = .error e := by
  unfold make at h
  split at h
  · cases h
  · next h' =>
    obtain rfl := Except.error.inj h
    exact h'

/-- A template is made where no two of the blocks that its contents declare have the same name. It then
knows them all, each by its name, and otherwise the error tells such a name. -/
theorem make_declares (name : String) (parent : Option String) (contents : List (Node η)) :
    ((∃ t, make name parent contents = .ok t) ↔
      ∀ p q b b', Node.BlockAt Node.InContents contents p b → Node.BlockAt Node.InContents contents q b' →
        b.name = b'.name → p = q) ∧
    (∀ t, make name parent contents = .ok t →
      (t.name = name ∧ t.parent = parent ∧ t.contents = contents) ∧
      ∀ x b, t.blocks.get? x = some b ↔ b.name = x ∧ ∃ p, Node.BlockAt Node.InContents contents p b) ∧
    (∀ e, make name parent contents = .error e →
      ∃ p q b b', p ≠ q ∧ Node.BlockAt Node.InContents contents p b ∧
        Node.BlockAt Node.InContents contents q b' ∧ b.name = b'.name ∧ e.kind = .templateSyntax ∧
        e = .ofCause (.duplicateBlock b.name)) := by
  obtain ⟨ps, hps⟩ := Node.listed_blocksOfAll 0 contents
  have herror : ∀ e, make name parent contents = .error e → ∃ p q b b', p ≠ q ∧
      Node.BlockAt Node.InContents contents p b ∧ Node.BlockAt Node.InContents contents q b' ∧
      b.name = b'.name ∧ e.kind = .templateSyntax ∧ e = .ofCause (.duplicateBlock b.name) := by
    intro e he
    obtain ⟨bs₁, b, bs₂, hbs, hmem, rfl⟩ := declare_eq_error (make_eq_error he)
    obtain ⟨b', hb', hname⟩ := List.mem_map.mp hmem
    rw [hbs] at hps
    obtain ⟨p, q, hpq, hp, hq⟩ := hps.exists_addresses hb'
    exact ⟨p, q, b, b', hpq, hp, hq, hname.symm, rfl, rfl⟩
  refine ⟨⟨?_, ?_⟩, ?_, herror⟩
  · rintro ⟨t, ht⟩ p q b b' hp hq hname
    obtain ⟨-, -, rfl⟩ := make_eq_ok ht
    refine hps.address_eq Node.BlockFrom.eq ?_ hp hq hname
    have hkeys : t.blocks.keys.Perm _ := t.blocks_perm.map _
    rw [List.map_map] at hkeys
    exact hkeys.nodup_iff.mp t.blocks_nodup
  · intro h
    cases ht : make name parent contents with
    | ok t => exact ⟨t, rfl⟩
    | error e =>
      obtain ⟨p, q, b, b', hpq, hp, hq, hname, -⟩ := herror e ht
      exact absurd (h p q b b' hp hq hname) hpq
  · intro t ht
    obtain ⟨hname, hparent, rfl⟩ := make_eq_ok ht
    refine ⟨⟨hname, hparent, rfl⟩, fun x b => ?_⟩
    rw [← hps.mem_iff Node.BlockFrom.eq]
    constructor
    · exact mem_of_get?
    · rintro ⟨rfl, hb⟩
      exact Dict.get?_of_mem t.blocks_nodup (t.blocks_perm.mem_iff.mpr (List.mem_map_of_mem hb))

/-- An attribute of an element is not looked at. -/
theorem make_misses_attribute : ∃ t : Template Empty,
    make "page" none [.element "p" [("title", .block (.mk "a" []))] [], .block (.mk "a" [])] = .ok t ∧
      Node.BlockAt Node.Anywhere t.contents [0, 0] (.mk "a" []) ∧
      Node.BlockAt Node.Anywhere t.contents [1] (.mk "a" []) :=
  ⟨_, rfl, ⟨0, [0], _, rfl, rfl, trivial, _, rfl, rfl⟩, ⟨1, [], _, rfl, rfl, rfl⟩⟩

end Template

end TemplateTree
