import Mathlib.Data.List.Chain
import TemplateTree.Node.Basic
import TemplateTree.Proofs.Slicing

/-!
# The segments of a text

A variable opens where two opening braces have two closing braces behind them, with no line feed before
the nearest of these. A text is read from left to right: up to the first place where a variable opens,
over that variable, and so on behind it. The segments are what is found on the way. With what stood
between its braces for each variable they make up the text again, and there is no way to have fewer of
them: no text between variables is empty, holds a variable or stands beside another text.
-/

namespace TemplateTree

namespace Interpolation

/-! ## Where a variable opens -/

structure Opens (cs path rest : List Char) : Prop where
  braces : cs = '{' :: '{' :: (path ++ '}' :: '}' :: rest)
  nearest : ∀ a b, path ++ '}' :: '}' :: rest = a ++ '}' :: '}' :: b → path.length ≤ a.length
  oneLine : '\n' ∉ path

/-- No variable opens in a text if another one stands behind it. -/
def NoneOpens (before after : List Char) : Prop :=
  ∀ a b path rest, before = a ++ b → b ≠ [] → ¬ Opens (b ++ after) path rest

theorem inside?_sound : ∀ {cs path rest : List Char}, inside? cs = some (path, rest) →
    Opens ('{' :: '{' :: cs) path rest := by
  intro cs path rest h
  fun_induction inside? cs generalizing path rest with
  | case1 r =>
    obtain ⟨rfl, rfl⟩ := Prod.mk.inj (Option.some.inj h)
    exact ⟨rfl, fun _ _ _ => Nat.zero_le _, List.not_mem_nil⟩
  | case2 => cases h
  | case3 c cs hclosing hfeed ih =>
    obtain ⟨⟨p, r⟩, hp, hpair⟩ := Option.map_eq_some_iff.mp h
    obtain ⟨rfl, rfl⟩ := Prod.mk.inj hpair
    obtain ⟨hbraces, hnearest, hline⟩ := ih hp
    have hcs : cs = p ++ '}' :: '}' :: r := (List.cons.inj (List.cons.inj hbraces).2).2
    refine ⟨by rw [hcs]; rfl, fun a b hab => ?_, List.not_mem_cons_of_ne_of_not_mem (Ne.symm hfeed) hline⟩
    cases a with
    | nil =>
      obtain ⟨rfl, hb⟩ := List.cons.inj hab
      exact absurd (hcs.trans hb) (hclosing b rfl)
    | cons d a => exact Nat.succ_le_succ (hnearest a b (List.cons.inj hab).2)
  | case4 => cases h

theorem inside?_complete : ∀ {path rest : List Char},
    (∀ a b, path ++ '}' :: '}' :: rest = a ++ '}' :: '}' :: b → path.length ≤ a.length) → '\n' ∉ path →
    inside? (path ++ '}' :: '}' :: rest) = some (path, rest)
  | [], _, _, _ => rfl
  | c :: path, rest, hnearest, hline => by
    have ih : inside? (path ++ '}' :: '}' :: rest) = some (path, rest) := by
      refine inside?_complete (fun a b hab => ?_) (List.not_mem_of_not_mem_cons hline)
      exact Nat.le_of_succ_le_succ (hnearest (c :: a) b (congrArg (c :: ·) hab))
    rw [List.cons_append, inside?, ih]
    · rfl
    · rintro b rfl hb
      exact absurd (hnearest [] b (congrArg ('}' :: ·) hb)) (Nat.not_succ_le_zero _)
    · exact Ne.symm (List.ne_of_not_mem_cons hline)

theorem opens?_eq_some_iff {cs path rest : List Char} :
    opens? cs = some (path, rest) ↔ Opens cs path rest := by
  constructor
  · intro h
    unfold opens? at h
    split at h
    · exact inside?_sound h
    · cases h
  · rintro ⟨rfl, hnearest, hline⟩
    exact inside?_complete hnearest hline

theorem opens?_eq_none_iff {cs : List Char} : opens? cs = none ↔ ∀ path rest, ¬ Opens cs path rest := by
  simp only [Option.eq_none_iff_forall_ne_some, ne_eq, Prod.forall, opens?_eq_some_iff]

theorem Opens.ne_nil {cs path rest : List Char} (h : Opens cs path rest) : cs ≠ [] := by
  rw [h.braces]
  exact List.cons_ne_nil _ _

/-- With more text behind it a variable opens all the same. -/
theorem Opens.append {cs path rest : List Char} (h : Opens cs path rest) (more : List Char) :
    Opens (cs ++ more) path (rest ++ more) := by
  refine ⟨by simp [h.braces], fun a b hab => ?_, h.oneLine⟩
  by_contra hlt
  have hlength : (a ++ ['}', '}']).length ≤ (path ++ '}' :: '}' :: rest).length := by
    simp only [List.length_append, List.length_cons, List.length_nil]
    omega
  have htaken : a ++ ['}', '}'] <+: path ++ '}' :: '}' :: (rest ++ more) := ⟨b, by simp [hab]⟩
  have hpart : path ++ '}' :: '}' :: rest <+: path ++ '}' :: '}' :: (rest ++ more) := ⟨more, by simp⟩
  obtain ⟨b', hb'⟩ := List.prefix_of_prefix_length_le htaken hpart hlength
  exact hlt (h.nearest a b' (by simp [← hb']))

theorem NoneOpens.nil (after : List Char) : NoneOpens [] after :=
  fun _ _ _ _ hnil hb => absurd (List.append_eq_nil_iff.mp hnil.symm).2 hb

theorem noneOpens_cons_iff {c : Char} {before after : List Char} :
    NoneOpens (c :: before) after ↔ opens? (c :: (before ++ after)) = none ∧ NoneOpens before after := by
  rw [opens?_eq_none_iff]
  constructor
  · intro h
    refine ⟨fun path rest => h [] (c :: before) path rest rfl (List.cons_ne_nil _ _),
      fun a b path rest hab => ?_⟩
    exact h (c :: a) b path rest (congrArg (c :: ·) hab)
  · rintro ⟨hfirst, hrest⟩ a b path rest hab hb
    cases a with
    | nil =>
      obtain rfl : b = c :: before := hab.symm
      exact hfirst path rest
    | cons d a => exact hrest a b path rest (List.cons.inj hab).2 hb

theorem noneOpens_append_iff {before before' after : List Char} :
    NoneOpens (before ++ before') after ↔ NoneOpens before (before' ++ after) ∧ NoneOpens before' after := by
  induction before with
  | nil => exact ⟨fun h => ⟨.nil _, h⟩, And.right⟩
  | cons c before ih =>
    rw [List.cons_append, noneOpens_cons_iff, ih, noneOpens_cons_iff, List.append_assoc, and_assoc]

theorem NoneOpens.alone {before after : List Char} (h : NoneOpens before after) : NoneOpens before [] := by
  intro a b path rest hab hb hopens
  rw [List.append_nil] at hopens
  exact h a b path _ hab hb (hopens.append after)

theorem occurs_eq_false_iff : ∀ {cs : List Char}, occurs cs = false ↔ NoneOpens cs []
  | [] => ⟨fun _ => .nil [], fun _ => rfl⟩
  | c :: cs => by
    rw [occurs, Bool.or_eq_false_iff, occurs_eq_false_iff, noneOpens_cons_iff, List.append_nil,
      Option.isSome_eq_false_iff, Option.isNone_iff_eq_none]

/-! ## The pieces of a text -/

/-- A piece of a text: literal text, or a variable with what stands between its braces. -/
inductive Piece where
  | text (chars : List Char)
  | hole (path : List Char)

namespace Piece

def source : Piece → List Char
  | text chars => chars
  | hole path => '{' :: '{' :: (path ++ ['}', '}'])

def segment : Piece → Segment
  | text chars => .text (String.ofList chars)
  | hole path => .var (.called (String.ofList (trimBlank path)))

/-- Literal text, if there is any. -/
def literal (chars : List Char) : List Piece :=
  if chars = [] then [] else [.text chars]

theorem flatMap_source_literal (chars : List Char) : (literal chars).flatMap source = chars := by
  unfold literal
  split
  · next h => exact h.symm
  · exact List.append_nil chars

theorem mem_literal {piece : Piece} {chars : List Char} :
    piece ∈ literal chars ↔ piece = .text chars ∧ chars ≠ [] := by
  unfold literal
  split
  · next h => simp [h]
  · next h => simp [h]

theorem literal_append_segments (chars : List Char) (pieces : List Piece) :
    Interpolation.literal chars (pieces.map segment) = (literal chars ++ pieces).map segment := by
  unfold Interpolation.literal literal
  split <;> rfl

end Piece

/-- The pieces that are found in a text from left to right. -/
inductive Scans : List Char → List Piece → Prop
  | rest {cs : List Char} (hnone : NoneOpens cs []) : Scans cs (Piece.literal cs)
  | opens {before cs path after : List Char} {pieces : List Piece} (hfirst : NoneOpens before cs)
    (hopens : Opens cs path after) (hafter : Scans after pieces) :
    Scans (before ++ cs) (Piece.literal before ++ .hole path :: pieces)

/-- The text of the pieces, one after another, is the whole text. -/
theorem Scans.source {cs : List Char} {pieces : List Piece} (h : Scans cs pieces) :
    pieces.flatMap Piece.source = cs := by
  induction h with
  | rest => exact Piece.flatMap_source_literal _
  | opens _ hopens _ ih =>
    rw [List.flatMap_append, List.flatMap_cons, Piece.flatMap_source_literal, ih, hopens.braces]
    simp [Piece.source]

/-- Where nothing opened up to one place, no variable opens before it, so the first place is the same on
every scan. -/
theorem eq_of_first {before before' cs cs' path path' after after' : List Char}
    (heq : before ++ cs = before' ++ cs') (hfirst : NoneOpens before cs) (hfirst' : NoneOpens before' cs')
    (hopens : Opens cs path after) (hopens' : Opens cs' path' after') : before = before' ∧ cs = cs' := by
  rcases List.append_eq_append_iff.mp heq with ⟨a, rfl, rfl⟩ | ⟨a, rfl, rfl⟩
  · cases a with
    | nil => exact ⟨(List.append_nil _).symm, rfl⟩
    | cons c a => exact absurd hopens (hfirst' before (c :: a) path after rfl (List.cons_ne_nil _ _))
  · cases a with
    | nil => exact ⟨List.append_nil _, rfl⟩
    | cons c a => exact absurd hopens' (hfirst before' (c :: a) path' after' rfl (List.cons_ne_nil _ _))

theorem NoneOpens.not_opens {before cs path after : List Char} (h : NoneOpens (before ++ cs) []) :
    ¬ Opens cs path after := fun hopens =>
  h before cs path after rfl hopens.ne_nil ((List.append_nil cs).symm ▸ hopens)

theorem Scans.unique {cs : List Char} {pieces pieces' : List Piece} (h : Scans cs pieces)
    (h' : Scans cs pieces') : pieces = pieces' := by
  induction h generalizing pieces' with
  | rest hnone =>
    cases h' with
    | rest => rfl
    | opens _ hopens => exact absurd hopens hnone.not_opens
  | @opens before cs path after pieces hfirst hopens hafter ih =>
    generalize hwhole : before ++ cs = whole at h'
    cases h' with
    | rest hnone => exact absurd hopens (hwhole ▸ hnone).not_opens
    | @opens before' cs' path' after' pieces' hfirst' hopens' hafter' =>
      obtain ⟨rfl, rfl⟩ := eq_of_first hwhole hfirst hfirst' hopens hopens'
      obtain ⟨rfl, rfl⟩ := Prod.mk.inj (Option.some.inj
        ((opens?_eq_some_iff.mpr hopens).symm.trans (opens?_eq_some_iff.mpr hopens')))
      rw [ih hafter']

/-- The segments behind text in which nothing opened are those of the pieces of the whole text. -/
theorem split_scans (before cs : List Char) (hpassed : NoneOpens before.reverse cs) :
    ∃ pieces, Scans (before.reverse ++ cs) pieces ∧ split before cs = pieces.map Piece.segment := by
  induction before, cs using split.induct with
  | case1 before =>
    refine ⟨Piece.literal before.reverse, ?_, ?_⟩
    · rw [List.append_nil]
      exact .rest hpassed
    · rw [split, ← List.append_nil (Piece.literal _), ← Piece.literal_append_segments]
      rfl
  | case2 before c cs path after hopens ih =>
    obtain ⟨pieces, hafter, hsplit⟩ := ih (.nil after)
    refine ⟨_, .opens hpassed (opens?_eq_some_iff.mp hopens) hafter, ?_⟩
    rw [Checked.split_of_opens?_some hopens, hsplit, ← Piece.literal_append_segments]
    rfl
  | case3 before c cs hopens ih =>
    have hpassed' : NoneOpens (c :: before).reverse cs := by
      rw [List.reverse_cons, noneOpens_append_iff, noneOpens_cons_iff]
      exact ⟨hpassed, hopens, .nil cs⟩
    obtain ⟨pieces, hscans, hsplit⟩ := ih hpassed'
    refine ⟨pieces, ?_, (Checked.split_of_opens?_none hopens before).trans hsplit⟩
    rwa [List.reverse_cons, List.append_assoc] at hscans

/-! ## What pieces there are -/

/-- Literal pieces are not empty, and no variable opens in one. -/
theorem Scans.text_mem {cs chars : List Char} {pieces : List Piece} (h : Scans cs pieces)
    (hmem : .text chars ∈ pieces) : chars ≠ [] ∧ NoneOpens chars [] := by
  induction h with
  | rest hnone =>
    obtain ⟨hchars, hne⟩ := Piece.mem_literal.mp hmem
    obtain rfl := Piece.text.inj hchars
    exact ⟨hne, hnone⟩
  | opens hfirst _ _ ih =>
    rcases List.mem_append.mp hmem with hliteral | hmem
    · obtain ⟨hchars, hne⟩ := Piece.mem_literal.mp hliteral
      obtain rfl := Piece.text.inj hchars
      exact ⟨hne, hfirst.alone⟩
    · rcases List.mem_cons.mp hmem with hhole | hmem
      · cases hhole
      · exact ih hmem

theorem Scans.exists_hole_iff {cs : List Char} {pieces : List Piece} (h : Scans cs pieces) :
    (∃ path, .hole path ∈ pieces) ↔ occurs cs = true := by
  rw [← Bool.not_eq_false, occurs_eq_false_iff]
  cases h with
  | rest hnone =>
    refine ⟨?_, absurd hnone⟩
    rintro ⟨path, hmem⟩
    cases (Piece.mem_literal.mp hmem).1
  | opens _ hopens =>
    exact ⟨fun _ hnone => hnone.not_opens hopens, fun _ =>
      ⟨_, List.mem_append_right _ (List.mem_cons_self ..)⟩⟩

/-- Of two pieces beside each other one is a variable. -/
theorem Scans.isChain {cs : List Char} {pieces : List Piece} (h : Scans cs pieces) :
    pieces.IsChain fun p q => (∃ path, p = .hole path) ∨ ∃ path, q = .hole path := by
  induction h with
  | rest =>
    unfold Piece.literal
    split
    · exact .nil
    · exact .singleton _
  | @opens before cs path after pieces _ _ _ ih =>
    have hhole : (Piece.hole path :: pieces).IsChain
        fun p q => (∃ path, p = .hole path) ∨ ∃ path, q = .hole path :=
      List.isChain_cons.mpr ⟨fun _ _ => .inl ⟨path, rfl⟩, ih⟩
    unfold Piece.literal
    split
    · exact hhole
    · exact .cons_cons (.inr ⟨path, rfl⟩) hhole

/-! ## The segments -/

theorem Scans.text_segment {cs : List Char} {pieces : List Piece} {s : String} (h : Scans cs pieces)
    (hmem : .text s ∈ pieces.map Piece.segment) : s ≠ "" ∧ NoneOpens s.toList [] := by
  obtain ⟨piece, hpiece, hsegment⟩ := List.mem_map.mp hmem
  cases piece with
  | hole path => cases hsegment
  | text chars =>
    obtain rfl : String.ofList chars = s := Segment.text.inj hsegment
    obtain ⟨hne, hnone⟩ := h.text_mem hpiece
    refine ⟨fun hempty => hne (String.ofList_inj.mp hempty), ?_⟩
    rwa [String.toList_ofList]

theorem Scans.exists_var_iff {cs : List Char} {pieces : List Piece} (h : Scans cs pieces) :
    (∃ v, .var v ∈ pieces.map Piece.segment) ↔ occurs cs = true := by
  rw [← h.exists_hole_iff]
  constructor
  · rintro ⟨v, hv⟩
    obtain ⟨piece, hpiece, hsegment⟩ := List.mem_map.mp hv
    cases piece with
    | hole path => exact ⟨path, hpiece⟩
    | text chars => cases hsegment
  · rintro ⟨path, hpath⟩
    exact ⟨_, List.mem_map_of_mem hpath⟩

theorem Scans.isChain_segments {cs : List Char} {pieces : List Piece} (h : Scans cs pieces) :
    (pieces.map Piece.segment).IsChain fun s t => (∃ v, s = .var v) ∨ ∃ v, t = .var v := by
  refine List.isChain_map_of_isChain Piece.segment ?_ h.isChain
  rintro p q (⟨path, rfl⟩ | ⟨path, rfl⟩)
  · exact .inl ⟨_, rfl⟩
  · exact .inr ⟨_, rfl⟩

end Interpolation

open Interpolation

/-- Texts and nodes agree on what is dynamic. -/
theorem ofString_of_hasInterpolation {η : Type} (text : String) :
    (hasInterpolation text = true ∧ TemplateText.ofString text = .mixed (segmentsOf text) ∧
      (Node.ofString text : Node η) = .text (.mixed (segmentsOf text))) ∨
    (hasInterpolation text = false ∧ TemplateText.ofString text = .literal text ∧
      (Node.ofString text : Node η) = .literal (.string text)) := by
  unfold Node.ofString TemplateText.ofString
  cases hasInterpolation text with
  | true => exact .inl ⟨rfl, rfl, rfl⟩
  | false => exact .inr ⟨rfl, rfl, rfl⟩

/-- Reading a text is scanning it from left to right, in one way only, and always ends. The pieces of
the text make it up again. No literal segment is empty, holds a variable or stands beside another one;
and whether there is a variable among the segments is what makes text dynamic, for a text and for a node
alike. -/
theorem segmentsOf_exact {η : Type} (text : String) :
    (∃ pieces, (∀ other, Scans text.toList other ↔ other = pieces) ∧
      segmentsOf text = pieces.map Piece.segment ∧ pieces.flatMap Piece.source = text.toList) ∧
    (∀ s, .text s ∈ segmentsOf text → s ≠ "" ∧ NoneOpens s.toList [] ∧ hasInterpolation s = false) ∧
    (segmentsOf text).IsChain (fun s t => (∃ v, s = .var v) ∨ ∃ v, t = .var v) ∧
    (hasInterpolation text = true ↔ ∃ v, .var v ∈ segmentsOf text) ∧
    ((hasInterpolation text = true ∧ TemplateText.ofString text = .mixed (segmentsOf text) ∧
        (Node.ofString text : Node η) = .text (.mixed (segmentsOf text))) ∨
      (hasInterpolation text = false ∧ TemplateText.ofString text = .literal text ∧
        (Node.ofString text : Node η) = .literal (.string text))) ∧
    Checked.segments? text = some (segmentsOf text) ∧
    Checked.hasInterpolation? text = some (hasInterpolation text) := by
  obtain ⟨pieces, hscans, hsplit⟩ := split_scans [] text.toList (.nil _)
  have hscans : Scans text.toList pieces := hscans
  have hsegments : segmentsOf text = pieces.map Piece.segment := hsplit
  refine ⟨⟨pieces, fun other => ⟨fun h => h.unique hscans, fun h => h ▸ hscans⟩, hsegments, hscans.source⟩,
    ?_, ?_, ?_, ofString_of_hasInterpolation text, Checked.segments?_eq text,
    Checked.hasInterpolation?_eq text⟩
  · intro s hs
    obtain ⟨hne, hnone⟩ := hscans.text_segment (hsegments ▸ hs)
    exact ⟨hne, hnone, occurs_eq_false_iff.mpr hnone⟩
  · rw [hsegments]
    exact hscans.isChain_segments
  · rw [hsegments]
    exact hscans.exists_var_iff.symm

/-- The first braces open nothing, since a line ends before the nearest closing ones. -/
example : Checked.segments? "\x7b\x7b a\n \x7d\x7d \x7b\x7b b \x7d\x7d\x7d" =
    some [.text "\x7b\x7b a\n \x7d\x7d ", .var (.called "b"), .text "\x7d"] := by decide +kernel

end TemplateTree
