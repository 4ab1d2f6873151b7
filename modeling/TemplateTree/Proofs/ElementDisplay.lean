import Mathlib.Data.List.Forall2
import TemplateTree.Proofs.Chains
import TemplateTree.Proofs.ModeAgreement

/-!
# The display of one element in both modes

An element without children is written by both modes with the same tag and the same values. The HTML
mode writes its attributes in the order of their own names, the tree mode in that of the lowered names,
each name once; and in the closing tag only the HTML mode escapes the name. The texts are the same just
where that makes no difference.
-/

namespace TemplateTree

variable {φ : Type}

/-! ## What is written determines what it is written of -/

theorem eq_of_append_cons {sep : Char} {cs cs' rest rest' : List Char} (h : sep ∉ cs) (h' : sep ∉ cs')
    (heq : cs ++ sep :: rest = cs' ++ sep :: rest') : cs = cs' ∧ rest = rest' := by
  have hsplit := congrArg (splitAtChar sep) heq
  rw [splitAtChar_append h, splitAtChar_append h'] at hsplit
  obtain ⟨rfl, -⟩ := List.cons.inj hsplit
  exact ⟨rfl, (List.cons.inj (List.append_cancel_left heq)).2⟩

theorem escape_inj {s t : String} (h : escape s = escape t) : s = t := by
  rw [← Html.unescape_escape s, h, Html.unescape_escape]

namespace Tree

theorem writtenTexts_cons (e : String × String) (es : List (String × String)) :
    writtenTexts (e :: es) = attributeText e.1 (escape e.2) ++ writtenTexts es := by
  simp [writtenTexts]

theorem toList_writtenTexts_cons (e : String × String) (es : List (String × String)) :
    (writtenTexts (e :: es)).toList = (' ' :: (escape e.1).toList ++ ['=']) ++ '"' :: ((escape e.2).toList ++
      '"' :: (writtenTexts es).toList) := by
  simp [writtenTexts_cons, attributeText]

theorem not_mem_writtenTexts (es : List (String × String)) : '>' ∉ (writtenTexts es).toList := by
  induction es with
  | nil => simp [writtenTexts]
  | cons e es ih =>
    have hname := Html.not_mem_escape e.1 (c := '>') (by simp)
    have hvalue := Html.not_mem_escape e.2 (c := '>') (by simp)
    simp [toList_writtenTexts_cons, hname, hvalue, ih]

theorem writtenTexts_inj : ∀ {es es' : List (String × String)}, writtenTexts es = writtenTexts es' → es = es'
  | [], [], _ => rfl
  | [], e' :: es', h => by
    have hlist := congrArg String.toList h
    rw [toList_writtenTexts_cons] at hlist
    simp [writtenTexts] at hlist
  | e :: es, [], h => by
    have hlist := congrArg String.toList h
    rw [toList_writtenTexts_cons] at hlist
    simp [writtenTexts] at hlist
  | e :: es, e' :: es', h => by
    have hlist := congrArg String.toList h
    rw [toList_writtenTexts_cons, toList_writtenTexts_cons] at hlist
    have hquote (s : String) : '"' ∉ (escape s).toList := Html.not_mem_escape s (by simp)
    obtain ⟨hname, hlist⟩ := eq_of_append_cons (by simp [hquote]) (by simp [hquote]) hlist
    obtain ⟨hvalue, hrest⟩ := eq_of_append_cons (hquote e.2) (hquote e'.2) hlist
    have hname : (escape e.1).toList = (escape e'.1).toList := by simpa using hname
    have hfst := escape_inj (String.toList_inj.mp hname)
    have hsnd := escape_inj (String.toList_inj.mp hvalue)
    rw [Prod.ext hfst hsnd, writtenTexts_inj (String.toList_inj.mp hrest)]

end Tree

/-! ## Tags -/

open MarkupTree TemplateTree.Tree

/-- What follows the opening tag of an element without children, with the name as it is written there. -/
def closeTag (tag name : String) : String :=
  if isVoid tag then "" else "</" ++ name ++ ">"

theorem toList_openTag (tag : String) (es : List (String × String)) :
    (openTag tag es).toList = ('<' :: (escape tag).toList ++ (writtenTexts es).toList) ++ ['>'] := by
  simp [openTag, writtenTexts]

theorem openTag_append_inj (tag : String) {es es' : List (String × String)} {s s' : String} :
    openTag tag es ++ s = openTag tag es' ++ s' ↔ es = es' ∧ s = s' := by
  constructor
  · intro h
    have hlist := congrArg String.toList h
    simp only [String.toList_append, toList_openTag, List.append_assoc _ ['>'],
      List.singleton_append] at hlist
    -- The opening tag ends at the first closing bracket, since none is left unescaped in it.
    have htag := Html.not_mem_escape tag (c := '>') (by simp)
    obtain ⟨hinside, hrest⟩ := eq_of_append_cons (by simp [htag, not_mem_writtenTexts])
      (by simp [htag, not_mem_writtenTexts]) hlist
    exact ⟨writtenTexts_inj (String.toList_inj.mp (List.append_cancel_left hinside)),
      String.toList_inj.mp hrest⟩
  · rintro ⟨rfl, rfl⟩
    rfl

theorem closeTag_inj {tag name name' : String} :
    closeTag tag name = closeTag tag name' ↔ isVoid tag = true ∨ name = name' := by
  unfold closeTag
  by_cases h : isVoid tag = true
  · simp [h]
  · simp [h, String.append_assoc]

theorem Dict.ofList_eq_self_iff {α : Type} {entries : List (String × α)} :
    Dict.ofList entries = entries ↔ Dict.Sorted entries := by
  constructor
  · intro h
    rw [← h]
    exact Dict.sorted_ofList entries
  · have hall : ∀ (es : List (String × α)) (d : Dict α), Dict.Sorted (d ++ es) →
        Dict.insertAll d es = d ++ es := by
      intro es
      induction es with
      | nil => exact fun d _ => (List.append_nil d).symm
      | cons e es ih =>
        intro d hd
        have hbelow : ∀ a ∈ d, a.1 < e.1 :=
          fun a ha => (List.pairwise_append.mp hd).2.2 a ha e (List.mem_cons_self ..)
        show Dict.insertAll (Dict.insert d e.1 e.2) es = _
        rw [Dict.insert_of_forall_lt hbelow, ih _ (by simpa using hd),
          List.append_assoc, List.singleton_append]
    exact hall entries []

/-! ## Attributes -/

/-- Attributes under their lowered names, with the texts of their values. -/
def Lowered (attributes : List (String × Value φ)) (es : List (String × String)) : Prop :=
  List.Forall₂ (fun a e => e.1 = lowercase a.1 ∧ a.2.text = .ok e.2) attributes es

theorem exists_lowered : ∀ {attributes : List (String × Value φ)}, (∀ a ∈ attributes, ∃ s, a.2.text = .ok s) →
    ∃ es, Lowered attributes es
  | [], _ => ⟨[], .nil⟩
  | a :: attributes, h => by
    obtain ⟨s, hs⟩ := h a (List.mem_cons_self ..)
    obtain ⟨es, hes⟩ := exists_lowered fun b hb => h b (List.mem_cons_of_mem _ hb)
    exact ⟨(lowercase a.1, s) :: es, .cons ⟨rfl, hs⟩ hes⟩

namespace Lowered

variable {attributes : List (String × Value φ)} {es : List (String × String)} (h : Lowered attributes es)
include h

theorem keys_eq : Dict.keys es = (Dict.keys attributes).map lowercase := by
  induction h with
  | nil => rfl
  | cons he _ ih =>
    simp only [Dict.keys, List.map_cons] at ih ⊢
    rw [he.1, ih]

theorem attributeTexts_eq (d : Dict String) : attributeTexts d attributes = .ok (d.insertAll es) := by
  induction h generalizing d with
  | nil => rfl
  | @cons a e attributes es he _ ih =>
    rw [attributeTexts, he.2]
    show attributeTexts (Dict.insert d (lowercase a.1) e.2) attributes = _
    rw [← he.1, ih]
    rfl

theorem writeAttributes_eq (hkeys : Html.contentsAttribute ∉ Dict.keys attributes)
    (hvalues : ∀ a ∈ attributes, a.2.Admits (fun _ => True) fun _ => False) :
    Html.writeAttributes attributes = .ok (writtenTexts es) := by
  induction h with
  | nil => rfl
  | @cons a e attributes es he _ ih =>
    rw [Dict.keys, List.map_cons, List.mem_cons, not_or] at hkeys
    obtain ⟨ha, hvalues⟩ := List.forall_mem_cons.mp hvalues
    rw [Html.writeAttributes, if_neg (Ne.symm hkeys.1), ← text_escape ha, he.2, ih hkeys.2 hvalues, ← he.1,
      writtenTexts_cons]
    rfl

end Lowered

/-! ## Elements -/

section
variable (tag : String) {attributes : Dict (Value φ)} {es : List (String × String)}
  (hes : Lowered attributes es)
include hes

theorem html_element_eq (hkeys : Html.contentsAttribute ∉ attributes.keys)
    (hvalues : ∀ a ∈ attributes, a.2.Admits (fun _ => True) fun _ => False) :
    Html.element tag attributes [] =
      .ok (openTag (lowercase tag) es ++ closeTag (lowercase tag) (escape (lowercase tag))) := by
  have hopened : "<" ++ escape (lowercase tag) ++ writtenTexts es ++ ">" = openTag (lowercase tag) es := rfl
  rw [Html.element, hes.writeAttributes_eq hkeys hvalues, Dict.get?_eq_none_iff.mpr hkeys, closeTag]
  simp only [bind, Except.bind, pure, Except.pure, hopened, Html.writeAll]
  by_cases h : isVoid (lowercase tag) = true
  · rw [if_pos h, if_pos h, String.append_empty]
  · rw [if_neg h, if_neg h]
    simp only [String.append_empty, String.append_assoc]

theorem tree_element_eq : (Tree.element tag attributes []).map MarkupTree.html =
    .ok (openTag (lowercase tag) (Dict.ofList es) ++ closeTag (lowercase tag) (lowercase tag)) := by
  rw [Tree.element, hes.attributeTexts_eq]
  show Except.ok (MarkupTree.html _) = _
  unfold closeTag
  by_cases h : isVoid (lowercase tag) = true
  · simp [MarkupTree.html, h, Dict.ofList]
  · simp [MarkupTree.html, MarkupTree.htmlAll, h, Dict.ofList]

end

/-- Both modes write an element without children, the HTML mode all attributes in the order of the map
and the tree mode those that are left of them under the lowered names. Only the HTML mode escapes the
name in the closing tag. So the texts are the same where the lowered names come in order and the tag is
void or is written as it is. -/
theorem element_texts (id : Identity) (tag : String) {attributes : Dict (Value φ)}
    (hkeys : Html.contentsAttribute ∉ attributes.keys)
    (hvalues : ∀ a ∈ attributes, (a.2.Admits (fun _ => True) fun _ => False) ∧ ∃ s, a.2.text = .ok s) :
    ∃ es v w, Lowered attributes es ∧
      Html.mode.element id tag attributes [] = .ok v ∧ Tree.mode.element id tag attributes [] = .ok w ∧
      v.text = .ok (openTag (lowercase tag) es ++ closeTag (lowercase tag) (escape (lowercase tag))) ∧
      w.text = .ok (openTag (lowercase tag) (Dict.ofList es) ++ closeTag (lowercase tag) (lowercase tag)) ∧
      (v.text = w.text ↔ (attributes.keys.map lowercase).Pairwise (· < ·) ∧
        (isVoid (lowercase tag) = true ∨ escape (lowercase tag) = lowercase tag)) := by
  obtain ⟨es, hes⟩ := exists_lowered fun a ha => (hvalues a ha).2
  have hhtml := html_element_eq tag hes hkeys fun a ha => (hvalues a ha).1
  obtain ⟨t, ht, htext⟩ : ∃ t, Tree.element tag attributes [] = .ok t ∧
      t.html = openTag (lowercase tag) (Dict.ofList es) ++ closeTag (lowercase tag) (lowercase tag) := by
    have htree := tree_element_eq tag hes
    cases ht : Tree.element tag attributes [] with
    | error e =>
      rw [ht] at htree
      cases htree
    | ok t =>
      rw [ht] at htree
      exact ⟨t, rfl, Except.ok.inj htree⟩
  have hsorted : (attributes.keys.map lowercase).Pairwise (· < ·) ↔ es = Dict.ofList es := by
    rw [eq_comm, Dict.ofList_eq_self_iff, ← hes.keys_eq]
    exact List.pairwise_map
  have hw : (Value.markup id (.tree t) : Value φ).text =
      .ok (openTag (lowercase tag) (Dict.ofList es) ++ closeTag (lowercase tag) (lowercase tag)) :=
    congrArg Except.ok htext
  refine ⟨es, .markup id (.safe _), .markup id (.tree t), hes, ?_, ?_, rfl, hw, ?_⟩
  · show (Html.element tag attributes []).map _ = _
    rw [hhtml]
    rfl
  · show (Tree.element tag attributes []).map _ = _
    rw [ht]
    rfl
  · rw [hw, hsorted, ← closeTag_inj, ← openTag_append_inj (lowercase tag)]
    exact ⟨Except.ok.inj, congrArg Except.ok⟩

/-- Names in capitals whose order stays. -/
theorem element_texts_of_capitals :
    let attributes : Dict (Value Empty) :=
      [("HREF", .string "/?a&b"), ("Title", .list [.string "<", .integer 1])]
    ∃ v w, Html.mode.element (.given 0) "P" attributes [] = .ok v ∧
      Tree.mode.element (.given 0) "P" attributes [] = .ok w ∧ v.text = w.text := by
  intro attributes
  have hkeys : Html.contentsAttribute ∉ attributes.keys := by decide
  have hvalues : ∀ a ∈ attributes, (a.2.Admits (fun _ => True) fun _ => False) ∧ ∃ s, a.2.text = .ok s := by
    refine List.forall_mem_cons.mpr ⟨⟨by simp, _, rfl⟩, List.forall_mem_singleton.mpr ⟨by simp, _, rfl⟩⟩
  have hlower : lowercase "HREF" = "href" ∧ lowercase "Title" = "title" ∧ lowercase "P" = "p" := by
    decide +kernel
  obtain ⟨hhref, htitle, hp⟩ := hlower
  obtain ⟨es, v, w, -, hv, hw, -, -, hiff⟩ := element_texts (.given 0) "P" hkeys hvalues
  refine ⟨v, w, hv, hw, hiff.mpr ⟨?_, .inr ?_⟩⟩
  · show List.Pairwise (· < ·) [lowercase "HREF", lowercase "Title"]
    rw [hhref, htitle]
    exact List.pairwise_pair.mpr (by decide +kernel)
  · rw [hp]
    decide

/-- A tag that has to be escaped, a name whose place changes when it is lowered, two names that are then
the same. -/
theorem element_texts_differ :
    let texts (mode : Mode Empty) (tag : String) (attributes : Dict (Value Empty)) :
        Except RenderFault String := do
      (← mode.element (.given 0) tag attributes []).text
    let swapped : Dict (Value Empty) := [("B", .string "1"), ("a", .string "2")]
    let doubled : Dict (Value Empty) := [("A", .string "1"), ("a", .string "2")]
    texts Html.mode "a&b" [] = .ok "<a&amp;b></a&amp;b>" ∧ texts Tree.mode "a&b" [] = .ok "<a&amp;b></a&b>" ∧
      texts Html.mode "br" swapped = .ok "<br b=\"1\" a=\"2\">" ∧
      texts Tree.mode "br" swapped = .ok "<br a=\"2\" b=\"1\">" ∧
      texts Html.mode "br" doubled = .ok "<br a=\"1\" a=\"2\">" ∧
      texts Tree.mode "br" doubled = .ok "<br a=\"2\">" :=
  ⟨rfl, rfl, rfl, rfl, rfl, rfl⟩

end TemplateTree
