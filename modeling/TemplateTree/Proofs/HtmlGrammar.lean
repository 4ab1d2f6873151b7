import TemplateTree.Mode.Html
import TemplateTree.Proofs.Occurrence
import TemplateTree.Render.Node

/-!
# The grammar of HTML output

Output is a sequence of texts, declarations, void elements and elements around a further sequence. Text holds
neither brackets nor quotes, and every ampersand in it starts an entity, so where a tag begins and where
it ends is told by the characters alone. What is made of markup in the grammar is in the grammar.
-/

namespace TemplateTree.Html

/-! ## Text -/

def entities : List String :=
  ["&amp;", "&lt;", "&gt;", "&quot;", "&#39;"]

/-- Text without brackets and quotes in which every ampersand starts an entity. -/
structure IsText (s : String) : Prop where
  plain : ∀ c ∈ s.toList, c ≠ '<' ∧ c ≠ '>' ∧ c ≠ '"' ∧ c ≠ '\''
  entity : ∀ cs, '&' :: cs <:+ s.toList → ∃ e ∈ entities, e.toList <+: '&' :: cs

theorem isText_empty : IsText "" where
  plain := by simp
  entity := by simp

theorem isText_append {s t : String} (hs : IsText s) (ht : IsText t) : IsText (s ++ t) where
  plain := by
    intro c hc
    rw [String.toList_append] at hc
    exact (List.mem_append.mp hc).elim (hs.plain c) (ht.plain c)
  entity := by
    intro cs hcs
    rw [String.toList_append] at hcs
    rcases List.suffix_or_suffix_of_suffix hcs (List.suffix_append s.toList t.toList) with h | ⟨p, hp⟩
    · exact ht.entity cs h
    · rw [← hp, List.suffix_append_self_iff] at hcs
      cases p with
      | nil => exact ht.entity cs (hp ▸ List.suffix_refl _)
      | cons c p =>
        obtain ⟨rfl, rfl⟩ := List.cons.inj hp
        obtain ⟨e, he, hprefix⟩ := hs.entity p hcs
        exact ⟨e, he, hprefix.trans (List.prefix_append ('&' :: p) t.toList)⟩

theorem isText_escapeChar (c : Char) : IsText (String.ofList (escapeChar c)) := by
  unfold escapeChar
  split
  · exact ⟨by simp, by simp +decide [List.suffix_cons_iff, entities]⟩
  · exact ⟨by simp, by simp +decide [List.suffix_cons_iff, entities]⟩
  · exact ⟨by simp, by simp +decide [List.suffix_cons_iff, entities]⟩
  · exact ⟨by simp, by simp +decide [List.suffix_cons_iff, entities]⟩
  · exact ⟨by simp, by simp +decide [List.suffix_cons_iff, entities]⟩
  · next hamp hlt hgt hquot happ =>
    refine ⟨?_, ?_⟩
    · simp only [String.toList_ofList, List.forall_mem_singleton]
      exact ⟨hlt, hgt, hquot, happ⟩
    · simp only [String.toList_ofList, List.suffix_cons_iff, List.suffix_nil]
      rintro cs (h | h)
      · exact absurd (List.cons.inj h).1.symm hamp
      · cases h

theorem isText_escape (s : String) : IsText (escape s) := by
  unfold escape
  induction s.toList with
  | nil => exact isText_empty
  | cons c cs ih =>
    rw [List.flatMap_cons, String.ofList_append]
    exact isText_append (isText_escapeChar c) ih

/-! ## Documents -/

/-- A tag that opens an element, or is all of a void one. -/
def startTag (name : String) (attributes : List (String × String)) : String :=
  "<" ++ name ++ String.join (attributes.map fun a => " " ++ a.1 ++ "=\"" ++ a.2 ++ "\"") ++ ">"

def endTag (name : String) : String :=
  "</" ++ name ++ ">"

def doctypes : List String :=
  ["<!DOCTYPE html>",
   "<!DOCTYPE HTML PUBLIC \"-//W3C//DTD HTML 4.01//EN\" \"http://www.w3.org/TR/html4/strict.dtd\">"]

def AreTexts (attributes : List (String × String)) : Prop :=
  ∀ a ∈ attributes, IsText a.1 ∧ IsText a.2

inductive Doc : String → Prop
  | nil : Doc ""
  | text {s rest : String} (hs : IsText s) (hrest : Doc rest) : Doc (s ++ rest)
  | doctype {s rest : String} (hs : s ∈ doctypes) (hrest : Doc rest) : Doc (s ++ rest)
  | void {name rest : String} {attributes : List (String × String)} (hname : name ∈ voidTags)
    (hattributes : AreTexts attributes) (hrest : Doc rest) : Doc (startTag name attributes ++ rest)
  | element {name contents rest : String} {attributes : List (String × String)} (hname : IsText name)
    (hvoid : name ∉ voidTags) (hattributes : AreTexts attributes)
    (hcontents : Doc contents) (hrest : Doc rest) :
    Doc (startTag name attributes ++ contents ++ endTag name ++ rest)

theorem Doc.append {s t : String} (hs : Doc s) (ht : Doc t) : Doc (s ++ t) := by
  induction hs with
  | nil => simpa using ht
  | text hs _ ih => simpa only [String.append_assoc] using Doc.text hs ih
  | doctype hs _ ih => simpa only [String.append_assoc] using Doc.doctype hs ih
  | void hname hattributes _ ih => simpa only [String.append_assoc] using Doc.void hname hattributes ih
  | element hname hvoid hattributes hcontents _ _ ih =>
    simpa only [String.append_assoc] using Doc.element hname hvoid hattributes hcontents ih

theorem doc_of_isText {s : String} (hs : IsText s) : Doc s := by
  simpa using Doc.text hs .nil

/-! ## Output -/

theorem escape_eq_of_not_mem {s : String} (h : '&' ∉ (escape s).toList) : escape s = s := by
  have hchar (c : Char) : escapeChar c = [c] ∨ '&' ∈ escapeChar c := by
    unfold escapeChar
    split <;> simp
  have hall (cs : List Char) (h : '&' ∉ cs.flatMap escapeChar) : cs.flatMap escapeChar = cs := by
    induction cs with
    | nil => rfl
    | cons c cs ih =>
      rw [List.flatMap_cons, List.mem_append, not_or] at h
      rw [List.flatMap_cons, (hchar c).resolve_right h.1, ih h.2]
      rfl
  rw [escape, String.toList_ofList] at h
  rw [escape, hall _ h, String.ofList_toList]

theorem escape_mem_voidTags {tag : String} : escape tag ∈ voidTags ↔ tag ∈ voidTags := by
  have hamp : ∀ tag ∈ voidTags, '&' ∉ tag.toList := by decide
  have hsame : ∀ tag ∈ voidTags, escape tag = tag := by decide
  constructor
  · intro h
    rwa [escape_eq_of_not_mem (hamp _ h)] at h
  · intro h
    rwa [hsame tag h]

section
variable {φ : Type} {F : φ → Prop} {P : String → Prop}

mutual

/-- What holds of escaped text and of markup, and of sequences of texts of which it holds, holds of output. -/
theorem write_holds (hempty : P "") (happend : ∀ s t, P s → P t → P (s ++ t)) (hescape : ∀ s, P (escape s))
    {v : Value φ} {s : String} (hv : v.Admits F fun m => P m.html) (h : write v = .ok s) : P s := by
  match v with
  | .markup _ m =>
    rw [← Except.ok.inj h]
    exact Value.admits_markup.mp hv
  | .list items => exact writeAll_holds hempty happend hescape (Value.admits_list.mp hv) h
  | .none | .bool _ | .integer _ | .float _ | .string _ | .map _ | .function .. =>
    simp only [write] at h
    obtain ⟨s, -, rfl⟩ := Except.ok_of_map h
    exact hescape s

theorem writeAll_holds (hempty : P "") (happend : ∀ s t, P s → P t → P (s ++ t)) (hescape : ∀ s, P (escape s))
    {vs : List (Value φ)} {s : String} (hvs : ∀ v ∈ vs, v.Admits F fun m => P m.html)
    (h : writeAll vs = .ok s) : P s := by
  match vs with
  | [] =>
    rw [← Except.ok.inj h]
    exact hempty
  | v :: vs =>
    obtain ⟨a, ha, h⟩ := Except.ok_of_bind h
    obtain ⟨b, hb, h⟩ := Except.ok_of_bind h
    rw [← Except.ok.inj h]
    refine happend a b (write_holds hempty happend hescape (hvs v (List.mem_cons_self ..)) ha) ?_
    exact writeAll_holds hempty happend hescape (fun w hw => hvs w (List.mem_cons_of_mem _ hw)) hb

end

theorem doc_writeAll {vs : List (Value φ)} {s : String} (hvs : ∀ v ∈ vs, v.Admits F fun m => Doc m.html)
    (h : writeAll vs = .ok s) : Doc s :=
  writeAll_holds .nil (fun _ _ => .append) (fun s => doc_of_isText (isText_escape s)) hvs h

theorem isText_write {v : Value φ} {s : String} (hv : v.Admits F fun _ => False)
    (h : write v = .ok s) : IsText s :=
  write_holds isText_empty (fun _ _ => isText_append) isText_escape
    (hv.mono (fun _ => id) fun _ => False.elim) h

theorem writeAttributes_texts : ∀ {attributes : List (String × Value φ)} {s : String},
    (∀ e ∈ attributes, e.2.Admits F fun _ => False) → writeAttributes attributes = .ok s →
      ∃ as, AreTexts as ∧ s = String.join (as.map fun a => " " ++ a.1 ++ "=\"" ++ a.2 ++ "\"")
  | [], s, _, h => ⟨[], nofun, (Except.ok.inj h).symm⟩
  | (name, value) :: attributes, s, hvalues, h => by
    have hrest := fun e he => hvalues e (List.mem_cons_of_mem _ he)
    simp only [writeAttributes] at h
    by_cases hname : name = contentsAttribute
    · rw [if_pos hname] at h
      exact writeAttributes_texts hrest h
    · rw [if_neg hname] at h
      obtain ⟨text, htext, h⟩ := Except.ok_of_bind h
      obtain ⟨rest, hrest', h⟩ := Except.ok_of_bind h
      obtain ⟨as, has, rfl⟩ := writeAttributes_texts hrest hrest'
      refine ⟨(escape (lowercase name), text) :: as, ?_, ?_⟩
      · refine List.forall_mem_cons.mpr ⟨⟨isText_escape _, ?_⟩, has⟩
        exact isText_write (hvalues _ (List.mem_cons_self ..)) htext
      · rw [← Except.ok.inj h, List.map_cons, String.join_cons]
        rfl

theorem doc_element {G : φ → Prop} {tag : String} {attributes : Dict (Value φ)} {children : List (Value φ)}
    {s : String}
    (hattributes : ∀ e ∈ attributes, e.1 ≠ contentsAttribute ∧ e.2.Admits G fun _ => False)
    (hchildren : ∀ v ∈ children, v.Admits F fun m => Doc m.html)
    (h : element tag attributes children = .ok s) : Doc s := by
  obtain ⟨written, hwritten, h⟩ := Except.ok_of_bind h
  obtain ⟨as, has, rfl⟩ := writeAttributes_texts (fun e he => (hattributes e he).2) hwritten
  have hcontains : isVoid (lowercase tag) = true ↔ escape (lowercase tag) ∈ voidTags := by
    rw [escape_mem_voidTags]
    exact List.contains_iff_mem
  simp only [hcontains] at h
  by_cases hvoid : escape (lowercase tag) ∈ voidTags
  · rw [if_pos hvoid] at h
    rw [← Except.ok.inj h]
    simpa [startTag] using Doc.void hvoid has .nil
  · rw [if_neg hvoid] at h
    have hnone : attributes.get? contentsAttribute = none := by
      cases hget : attributes.get? contentsAttribute with
      | none => rfl
      | some v => exact absurd rfl (hattributes _ (Dict.mem_of_get? hget)).1
    rw [hnone] at h
    obtain ⟨contents, hcontents, h⟩ := Except.ok_of_bind h
    rw [← Except.ok.inj h]
    have := Doc.element (isText_escape _) hvoid has (doc_writeAll hchildren hcontents) .nil
    simpa [startTag, endTag, String.append_assoc] using this

end

theorem doc_declaration (version : UInt8) : Doc (declaration version) := by
  unfold declaration
  split
  · simpa using Doc.doctype (List.mem_cons_of_mem _ (List.mem_cons_self ..)) .nil
  · split
    · simpa using Doc.doctype (List.mem_cons_self ..) .nil
    · exact .nil

end TemplateTree.Html
