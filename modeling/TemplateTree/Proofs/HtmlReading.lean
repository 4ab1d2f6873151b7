import TemplateTree.Proofs.HtmlGrammar
import TemplateTree.Text.Split

/-!
# Reading HTML output back

What calls of the HTML mode nest can be read off the text they make. A reader splits the text at its
tags, which no escaped text can hold, and goes over the tags from the last one to the first: a closing
tag starts a list of contents, and the opening tag of its name ends it. Only how text was cut into
leaves and what was a fragment is lost.
-/

namespace TemplateTree.Html

/-! ## Calls -/

/-- A tree of calls of an output mode, with text at its leaves and the identities that the calls were
given. -/
inductive Call where
  | text (s : String)
  | element (id : Identity) (tag : String) (attributes : List (String × String)) (children : List Call)
  | fragment (id : Identity) (children : List Call)

mutual

def Call.value {φ : Type} : Call → Except RenderFault (Value φ)
  | .text s => .ok (.string s)
  | .element id tag attributes children => do
    mode.element id tag (attributes.map fun a => (a.1, .string a.2)) (← Call.values children)
  | .fragment id children => do mode.fragment id (← Call.values children)

def Call.values {φ : Type} : List Call → Except RenderFault (List (Value φ))
  | [] => .ok []
  | c :: cs => do
    let v ← c.value
    return v :: (← Call.values cs)

end

def Call.output (φ : Type) (c : Call) : Except RenderFault String := do
  let v : Value φ ← c.value
  v.text

def Call.IsCall : Call → Prop
  | .text _ => False
  | _ => True

def isNameChar (c : Char) : Bool :=
  c.isLower || c.isDigit || c == '-'

/-- A letter from `a` to `z` and then more of these, digits and hyphens. -/
def IsName (s : String) : Prop :=
  ∃ c cs, s.toList = c :: cs ∧ c.isLower = true ∧ ∀ d ∈ cs, isNameChar d = true

mutual

/-- Tags and attribute names are names, and void elements are without children. -/
def Call.WellFormed : Call → Prop
  | .text _ => True
  | .element _ tag attributes children =>
    IsName tag ∧ (∀ a ∈ attributes, IsName a.1) ∧ (tag ∈ voidTags → children = []) ∧
    Call.AllWellFormed children
  | .fragment _ children => Call.AllWellFormed children

def Call.AllWellFormed : List Call → Prop
  | [] => True
  | c :: cs => c.WellFormed ∧ Call.AllWellFormed cs

end

/-! ## What can be read back -/

inductive Item where
  | text (s : String)
  | element (tag : String) (attributes : List (String × String)) (children : List Item)

def addText (s : String) (items : List Item) : List Item :=
  if s = "" then items
  else match items with
    | .text t :: rest => .text (s ++ t) :: rest
    | items => .text s :: items

mutual

/-- The items of a call before others. A fragment is the items in it. -/
def Call.onto : Call → List Item → List Item
  | .text s, items => addText s items
  | .element _ tag attributes children, items => .element tag attributes (Call.allOnto children []) :: items
  | .fragment _ children, items => Call.allOnto children items

def Call.allOnto : List Call → List Item → List Item
  | [], items => items
  | c :: cs, items => c.onto (Call.allOnto cs items)

end

/-- A tree of calls with adjacent text merged, without empty text and with fragments taken apart. -/
def Call.normal (c : Call) : List Item :=
  c.onto []

theorem addText_append (s t : String) (items : List Item) :
    addText (s ++ t) items = addText s (addText t items) := by
  by_cases hs : s = ""
  · subst hs
    simp [addText]
  · by_cases ht : t = ""
    · subst ht
      simp [addText]
    · cases items with
      | nil => simp [addText, hs, ht]
      | cons item items => cases item <;> simp [addText, hs, ht, String.append_assoc]

/-! ## The reader -/

inductive Mark where
  | opening (tag : String) (attributes : List (String × String))
  | closing (tag : String)

/-- Text up to its first tag, and each tag with the text behind it. -/
abbrev Pieces := String × List (Mark × String)

def unescape : List Char → List Char
  | '&' :: 'a' :: 'm' :: 'p' :: ';' :: rest => '&' :: unescape rest
  | '&' :: 'l' :: 't' :: ';' :: rest => '<' :: unescape rest
  | '&' :: 'g' :: 't' :: ';' :: rest => '>' :: unescape rest
  | '&' :: 'q' :: 'u' :: 'o' :: 't' :: ';' :: rest => '"' :: unescape rest
  | '&' :: '#' :: '3' :: '9' :: ';' :: rest => '\'' :: unescape rest
  | c :: rest => c :: unescape rest
  | [] => []

/-- The attributes in a tag split at its quotes: names behind a space and before an equals sign, then
values. -/
def readAttributes : List (List Char) → Option (List (String × String))
  | [[]] => some []
  | (' ' :: name) :: value :: parts => do
    let rest ← readAttributes parts
    if name.getLast? = some '=' then
      return (String.ofList name.dropLast, String.ofList (unescape value)) :: rest
    else none
  | _ => none

def readMark : List Char → Option Mark
  | '/' :: name => some (.closing (String.ofList name))
  | cs => do
    let attributes ← readAttributes (splitAtChar '"' (cs.dropWhile (· ≠ ' ')))
    return .opening (String.ofList (cs.takeWhile (· ≠ ' '))) attributes

def readPart (cs : List Char) : Option (Mark × String) :=
  match splitAtChar '>' cs with
  | [tag, text] => do return (← readMark tag, String.ofList (unescape text))
  | _ => none

def readPieces (cs : List Char) : Option Pieces :=
  match splitAtChar '<' cs with
  | [] => none
  | text :: parts => do return (String.ofList (unescape text), ← parts.mapM readPart)

/-- The items read last, which come first in the text, and around them the closing tags without an
opening one so far, each with the items behind it. -/
abbrev Reading := List Item × List (String × List Item)

def Mark.read : Mark → Reading → Option Reading
  | .closing tag, (items, around) => some ([], (tag, items) :: around)
  | .opening tag attributes, (items, around) =>
    if tag ∈ voidTags then some (.element tag attributes [] :: items, around)
    else match around with
      | (name, behind) :: around =>
        if name = tag then some (.element tag attributes items :: behind, around) else none
      | [] => none

def readMarks : List (Mark × String) → Option Reading
  | [] => some ([], [])
  | (mark, text) :: marks => do
    let (items, around) ← readMarks marks
    mark.read (addText text items, around)

def Pieces.read (p : Pieces) : Option Reading := do
  let (items, around) ← readMarks p.2
  return (addText p.1 items, around)

/-- Reads output back. -/
def decode (s : String) : Option (List Item) :=
  match (readPieces s.toList).bind Pieces.read with
  | some (items, []) => some items
  | _ => none

/-! ## Names -/

theorem IsName.chars {s : String} (h : IsName s) : ∀ c ∈ s.toList, isNameChar c = true := by
  obtain ⟨c, cs, hs, hc, hcs⟩ := h
  rw [hs]
  exact List.forall_mem_cons.mpr ⟨by simp [isNameChar, hc], hcs⟩

/-- In names nothing is lowered or escaped, and nothing ends a name. -/
theorem isNameChar_spec {c : Char} (h : isNameChar c = true) :
    c ≠ '\u03A3' ∧ lowerChar c = [c] ∧ escapeChar c = [c] ∧ c ∉ ['<', '>', '"', ' ', '/', '='] := by
  have hcode : c.toNat < 128 := by
    simp only [isNameChar, Bool.or_eq_true, beq_iff_eq] at h
    rcases h with (hlower | hdigit) | rfl
    · have hle := (Bool.and_eq_true_iff.mp hlower).2
      exact Nat.lt_of_le_of_lt (show c.toNat ≤ 122 from of_decide_eq_true hle) (by decide)
    · have hle := (Bool.and_eq_true_iff.mp hdigit).2
      exact Nat.lt_of_le_of_lt (show c.toNat ≤ 57 from of_decide_eq_true hle) (by decide)
    · decide
  have hall : ∀ n < 128, isNameChar (Char.ofNat n) = true → Char.ofNat n ≠ '\u03A3' ∧
      lowerChar (Char.ofNat n) = [Char.ofNat n] ∧ escapeChar (Char.ofNat n) = [Char.ofNat n] ∧
        Char.ofNat n ∉ ['<', '>', '"', ' ', '/', '='] := by decide +kernel
  have := hall c.toNat hcode
  rw [Char.ofNat_toNat] at this
  exact this h

theorem lowercase_of_isName {s : String} (h : IsName s) : lowercase s = s := by
  have hall : ∀ (cs before : List Char), (∀ c ∈ cs, isNameChar c = true) → lowerFrom before cs = cs := by
    intro cs
    induction cs with
    | nil => exact fun _ _ => rfl
    | cons c cs ih =>
      intro before hcs
      obtain ⟨hsigma, hlower, -, -⟩ := isNameChar_spec (hcs c (List.mem_cons_self ..))
      rw [lowerFrom, if_neg hsigma, hlower, ih _ fun d hd => hcs d (List.mem_cons_of_mem _ hd)]
      rfl
  rw [lowercase, hall _ _ h.chars, String.ofList_toList]

theorem escape_of_isName {s : String} (h : IsName s) : escape s = s := by
  have hall : ∀ cs : List Char, (∀ c ∈ cs, isNameChar c = true) → cs.flatMap escapeChar = cs := by
    intro cs
    induction cs with
    | nil => exact fun _ => rfl
    | cons c cs ih =>
      intro hcs
      obtain ⟨-, -, hescape, -⟩ := isNameChar_spec (hcs c (List.mem_cons_self ..))
      rw [List.flatMap_cons, hescape, ih fun d hd => hcs d (List.mem_cons_of_mem _ hd)]
      rfl
  rw [escape, hall _ h.chars, String.ofList_toList]

theorem IsName.not_mem {s : String} (h : IsName s) {c : Char} (hc : c ∈ ['<', '>', '"', ' ', '/', '=']) :
    c ∉ s.toList :=
  fun hmem => (isNameChar_spec (h.chars c hmem)).2.2.2 hc

theorem IsName.ne_contentsAttribute {s : String} (h : IsName s) : s ≠ contentsAttribute := by
  intro heq
  subst heq
  exact absurd (h.chars 'H' (by decide)) (by decide)

/-! ## Text -/

theorem unescape_cons {c : Char} (h : c ≠ '&') (rest : List Char) :
    unescape (c :: rest) = c :: unescape rest := by
  conv => lhs; unfold unescape
  split <;> simp_all

theorem unescape_escapeChar (c : Char) (rest : List Char) :
    unescape (escapeChar c ++ rest) = c :: unescape rest := by
  unfold escapeChar
  split
  · rfl
  · rfl
  · rfl
  · rfl
  · rfl
  · next hamp _ _ _ _ => exact unescape_cons hamp rest

theorem unescape_escape (s : String) : String.ofList (unescape (escape s).toList) = s := by
  have hall : ∀ cs : List Char, unescape (cs.flatMap escapeChar) = cs := by
    intro cs
    induction cs with
    | nil => rfl
    | cons c cs ih => rw [List.flatMap_cons, unescape_escapeChar, ih]
  rw [escape, String.toList_ofList, hall, String.ofList_toList]

theorem escape_append (s t : String) : escape (s ++ t) = escape s ++ escape t := by
  rw [escape, String.toList_append, List.flatMap_append, String.ofList_append]
  rfl

theorem not_mem_escape (s : String) {c : Char} (hc : c ∈ ['<', '>', '"']) : c ∉ (escape s).toList := by
  intro hmem
  have := (isText_escape s).plain c hmem
  simp at hc
  rcases hc with rfl | rfl | rfl <;> simp at this

/-! ## Marks -/

def writtenAttributes (attributes : List (String × String)) : List Char :=
  attributes.flatMap fun a => ' ' :: a.1.toList ++ '=' :: '"' :: (escape a.2).toList ++ ['"']

namespace Mark

def inside : Mark → List Char
  | .opening tag attributes => tag.toList ++ writtenAttributes attributes
  | .closing tag => '/' :: tag.toList

def WellNamed : Mark → Prop
  | .opening tag attributes => IsName tag ∧ ∀ a ∈ attributes, IsName a.1
  | .closing tag => IsName tag

end Mark

def Pieces.write (p : Pieces) : List Char :=
  (escape p.1).toList ++ p.2.flatMap fun m => '<' :: m.1.inside ++ '>' :: (escape m.2).toList

theorem Pieces.write_mark (m : Mark) (p : Pieces) :
    Pieces.write ("", (m, p.1) :: p.2) = '<' :: m.inside ++ '>' :: p.write := by
  simp [write, escape]

theorem readAttributes_written : ∀ {attributes : List (String × String)}, (∀ a ∈ attributes, IsName a.1) →
    readAttributes (splitAtChar '"' (writtenAttributes attributes)) = some attributes
  | [], _ => rfl
  | (name, value) :: attributes, h => by
    have hname := h (name, value) (List.mem_cons_self ..)
    have hbefore : '"' ∉ ' ' :: name.toList ++ ['='] := by
      simpa using hname.not_mem (c := '"') (by decide)
    have hwritten : writtenAttributes ((name, value) :: attributes) =
        (' ' :: name.toList ++ ['=']) ++ '"' ::
        ((escape value).toList ++ '"' :: writtenAttributes attributes) := by
      simp [writtenAttributes]
    have ih := readAttributes_written fun a ha => h a (List.mem_cons_of_mem _ ha)
    rw [hwritten, splitAtChar_append hbefore, splitAtChar_append (not_mem_escape value (by decide))]
    simp [readAttributes, ih, unescape_escape]

theorem readMark_opening {cs : List Char} (h : cs.head? ≠ some '/') :
    readMark cs = (readAttributes (splitAtChar '"' (cs.dropWhile (· ≠ ' ')))).map
      (.opening (String.ofList (cs.takeWhile (· ≠ ' ')))) := by
  unfold readMark
  split
  · exact absurd rfl h
  · cases readAttributes (splitAtChar '"' (cs.dropWhile (· ≠ ' '))) <;> rfl

theorem readMark_inside {m : Mark} (h : m.WellNamed) : readMark m.inside = some m := by
  cases m with
  | closing tag => simp [Mark.inside, readMark]
  | opening tag attributes =>
    obtain ⟨htag, hattributes⟩ := h
    have hslash : (tag.toList ++ writtenAttributes attributes).head? ≠ some '/' := by
      have hnot : '/' ∉ tag.toList := htag.not_mem (by decide)
      obtain ⟨c, cs, hcs, -, -⟩ := htag
      rw [hcs] at hnot ⊢
      intro hcd
      cases hcd
      exact hnot (List.mem_cons_self ..)
    have hspace : ∀ c ∈ tag.toList, decide (c ≠ ' ') = true := by
      intro c hc
      refine decide_eq_true ?_
      intro heq
      subst heq
      exact htag.not_mem (by decide) hc
    have hwritten : (writtenAttributes attributes).takeWhile (· ≠ ' ') = [] ∧
        (writtenAttributes attributes).dropWhile (· ≠ ' ') = writtenAttributes attributes := by
      cases attributes <;> simp [writtenAttributes]
    rw [Mark.inside, readMark_opening hslash, List.takeWhile_append_of_pos hspace,
      List.dropWhile_append_of_pos hspace, hwritten.1, hwritten.2, readAttributes_written hattributes,
      List.append_nil, String.ofList_toList]
    rfl

theorem not_mem_inside {m : Mark} (h : m.WellNamed) {c : Char} (hc : c = '<' ∨ c = '>') : c ∉ m.inside := by
  have hname {s : String} (hs : IsName s) : c ∉ s.toList := by
    refine hs.not_mem ?_
    rcases hc with rfl | rfl <;> decide
  have hescape (s : String) : c ∉ (escape s).toList := by
    refine not_mem_escape s ?_
    rcases hc with rfl | rfl <;> decide
  have hother : c ≠ ' ' ∧ c ≠ '=' ∧ c ≠ '"' ∧ c ≠ '/' := by
    rcases hc with rfl | rfl <;> decide
  cases m with
  | closing tag => simp [Mark.inside, hother, hname h]
  | opening tag attributes =>
    obtain ⟨htag, hattributes⟩ := h
    simp only [Mark.inside, writtenAttributes, List.mem_append, List.mem_flatMap, not_or, not_exists, not_and]
    refine ⟨hname htag, fun a ha => ?_⟩
    simp [hother, hname (hattributes a ha), hescape]

theorem readPart_written {m : Mark} (h : m.WellNamed) (s : String) :
    readPart (m.inside ++ '>' :: (escape s).toList) = some (m, s) := by
  rw [readPart, splitAtChar_append (not_mem_inside h (.inr rfl)),
    splitAtChar_of_not_mem (not_mem_escape s (by decide))]
  simp [readMark_inside h, unescape_escape]

theorem readPieces_write {p : Pieces} (h : ∀ m ∈ p.2, m.1.WellNamed) : readPieces p.write = some p := by
  have hpart : ∀ m ∈ p.2, '<' ∉ m.1.inside ++ '>' :: (escape m.2).toList := by
    intro m hm
    have hinside := not_mem_inside (h m hm) (.inl rfl)
    have htext : '<' ∉ (escape m.2).toList := not_mem_escape m.2 (by decide)
    simp [hinside, htext]
  have hread : ∀ {marks : List (Mark × String)}, (∀ m ∈ marks, m.1.WellNamed) →
      (marks.map fun m => m.1.inside ++ '>' :: (escape m.2).toList).mapM readPart = some marks := by
    intro marks hmarks
    induction marks with
    | nil => rfl
    | cons m marks ih =>
      have hrest := ih fun m hm => hmarks m (List.mem_cons_of_mem _ hm)
      rw [List.map_cons, List.mapM_cons, readPart_written (hmarks m (List.mem_cons_self ..)), hrest]
      rfl
  have hsplit := splitAtChar_flatMap (not_mem_escape p.1 (c := '<') (by decide)) hpart
  rw [readPieces, Pieces.write]
  simp only [List.cons_append] at hsplit ⊢
  rw [hsplit]
  simp [hread h, unescape_escape]

/-! ## Calls are read back -/

mutual

def Call.pieces : Call → Pieces → Pieces
  | .text s, p => (s ++ p.1, p.2)
  | .element _ tag attributes children, p =>
    if tag ∈ voidTags then ("", (.opening tag attributes, p.1) :: p.2)
    else
      let inner := Call.allPieces children ("", (.closing tag, p.1) :: p.2)
      ("", (.opening tag attributes, inner.1) :: inner.2)
  | .fragment _ children, p => Call.allPieces children p

def Call.allPieces : List Call → Pieces → Pieces
  | [], p => p
  | c :: cs, p => c.pieces (Call.allPieces cs p)

end

mutual

theorem Call.wellNamed_pieces {c : Call} (hc : c.WellFormed) {p : Pieces} (h : ∀ m ∈ p.2, m.1.WellNamed) :
    ∀ m ∈ (c.pieces p).2, m.1.WellNamed := by
  match c with
  | .text s => exact h
  | .fragment _ children => exact Call.wellNamed_allPieces hc h
  | .element _ tag attributes children =>
    obtain ⟨htag, hattributes, -, hchildren⟩ := hc
    unfold Call.pieces
    split
    · exact List.forall_mem_cons.mpr ⟨⟨htag, hattributes⟩, h⟩
    · refine List.forall_mem_cons.mpr ⟨⟨htag, hattributes⟩, Call.wellNamed_allPieces hchildren ?_⟩
      exact List.forall_mem_cons.mpr ⟨htag, h⟩

theorem Call.wellNamed_allPieces {cs : List Call} (hcs : Call.AllWellFormed cs) {p : Pieces}
    (h : ∀ m ∈ p.2, m.1.WellNamed) : ∀ m ∈ (Call.allPieces cs p).2, m.1.WellNamed := by
  match cs with
  | [] => exact h
  | c :: cs => exact Call.wellNamed_pieces hcs.1 (Call.wellNamed_allPieces hcs.2 h)

end

theorem Pieces.read_eq_some {p : Pieces} {r : Reading} (h : p.read = some r) :
    ∃ items, readMarks p.2 = some (items, r.2) ∧ r.1 = addText p.1 items := by
  obtain ⟨⟨items, around⟩, hmarks, h⟩ := Option.bind_eq_some_iff.mp h
  obtain rfl := Option.some.inj h
  exact ⟨items, hmarks, rfl⟩

theorem Pieces.read_of_marks {p : Pieces} {items : List Item} {around : List (String × List Item)}
    (h : readMarks p.2 = some (items, around)) : p.read = some (addText p.1 items, around) := by
  rw [read, h]
  rfl

theorem readMarks_cons {p : Pieces} {m : Mark} {r : Reading} (h : p.read = some r) :
    readMarks ((m, p.1) :: p.2) = m.read r := by
  obtain ⟨items, hmarks, hitems⟩ := Pieces.read_eq_some h
  rw [readMarks, hmarks]
  show m.read (addText p.1 items, r.2) = m.read r
  rw [← hitems]

mutual

/-- The pieces of a call are read as its items, whatever follows. -/
theorem Call.read_pieces {c : Call} (hc : c.WellFormed) {p : Pieces} {items : List Item}
    {around : List (String × List Item)} (h : p.read = some (items, around)) :
    (c.pieces p).read = some (c.onto items, around) := by
  match c with
  | .text s =>
    obtain ⟨items', hmarks, rfl⟩ := Pieces.read_eq_some h
    have hread : Pieces.read (s ++ p.1, p.2) = some (addText (s ++ p.1) items', around) :=
      Pieces.read_of_marks hmarks
    rw [Call.pieces, hread, Call.onto, addText_append]
  | .fragment _ children => exact Call.read_allPieces hc h
  | .element _ tag attributes children =>
    obtain ⟨-, -, hvoid, hchildren⟩ := hc
    unfold Call.pieces
    by_cases hmem : tag ∈ voidTags
    · rw [if_pos hmem]
      have hread : readMarks ((.opening tag attributes, p.1) :: p.2) =
          some (.element tag attributes [] :: items, around) := by
        simp only [readMarks_cons h, Mark.read, if_pos hmem]
      rw [Pieces.read_of_marks hread, Call.onto, hvoid hmem]
      rfl
    · rw [if_neg hmem]
      have hclosing : readMarks ((.closing tag, p.1) :: p.2) = some ([], (tag, items) :: around) :=
        readMarks_cons h
      let inner := Call.allPieces children ("", (.closing tag, p.1) :: p.2)
      have hinner : inner.read = some (Call.allOnto children [], (tag, items) :: around) :=
        Call.read_allPieces hchildren (Pieces.read_of_marks hclosing)
      have hread : readMarks ((.opening tag attributes, inner.1) :: inner.2) =
          some (.element tag attributes (Call.allOnto children []) :: items, around) := by
        simp only [readMarks_cons hinner, Mark.read, if_neg hmem, if_pos]
      exact Pieces.read_of_marks (p := ("", _)) hread

theorem Call.read_allPieces {cs : List Call} (hcs : Call.AllWellFormed cs) {p : Pieces} {items : List Item}
    {around : List (String × List Item)} (h : p.read = some (items, around)) :
    (Call.allPieces cs p).read = some (Call.allOnto cs items, around) := by
  match cs with
  | [] => exact h
  | c :: cs => exact Call.read_pieces hcs.1 (Call.read_allPieces hcs.2 h)

end

/-! ## What calls write -/

section
variable {φ : Type}

def attributeValues (attributes : List (String × String)) : Dict (Value φ) :=
  attributes.map fun a => (a.1, .string a.2)

theorem writeAttributes_eq : ∀ {attributes : List (String × String)}, (∀ a ∈ attributes, IsName a.1) →
    ∃ s, writeAttributes (attributeValues (φ := φ) attributes) = .ok s ∧
      s.toList = writtenAttributes attributes
  | [], _ => ⟨"", rfl, rfl⟩
  | (name, value) :: attributes, h => by
    have hname := h (name, value) (List.mem_cons_self ..)
    obtain ⟨rest, hrest, hwritten⟩ := writeAttributes_eq fun a ha => h a (List.mem_cons_of_mem _ ha)
    refine ⟨attributeText name (escape value) ++ rest, ?_, ?_⟩
    · show writeAttributes ((name, .string value) :: attributeValues attributes) = _
      rw [writeAttributes, if_neg hname.ne_contentsAttribute, hrest, lowercase_of_isName hname]
      rfl
    · simp [attributeText, escape_of_isName hname, hwritten, writtenAttributes]

theorem get?_attributeValues {attributes : List (String × String)} (h : ∀ a ∈ attributes, IsName a.1) :
    Dict.get? (attributeValues (φ := φ) attributes) contentsAttribute = none := by
  cases hget : Dict.get? (attributeValues (φ := φ) attributes) contentsAttribute with
  | none => rfl
  | some v =>
    obtain ⟨a, ha, heq⟩ := List.mem_map.mp (Dict.mem_of_get? hget)
    exact absurd (Prod.mk.inj heq).1 (h a ha).ne_contentsAttribute

/-- What is written for a value is what the pieces of a call begin with. -/
def Writes (v : Value φ) (c : Call) : Prop :=
  ∃ s, write v = .ok s ∧ ∀ p : Pieces, (c.pieces p).write = s.toList ++ p.write

def AllWrite (vs : List (Value φ)) (cs : List Call) : Prop :=
  ∃ s, writeAll vs = .ok s ∧ ∀ p : Pieces, (Call.allPieces cs p).write = s.toList ++ p.write

theorem element_writes {id : Identity} {tag : String}
    {attributes : List (String × String)} {children : List Call}
    {vs : List (Value φ)} (hc : (Call.element id tag attributes children).WellFormed)
    (hvs : AllWrite vs children) : ∃ s, element tag (attributeValues attributes) vs = .ok s ∧
      ∀ p : Pieces, ((Call.element id tag attributes children).pieces p).write = s.toList ++ p.write := by
  obtain ⟨htag, hattributes, -, -⟩ := hc
  obtain ⟨contents, hcontents, hpieces⟩ := hvs
  obtain ⟨written, hwritten, hlist⟩ := writeAttributes_eq (φ := φ) hattributes
  have hvoid : isVoid tag = true ↔ tag ∈ voidTags := List.contains_iff_mem
  simp only [element, lowercase_of_isName htag, escape_of_isName htag, hwritten,
    get?_attributeValues hattributes, hcontents, hvoid, Call.pieces]
  by_cases hmem : tag ∈ voidTags
  · refine ⟨"<" ++ tag ++ written ++ ">", ?_, fun p => ?_⟩
    · simp only [if_pos hmem]
      rfl
    · rw [if_pos hmem, Pieces.write_mark]
      simp [Mark.inside, hlist]
  · refine ⟨"<" ++ tag ++ written ++ ">" ++ contents ++ "</" ++ tag ++ ">", ?_, fun p => ?_⟩
    · simp only [if_neg hmem]
      rfl
    · rw [if_neg hmem, Pieces.write_mark, hpieces, Pieces.write_mark]
      simp [Mark.inside, hlist]

mutual

theorem Call.value_writes {c : Call} (hc : c.WellFormed) :
    ∃ v : Value φ, c.value = .ok v ∧ Writes v c := by
  match c with
  | .text s =>
    refine ⟨.string s, rfl, escape s, rfl, fun p => ?_⟩
    simp [Call.pieces, Pieces.write, escape_append]
  | .element id tag attributes children =>
    obtain ⟨vs, hvs, hwrite⟩ := Call.values_write hc.2.2.2
    obtain ⟨s, hs, hpieces⟩ := element_writes hc hwrite
    refine ⟨.markup id (.safe s), ?_, s, rfl, hpieces⟩
    rw [Call.value, hvs]
    show (Html.element tag (attributeValues attributes) vs).map _ = _
    rw [hs]
    rfl
  | .fragment id children =>
    have hchildren : Call.AllWellFormed children := hc
    obtain ⟨vs, hvs, s, hs, hpieces⟩ := Call.values_write hchildren
    refine ⟨.markup id (.safe s), ?_, s, rfl, hpieces⟩
    rw [Call.value, hvs]
    show (Html.fragment vs).map _ = _
    rw [Html.fragment, hs]
    rfl

theorem Call.values_write {cs : List Call} (hcs : Call.AllWellFormed cs) :
    ∃ vs : List (Value φ), Call.values cs = .ok vs ∧ AllWrite vs cs := by
  match cs with
  | [] =>
    refine ⟨[], rfl, "", rfl, fun p => ?_⟩
    simp [Call.allPieces]
  | c :: cs =>
    obtain ⟨v, hv, s, hs, hpieces⟩ := Call.value_writes hcs.1
    obtain ⟨vs, hvs, t, ht, hrest⟩ := Call.values_write hcs.2
    refine ⟨v :: vs, ?_, s ++ t, ?_, fun p => ?_⟩
    · rw [Call.values, hv, hvs]
      rfl
    · rw [writeAll, hs, ht]
      rfl
    · rw [Call.allPieces, hpieces, hrest, String.toList_append, List.append_assoc]

end

theorem Call.output_eq {c : Call} (hc : c.WellFormed) (hcall : c.IsCall) :
    ∃ s, c.output φ = .ok s ∧ ∀ p : Pieces, (c.pieces p).write = s.toList ++ p.write := by
  obtain ⟨v, hv, s, hs, hpieces⟩ := Call.value_writes (φ := φ) hc
  have hmarkup : ∃ id m, v = .markup id m := by
    cases c with
    | text s => exact hcall.elim
    | element id tag attributes children =>
      obtain ⟨vs, -, h⟩ := Except.ok_of_bind hv
      obtain ⟨s, -, rfl⟩ := Except.ok_of_map h
      exact ⟨id, _, rfl⟩
    | fragment id children =>
      obtain ⟨vs, -, h⟩ := Except.ok_of_bind hv
      obtain ⟨s, -, rfl⟩ := Except.ok_of_map h
      exact ⟨id, _, rfl⟩
  obtain ⟨id, m, rfl⟩ := hmarkup
  refine ⟨s, ?_, hpieces⟩
  rw [Call.output, hv]
  exact hs

end

theorem decode_eq {c : Call} (hc : c.WellFormed) {s : String}
    (hpieces : ∀ p : Pieces, (c.pieces p).write = s.toList ++ p.write) : decode s = some c.normal := by
  have hs : (c.pieces ("", [])).write = s.toList := by
    rw [hpieces]
    simp [Pieces.write, escape]
  have hnamed : ∀ m ∈ (c.pieces ("", [])).2, m.1.WellNamed :=
    Call.wellNamed_pieces hc (List.forall_mem_nil _)
  have hread : (c.pieces ("", [])).read = some (c.onto [], []) := Call.read_pieces hc rfl
  rw [decode, ← hs, readPieces_write hnamed, Option.bind_some, hread]
  rfl

/-- Calls with proper names make text, from which the reader gets back all but the cuts in text and the
fragments; so calls that differ in more than these make different texts. -/
theorem decode_output (φ : Type) :
    (∀ c : Call, c.WellFormed → c.IsCall → ∃ s, c.output φ = .ok s ∧ decode s = some c.normal) ∧
      ∀ c d : Call, c.WellFormed → c.IsCall → d.WellFormed → d.IsCall → c.normal ≠ d.normal →
        c.output φ ≠ d.output φ := by
  have hdecode (c : Call) (hc : c.WellFormed) (hcall : c.IsCall) :
      ∃ s, c.output φ = .ok s ∧ decode s = some c.normal := by
    obtain ⟨s, hs, hpieces⟩ := Call.output_eq (φ := φ) hc hcall
    exact ⟨s, hs, decode_eq hc hpieces⟩
  refine ⟨hdecode, fun c d hc hc' hd hd' hne heq => hne ?_⟩
  obtain ⟨s, hs, hcs⟩ := hdecode c hc hc'
  obtain ⟨t, ht, hdt⟩ := hdecode d hd hd'
  obtain rfl := Except.ok.inj ((hs.symm.trans heq).trans ht)
  exact Option.some.inj (hcs.symm.trans hdt)

/-- Text that looks like tags and entities, in leaves that are cut in two and in an attribute. -/
theorem tag_like_text_is_read_back :
    let br := Call.element (.given 0) "br" [] []
    let c := Call.element (.given 1) "h1" [("data-x", "\"></h1>&amp;")] [.text "<", .text "br>", br, .text ""]
    let d := Call.fragment (.given 2) [Call.element (.given 3) "h1" [] [.text "<br>", br]]
    (∃ s, c.output Empty = .ok s ∧
      decode s = some [.element "h1" [("data-x", "\"></h1>&amp;")] [.text "<br>", .element "br" [] []]]) ∧
      c.output Empty ≠ d.output Empty := by
  intro br c d
  have hname : IsName "h1" ∧ IsName "br" ∧ IsName "data-x" := by
    refine ⟨⟨_, _, rfl, ?_, List.all_eq_true.mp ?_⟩, ⟨_, _, rfl, ?_, List.all_eq_true.mp ?_⟩,
      ⟨_, _, rfl, ?_, List.all_eq_true.mp ?_⟩⟩ <;> decide
  have hbr : br.WellFormed := ⟨hname.2.1, nofun, fun _ => rfl, trivial⟩
  have hattributes : ∀ a ∈ [("data-x", "\"></h1>&amp;")], IsName a.1 :=
    List.forall_mem_singleton.mpr hname.2.2
  have hc : c.WellFormed := ⟨hname.1, hattributes, by decide, trivial, trivial, hbr, trivial, trivial⟩
  have hd : d.WellFormed := ⟨⟨hname.1, nofun, by decide, trivial, hbr, trivial⟩, trivial⟩
  have hne : c.normal ≠ d.normal := by
    intro h
    simp [c, d, Call.normal, Call.onto, Call.allOnto] at h
  exact ⟨(decode_output Empty).1 c hc trivial, (decode_output Empty).2 c d hc trivial hd trivial hne⟩

end TemplateTree.Html
