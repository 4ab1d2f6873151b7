import Mathlib.Data.List.Basic
import TemplateTree.LoopHeader

/-!
# The form of loop headers

A loop header is one name or several, then ` in ` and a path. Between two names there is a comma,
perhaps with a space behind it. No other source is read as a loop header. If no blank is an identifier
character, none stands in a path, so the ` in ` before the path is the last one of the source, however
the variables are called. Every source of this form is read then, and has it in one way only.
-/

namespace TemplateTree

/-! ## The last separator -/

theorem eq_of_splitAtLast? {sep : List Char} : ∀ {cs before after : List Char},
    splitAtLast? sep cs = some (before, after) → cs = before ++ sep ++ after
  | [], _, _, h => by cases h
  | c :: cs, before, after, h => by
    rw [splitAtLast?] at h
    split at h
    · next b a hlast =>
      obtain ⟨rfl, rfl⟩ := Prod.mk.inj (Option.some.inj h)
      rw [eq_of_splitAtLast? hlast]
      rfl
    · split at h
      · next hstarts =>
        obtain ⟨rfl, rfl⟩ := Prod.mk.inj (Option.some.inj h)
        obtain ⟨rest, hrest⟩ := List.isPrefixOf_iff_prefix.mp hstarts
        rw [← hrest, List.drop_left]
        rfl
      · cases h

theorem isPrefixOf_of_not_mem {c : Char} {sep cs : List Char} (hsep : c ∈ sep) (hcs : c ∉ cs) :
    sep.isPrefixOf cs = false := by
  rw [Bool.eq_false_iff]
  intro h
  exact hcs ((List.isPrefixOf_iff_prefix.mp h).subset hsep)

theorem splitAtLast?_of_not_mem {c : Char} {sep : List Char} (hsep : c ∈ sep) : ∀ {cs : List Char}, c ∉ cs →
    splitAtLast? sep cs = none
  | [], _ => rfl
  | d :: cs, hcs => by
    rw [splitAtLast?, splitAtLast?_of_not_mem hsep (List.not_mem_of_not_mem_cons hcs)]
    exact if_neg (Bool.eq_false_iff.mp (isPrefixOf_of_not_mem hsep hcs))

theorem splitAtLast?_append {sep cs after : List Char} (h : splitAtLast? sep cs = some ([], after)) :
    ∀ before, splitAtLast? sep (before ++ cs) = some (before, after)
  | [] => h
  | b :: before => by rw [List.cons_append, splitAtLast?, splitAtLast?_append h before]

/-- The ` in ` before a text without spaces is the last one. It ends with a space, and so does the last
place where another one could start. -/
theorem splitAtLast?_in {path : List Char} (h : ' ' ∉ path) (before : List Char) :
    splitAtLast? " in ".toList (before ++ " in ".toList ++ path) = some (before, path) := by
  have hpath : splitAtLast? " in ".toList path = none := splitAtLast?_of_not_mem (List.mem_cons_self ..) h
  have hspace : splitAtLast? " in ".toList (' ' :: path) = none := by
    have hstarts : "in ".toList.isPrefixOf path = false := isPrefixOf_of_not_mem (by decide) h
    rw [splitAtLast?, hpath]
    exact if_neg (Bool.eq_false_iff.mp hstarts)
  rw [List.append_assoc]
  refine splitAtLast?_append ?_ before
  show splitAtLast? " in ".toList (' ' :: 'i' :: 'n' :: ' ' :: path) = _
  rw [splitAtLast?, splitAtLast?, splitAtLast?, hspace]
  rfl

namespace LoopHeader

/-! ## The form -/

/-- The name of a loop variable: any characters but commas and blanks, and at least one. -/
structure IsName (name : List Char) : Prop where
  nonempty : name ≠ []
  noComma : ',' ∉ name
  noBlank : ∀ c ∈ name, isBlank c = false

/-- A header taken apart. -/
structure Parts [IdentifierChars] where
  first : List Char
  /-- The names behind the first one, each with whether there is a space between it and the comma before
  it. -/
  others : List (Bool × List Char)
  path : List Char
  names : ∀ name ∈ first :: others.map (·.2), IsName name
  pathNonempty : path ≠ []
  pathChars : ∀ c ∈ path, c = '.' ∨ isIdentifierChar c = true

namespace Parts

def separator (spaced : Bool) : List Char :=
  if spaced then [',', ' '] else [',']

def namesText [IdentifierChars] (p : Parts) : List Char :=
  p.first ++ p.others.flatMap fun other => separator other.1 ++ other.2

def text [IdentifierChars] (p : Parts) : List Char :=
  p.namesText ++ " in ".toList ++ p.path

def header [IdentifierChars] (p : Parts) : LoopHeader :=
  ⟨(p.first :: p.others.map (·.2)).map String.ofList, .called (String.ofList p.path)⟩

end Parts

/-! ## What stands behind a comma -/

/-- A name behind a comma, with the space before it if there is one. -/
def spell (other : Bool × List Char) : List Char :=
  if other.1 then ' ' :: other.2 else other.2

/-- What stands behind a comma taken apart. -/
def unspell : List Char → Bool × List Char
  | ' ' :: name => (true, name)
  | name => (false, name)

theorem separator_append (other : Bool × List Char) :
    Parts.separator other.1 ++ other.2 = ',' :: spell other := by
  obtain ⟨spaced, name⟩ := other
  cases spaced <;> rfl

theorem spell_unspell (text : List Char) : spell (unspell text) = text := by
  unfold unspell
  split <;> rfl

theorem unspell_snd (text : List Char) : (unspell text).2 = dropOneSpace text := by
  unfold unspell
  split
  · rfl
  · next hspace =>
    unfold dropOneSpace
    split
    · exact absurd rfl (hspace _)
    · rfl

theorem unspell_spell {other : Bool × List Char} (h : IsName other.2) : unspell (spell other) = other := by
  obtain ⟨spaced, name⟩ := other
  cases spaced with
  | true => rfl
  | false =>
    show unspell name = (false, name)
    unfold unspell
    split
    · next rest => exact absurd (h.noBlank ' ' (List.mem_cons_self ..)) (by decide)
    · rfl

theorem IsName.not_mem_spell {other : Bool × List Char} (h : IsName other.2) : ',' ∉ spell other := by
  obtain ⟨spaced, name⟩ := other
  cases spaced with
  | true => exact List.not_mem_cons_of_ne_of_not_mem (by decide) h.noComma
  | false => exact h.noComma

theorem not_mem_dropOneSpace {c : Char} {text : List Char} (h : c ∉ text) : c ∉ dropOneSpace text := by
  unfold dropOneSpace
  split
  · exact List.not_mem_of_not_mem_cons h
  · exact h

/-! ## Names and paths -/

theorem isLoopVar_iff {name : List Char} :
    isLoopVar name = true ↔ name ≠ [] ∧ ∀ c ∈ name, isBlank c = false := by
  unfold isLoopVar
  simp only [Bool.and_eq_true, Bool.not_eq_true', List.isEmpty_eq_false_iff,
    List.any_eq_false, Bool.not_eq_true]

theorem isPath_iff [IdentifierChars] {path : List Char} :
    isPath path = true ↔ path ≠ [] ∧ ∀ c ∈ path, c = '.' ∨ isIdentifierChar c = true := by
  unfold isPath isPathChar
  simp only [Bool.and_eq_true, Bool.not_eq_true', List.isEmpty_eq_false_iff,
    List.all_eq_true, Bool.or_eq_true, decide_eq_true_eq]

namespace Parts

variable [IdentifierChars] (p : Parts)

theorem isName_of_mem_others {other : Bool × List Char} (h : other ∈ p.others) : IsName other.2 :=
  p.names _ (List.mem_cons_of_mem _ (List.mem_map_of_mem h))

theorem splitAtChar_namesText : splitAtChar ',' p.namesText = p.first :: p.others.map spell := by
  have htext : p.namesText = p.first ++ p.others.flatMap fun other => ',' :: spell other := by
    simp only [namesText, separator_append]
  rw [htext]
  exact splitAtChar_flatMap (p.names _ (List.mem_cons_self ..)).noComma
    fun other h => (p.isName_of_mem_others h).not_mem_spell

theorem splitVars_namesText : splitVars p.namesText = p.first :: p.others.map (·.2) := by
  have hnames : (p.others.map spell).map dropOneSpace = p.others.map (·.2) := by
    rw [List.map_map]
    refine List.map_congr_left fun other h => ?_
    rw [Function.comp_apply, ← unspell_snd, unspell_spell (p.isName_of_mem_others h)]
  rw [splitVars, p.splitAtChar_namesText]
  exact congrArg (p.first :: ·) hnames

theorem unspell_others : (p.others.map spell).map unspell = p.others := by
  rw [List.map_map]
  exact (List.map_congr_left fun _ h => unspell_spell (p.isName_of_mem_others h)).trans (List.map_id _)

/-! ## Reading a header -/

section
variable (hblank : ∀ c, isBlank c = true → isIdentifierChar c = false)
include hblank

theorem space_not_mem_path : ' ' ∉ p.path := by
  intro h
  rcases p.pathChars ' ' h with hdot | hident
  · exact absurd hdot (by decide)
  · rw [hblank ' ' (by decide)] at hident
    cases hident

theorem splitAtLast?_text : splitAtLast? " in ".toList p.text = some (p.namesText, p.path) :=
  splitAtLast?_in (p.space_not_mem_path hblank) p.namesText

/-- Every header of this form is read. -/
theorem parse?_text : parse? p.text = some p.header := by
  have hnames : (p.first :: p.others.map (·.2)).all isLoopVar = true :=
    List.all_eq_true.mpr fun name h => isLoopVar_iff.mpr ⟨(p.names name h).nonempty, (p.names name h).noBlank⟩
  have hpath : isPath p.path = true := isPath_iff.mpr ⟨p.pathNonempty, p.pathChars⟩
  rw [parse?, p.splitAtLast?_text hblank, Option.bind_some, p.splitVars_namesText, ofParts?, hpath, hnames]
  rfl

/-- A text has this form in one way only. -/
theorem eq_of_text {p q : Parts} (h : p.text = q.text) : p = q := by
  have hlast := (p.splitAtLast?_text hblank).symm.trans (h ▸ q.splitAtLast?_text hblank)
  obtain ⟨hnames, hpath⟩ := Prod.mk.inj (Option.some.inj hlast)
  have hsplit := p.splitAtChar_namesText.symm.trans (hnames ▸ q.splitAtChar_namesText)
  obtain ⟨hfirst, hspelled⟩ := List.cons.inj hsplit
  have hothers : p.others = q.others := by rw [← p.unspell_others, hspelled, q.unspell_others]
  obtain ⟨first, others, path, _, _, _⟩ := p
  obtain ⟨first', others', path', _, _, _⟩ := q
  obtain rfl : first = first' := hfirst
  obtain rfl : others = others' := hothers
  obtain rfl : path = path' := hpath
  rfl

end

end Parts

/-! ## What is read -/

/-- Names that are read, with what stands between them. -/
theorem exists_of_splitVars {text : List Char} (h : (splitVars text).all isLoopVar = true) :
    ∃ (first : List Char) (others : List (Bool × List Char)),
    (∀ name ∈ first :: others.map (·.2), IsName name) ∧
      splitVars text = first :: others.map (·.2) ∧
      text = first ++ others.flatMap fun other => Parts.separator other.1 ++ other.2 := by
  obtain ⟨first, rest, hsplit⟩ := List.exists_cons_of_ne_nil (splitAtChar_ne_nil ',' text)
  have hvars : splitVars text = first :: (rest.map unspell).map (·.2) := by
    have hrest : rest.map dropOneSpace = (rest.map unspell).map (·.2) := by
      rw [List.map_map]
      exact List.map_congr_left fun part _ => (unspell_snd part).symm
    rw [splitVars, hsplit, ← hrest]
  have hcomma : ∀ part ∈ first :: rest, ',' ∉ part :=
    fun part hpart => not_mem_of_mem_splitAtChar (hsplit ▸ hpart)
  refine ⟨first, rest.map unspell, fun name hname => ?_, hvars, ?_⟩
  · obtain ⟨hnonempty, hblank⟩ := isLoopVar_iff.mp (List.all_eq_true.mp h name (hvars ▸ hname))
    refine ⟨hnonempty, ?_, hblank⟩
    rcases List.mem_cons.mp hname with rfl | hname
    · exact hcomma name (List.mem_cons_self ..)
    · rw [List.map_map] at hname
      obtain ⟨part, hpart, rfl⟩ := List.mem_map.mp hname
      rw [Function.comp_apply, unspell_snd]
      exact not_mem_dropOneSpace (hcomma part (List.mem_cons_of_mem _ hpart))
  · rw [eq_of_splitAtChar hsplit]
    simp only [separator_append, List.flatMap_map, spell_unspell]

/-- What is read has the form of a header. -/
theorem exists_parts [IdentifierChars] {source : List Char} {header : LoopHeader}
    (h : parse? source = some header) : ∃ p : Parts, p.text = source ∧ p.header = header := by
  obtain ⟨⟨text, path⟩, hlast, hparts⟩ := Option.bind_eq_some_iff.mp h
  unfold ofParts? at hparts
  split at hparts
  · next hok =>
    obtain ⟨hpath, hvars⟩ := Bool.and_eq_true_iff.mp hok
    obtain ⟨hnonempty, hchars⟩ := isPath_iff.mp hpath
    obtain ⟨first, others, hnames, hsplit, rfl⟩ := exists_of_splitVars hvars
    refine ⟨⟨first, others, path, hnames, hnonempty, hchars⟩, (eq_of_splitAtLast? hlast).symm, ?_⟩
    rw [← Option.some.inj hparts, hsplit]
    rfl
  · cases hparts

/-- Where no blank is an identifier character, a source is read as a loop header exactly if it has the
form of one, and as its parts say; it can be taken apart in one way only. Every other source is a fault
of syntax. -/
theorem parse_iff_parts [IdentifierChars] (hblank : ∀ c, isBlank c = true → isIdentifierChar c = false)
    (source : String) :
    (∀ header, LoopHeader.parse source = .ok header ↔
      ∃ p : Parts, p.text = source.toList ∧ p.header = header) ∧
    (∀ p q : Parts, p.text = source.toList → q.text = source.toList → p = q) ∧
    ((∀ p : Parts, p.text ≠ source.toList) →
      ∃ e, LoopHeader.parse source = .error e ∧ e = .ofCause (.loopHeader source) ∧
        e.kind = .templateSyntax) := by
  refine ⟨fun header => ⟨fun h => ?_, ?_⟩, fun p q hp hq => Parts.eq_of_text hblank (hp.trans hq.symm),
    fun hnone => ?_⟩
  · unfold LoopHeader.parse at h
    split at h
    · next header' hparse =>
      obtain rfl := Except.ok.inj h
      exact exists_parts hparse
    · cases h
  · rintro ⟨p, hp, rfl⟩
    rw [LoopHeader.parse, ← hp, p.parse?_text hblank]
  · refine ⟨_, ?_, rfl, rfl⟩
    cases hparse : parse? source.toList with
    | none => rw [LoopHeader.parse, hparse]
    | some header =>
      obtain ⟨p, hp, -⟩ := exists_parts hparse
      exact absurd hp (hnone p)

/-- Variables may be called `in`. -/
theorem variables_called_in_are_read :
    (∀ c, isBlank c = true → IdentifierChars.ascii.isIdentifierChar c = false) ∧
      @LoopHeader.parse .ascii "in, in,in in in.in" = .ok ⟨["in", "in", "in"], .called "in.in"⟩ := by
  have hblank (c : Char) : isBlank c = true → IdentifierChars.ascii.isIdentifierChar c = false :=
    CodeRanges.holds_eq_false (by decide +kernel)
  obtain ⟨hnonempty, hnoBlank⟩ := isLoopVar_iff.mp (show isLoopVar ['i', 'n'] = true by decide)
  have hname : IsName ['i', 'n'] := ⟨hnonempty, by decide, hnoBlank⟩
  obtain ⟨hpath, hchars⟩ := (@isPath_iff .ascii "in.in".toList).mp (by decide +kernel)
  let p : @Parts .ascii :=
    @Parts.mk .ascii ['i', 'n'] [(true, ['i', 'n']), (false, ['i', 'n'])]
      "in.in".toList (by simpa using hname) hpath hchars
  exact ⟨hblank, ((@parse_iff_parts .ascii hblank _).1 _).mpr ⟨p, rfl, rfl⟩⟩

end LoopHeader

end TemplateTree
