import Mathlib.Data.List.Basic
import TemplateTree.Error.Snippet
import TemplateTree.Expr.Parser
import TemplateTree.Interpolation
import TemplateTree.LoopHeader

/-!
# Slices

The readers of sources once more, now with a cursor: a byte offset into the whole source, which each
slice is taken at. A slice that is out of range or ends inside of a character has no result, and neither
has a difference of offsets below zero or a fault with a place in an empty source. None of this happens:
the readers with cursors always have a result, and it is that of the readers that go from character to
character. The place of every error is a region of its source, so the error has a snippet.
-/

namespace TemplateTree

namespace Checked

/-- The source from an offset on. -/
def rest? (source : List Char) (i : Nat) : Option (List Char) :=
  (cut? source i).map (·.2)

def minus? (m n : Nat) : Option Nat :=
  if n ≤ m then some (m - n) else none

/-! ## Expressions -/

/-- What the lexer finds at an offset. The text of a string or of an operand is cut out of the source
later. -/
inductive Piece where
  | blanks
  | operator (token : Token)
  | quoted
  | operand

/-- The length of a string with both quotes, where `j` bytes of it are read. -/
def quotedLength? (quote : Char) (escaped : Bool) (j : Nat) : List Char → Option Nat
  | [] => none
  | c :: cs =>
    if c = '\\' ∧ escaped = false then quotedLength? quote true (j + c.utf8Size) cs
    else if c = quote ∧ escaped = false then some (j + 1)
    else quotedLength? quote false (j + c.utf8Size) cs

/-- The piece at an offset and its length, nothing at the end of the source, or a fault. -/
def lexAt? (source : List Char) (i : Nat) : Option (ExprResult (Option (Piece × Nat))) :=
  (rest? source i).bind fun
    | [] => some (.ok none)
    | c :: cs =>
      match Token.operators.find? (·.1.isPrefixOf (c :: cs)) with
      | some (spelling, token) => some (.ok (some (.operator token, spelling.length)))
      | none =>
        if c = '"' ∨ c = '\'' then
          (rest? source i).map fun quoted =>
            match quotedLength? c false c.utf8Size (quoted.drop 1) with
            | some n => .ok (some (.quoted, n))
            | none => .error (.undelimitedString, ⟨i, byteLength source⟩)
        else if isBlank c then some (.ok (some (.blanks, byteLength ((c :: cs).takeWhile isBlank))))
        else if isOperandChar c then
          some (.ok (some (.operand, byteLength ((c :: cs).takeWhile isOperandChar))))
        else some (.error (.unexpectedCharacter, ⟨i, i + c.utf8Size⟩))

/-- The token of a piece, if it is one. A string is cut out once more, between its quotes. -/
def token? (source : List Char) (span : Span) : Piece → Option (Option Token)
  | .blanks => some none
  | .operator token => some (some token)
  | .operand => (span.slice? source).map fun raw => some (.operand raw)
  | .quoted => do
    let raw ← span.slice? source
    let stop ← minus? (byteLength raw) 1
    let body ← Span.slice? ⟨1, stop⟩ raw
    return some (.string body)

def lexFrom? (source : List Char) : Nat → Nat → Option Lexemes
  | 0, _ => none
  | rounds + 1, i =>
    (lexAt? source i).bind fun
      | .error fault => some ⟨[], some fault⟩
      | .ok none => some ⟨[], none⟩
      | .ok (some (piece, n)) =>
        (token? source ⟨i, i + n⟩ piece).bind fun token =>
          (lexFrom? source rounds (i + n)).map fun rest =>
            ⟨(token.map (Lexeme.mk · ⟨i, i + n⟩)).toList ++ rest.list, rest.fault⟩

/-- The tokens of a source, each at least one byte long. -/
def lex? (source : List Char) : Option Lexemes :=
  lexFrom? source (source.length + 1) 0

/-- A fault with a place, which only a source that is not empty has. -/
def faultAt? (fault : ExprFault) (source : String) (span : Span) : Option Error :=
  if source = "" then none else some ⟨.expression fault, none, some (source, span)⟩

/-- The faults of the lexer always have a place, those of the parser have none in an empty source. -/
def fault? (fault : ExprFault) (source : String) (span : Span) : Option Error :=
  match fault with
  | .unexpectedCharacter | .undelimitedString => faultAt? fault source span
  | fault => if source = "" then some (.ofCause (.expression fault)) else faultAt? fault source span

def parse? (source : String) : Option (Except Error Expr) :=
  (lex? source.toList).bind fun lexemes =>
    match readOperand ⟨lexemes.fault, byteLength source.toList⟩ [] [] [] lexemes.list with
    | .ok e => some (.ok e)
    | .error (fault, span) => (fault? fault source span).map .error

/-! ## Interpolated text -/

/-- The offset of the first occurrence of a tag. -/
def indexOf? (tag : List Char) : List Char → Option Nat
  | [] => none
  | c :: cs => if tag.isPrefixOf (c :: cs) then some 0 else (indexOf? tag cs).map (c.utf8Size + ·)

/-- The offsets of an opening tag, of the closing tag behind it and of the end of that one. -/
structure Tags where
  opening : Nat
  closing : Nat
  behind : Nat
deriving DecidableEq

def findFrom? (text : List Char) : Nat → Nat → Option (Option Tags)
  | 0, _ => none
  | rounds + 1, start =>
    (rest? text start).bind fun rest =>
      match indexOf? ['{', '{'] rest with
      | none => some none
      | some offset =>
        let i := start + offset
        (rest? text (i + 2)).bind fun inside =>
          match indexOf? ['}', '}'] inside with
          | none => findFrom? text rounds (i + 1)
          | some length =>
            let j := i + 2 + length
            (Span.slice? ⟨i + 2, j⟩ text).bind fun path =>
              if path.contains '\n' then findFrom? text rounds (i + 1) else some (some ⟨i, j, j + 2⟩)

def segmentsFrom? (text : List Char) : Nat → Nat → Option (List Segment)
  | 0, _ => none
  | rounds + 1, cursor =>
    (findFrom? text (text.length + 1) cursor).bind fun
      | some tags => do
        let before ←
          if cursor < tags.opening then
            (Span.slice? ⟨cursor, tags.opening⟩ text).map fun s => [.text (String.ofList s)]
          else some []
        let path ← Span.slice? ⟨tags.opening + 2, tags.closing⟩ text
        let rest ← segmentsFrom? text rounds tags.behind
        return before ++ .var (.called (String.ofList (trimBlank path))) :: rest
      | none =>
        if cursor < byteLength text then
          (rest? text cursor).map fun rest => [.text (String.ofList rest)]
        else some []

def segments? (text : String) : Option (List Segment) :=
  segmentsFrom? text.toList (text.toList.length + 1) 0

def hasInterpolation? (text : String) : Option Bool :=
  (findFrom? text.toList (text.toList.length + 1) 0).map (·.isSome)

/-! ## Snippets -/

/-- The place of an offset, where `n` bytes are before the lines that are left. -/
def placeFrom? [TextWidth] (lines : List (List Char)) (offset : Nat) :
    Nat → Nat → List (List Char) → Option LinePlace
  | index, _, [] => some ⟨index, (lines.getLast?.map displayWidth).getD 0⟩
  | index, n, line :: rest =>
    let length := byteLength line + 1
    if offset < n + length then
      (minus? offset n).bind fun k => (cut? line k).map fun p => ⟨index, displayWidth p.1⟩
    else placeFrom? lines offset (index + 1) (n + length) rest

def place? [TextWidth] (source : List Char) (offset : Nat) : Option LinePlace :=
  placeFrom? (textLines source) offset 0 0 (textLines source)

end Checked

/-! ## Cuts -/

theorem byteLength_pos {cs : List Char} (h : cs ≠ []) : 0 < byteLength cs := by
  cases cs with
  | nil => exact absurd rfl h
  | cons c cs => exact Nat.add_pos_left c.utf8Size_pos _

theorem cut?_isSome_append (a b : List Char) : (cut? (a ++ b) (byteLength a)).isSome := by
  rw [cut?_append]
  rfl

/-- A region of a source: its ends are at characters, in order and in range. -/
def Span.Within (span : Span) (source : List Char) : Prop :=
  ∃ before inside after, source = before ++ inside ++ after ∧
    span = ⟨byteLength before, byteLength before + byteLength inside⟩

namespace Span.Within

variable {span : Span} {source : List Char}

theorem of_append (before inside after : List Char) :
    Span.Within ⟨byteLength before, byteLength before + byteLength inside⟩ (before ++ inside ++ after) :=
  ⟨before, inside, after, rfl, rfl⟩

theorem slice?_isSome (h : span.Within source) : (span.slice? source).isSome := by
  obtain ⟨before, inside, after, rfl, rfl⟩ := h
  rw [slice?_append]
  rfl

theorem ordered (h : span.Within source) : span.start ≤ span.stop ∧ span.stop ≤ byteLength source := by
  obtain ⟨before, inside, after, rfl, rfl⟩ := h
  simp only [byteLength_append]
  omega

theorem ends (h : span.Within source) : (cut? source span.start).isSome ∧ (cut? source span.stop).isSome := by
  obtain ⟨before, inside, after, rfl, rfl⟩ := h
  refine ⟨?_, ?_⟩
  · rw [List.append_assoc]
    exact cut?_isSome_append before _
  · rw [← byteLength_append]
    exact cut?_isSome_append _ after

theorem at_end (source : List Char) : Span.Within ⟨byteLength source, byteLength source⟩ source :=
  ⟨source, [], [], by simp, rfl⟩

end Span.Within

namespace Checked

theorem rest?_append (a b : List Char) : rest? (a ++ b) (byteLength a) = some b := by
  rw [rest?, cut?_append]
  rfl

theorem minus?_of_le {m n : Nat} (h : n ≤ m) : minus? m n = some (m - n) :=
  if_pos h

/-! ## The lexer -/

theorem quotedBody?_append {quote : Char} : ∀ {escaped : Bool} {cs body : List Char},
    quotedBody? quote escaped cs = some body → ∃ rest, cs = body ++ quote :: rest
  | _, [], _, h => by cases h
  | escaped, c :: cs, body, h => by
    rw [quotedBody?] at h
    split at h
    · obtain ⟨body', hbody, rfl⟩ := Option.map_eq_some_iff.mp h
      obtain ⟨rest, rfl⟩ := quotedBody?_append hbody
      exact ⟨rest, rfl⟩
    · split at h
      · next hquote =>
        obtain rfl := Option.some.inj h
        exact ⟨cs, by rw [hquote.1]; rfl⟩
      · obtain ⟨body', hbody, rfl⟩ := Option.map_eq_some_iff.mp h
        obtain ⟨rest, rfl⟩ := quotedBody?_append hbody
        exact ⟨rest, rfl⟩

theorem quotedLength?_eq (quote : Char) : ∀ (escaped : Bool) (j : Nat) (cs : List Char),
    quotedLength? quote escaped j cs = (quotedBody? quote escaped cs).map fun body => j + byteLength body + 1
  | _, _, [] => rfl
  | escaped, j, c :: cs => by
    have hcons (r : Option (List Char)) : (r.map fun body => j + c.utf8Size + byteLength body + 1) =
        (r.map (c :: ·)).map fun body => j + byteLength body + 1 := by
      rw [Option.map_map]
      congr 1
      funext body
      simp only [Function.comp, byteLength]
      omega
    rw [quotedLength?, quotedBody?]
    split
    · rw [quotedLength?_eq, hcons]
    · split
      · rfl
      · rw [quotedLength?_eq, hcons]

theorem operators_find?_spelling {cs spelling : List Char} {token : Token}
    (h : Token.operators.find? (·.1.isPrefixOf cs) = some (spelling, token)) :
    spelling <+: cs ∧ byteLength spelling = spelling.length ∧ spelling ≠ [] := by
  have hmem := List.mem_of_find?_eq_some h
  have hstarts := List.find?_some h
  refine ⟨List.isPrefixOf_iff_prefix.mp hstarts, ?_⟩
  have hall : ∀ e ∈ Token.operators, byteLength e.1 = e.1.length ∧ e.1 ≠ [] := by decide
  exact hall _ hmem

/-- Where a token is read, the lexer finds a piece of its length, and the token can be cut out. -/
theorem lexAt?_of_token (seen : List Char) {c : Char} {cs : List Char} {token : Token} {n : Nat}
    (hblank : isBlank c = false) (h : readToken c cs = .ok (token, n)) :
    ∃ piece, lexAt? (seen ++ c :: cs) (byteLength seen) =
      some (.ok (some (piece, byteLength (c :: cs.take n)))) ∧
      token? (seen ++ c :: cs) ⟨byteLength seen, byteLength seen + byteLength (c :: cs.take n)⟩ piece =
        some (some token) := by
  unfold readToken at h
  unfold lexAt?
  rw [rest?_append, Option.bind_some]
  dsimp only
  have hslice : Span.slice?
      ⟨byteLength seen, byteLength seen + byteLength (c :: cs.take n)⟩ (seen ++ c :: cs) =
      some (c :: cs.take n) := by
    have := slice?_append seen (c :: cs.take n) (cs.drop n)
    rwa [List.append_assoc, List.cons_append, List.take_append_drop] at this
  cases hfind : Token.operators.find? (·.1.isPrefixOf (c :: cs)) with
  | some e =>
    obtain ⟨spelling, token'⟩ := e
    rw [hfind] at h
    obtain ⟨rfl, rfl⟩ := Prod.mk.inj (Except.ok.inj h)
    obtain ⟨hstarts, hlength, hne⟩ := operators_find?_spelling hfind
    have hword : c :: cs.take (spelling.length - 1) = spelling := by
      obtain ⟨rest, hrest⟩ := hstarts
      cases spelling with
      | nil => exact absurd rfl hne
      | cons d spelling =>
        obtain ⟨rfl, rfl⟩ := List.cons.inj hrest
        simp
    rw [hword, hlength]
    exact ⟨_, rfl, rfl⟩
  | none =>
    rw [hfind] at h
    dsimp only at h ⊢
    split at h
    · next hquote =>
      split at h
      · next body hbody =>
        obtain ⟨rfl, rfl⟩ := Prod.mk.inj (Except.ok.inj h)
        obtain ⟨rest, rfl⟩ := quotedBody?_append hbody
        have hsize : c.utf8Size = 1 := by
          rcases hquote with rfl | rfl <;> rfl
        have hword : (body ++ c :: rest).take (body.length + 1) = body ++ [c] :=
          List.take_length_add_append 1
        rw [hword] at hslice ⊢
        refine ⟨.quoted, ?_, ?_⟩
        · rw [if_pos hquote, Option.map_some, List.drop_one, List.tail_cons,
            quotedLength?_eq, hbody, Option.map_some]
          simp [byteLength, hsize]
          omega
        · have hbody : Span.slice? ⟨1, 1 + byteLength body⟩ (c :: (body ++ [c])) = some body := by
            have := slice?_append [c] body [c]
            rwa [show byteLength [c] = 1 by simp [byteLength, hsize]] at this
          have hstop : minus? (byteLength (c :: (body ++ [c]))) 1 = some (1 + byteLength body) := by
            have hlength : byteLength (c :: (body ++ [c])) = 1 + byteLength body + 1 := by
              simp [byteLength, hsize]
              omega
            rw [hlength, minus?_of_le (Nat.le_add_left 1 _), Nat.add_sub_cancel]
          simp only [token?, hslice, hstop, hbody, Option.bind_eq_bind, Option.bind_some, Option.pure_def]
      · cases h
    · next hquote =>
      split at h
      · next hoperand =>
        obtain ⟨rfl, rfl⟩ := Prod.mk.inj (Except.ok.inj h)
        have hword : cs.take (cs.takeWhile isOperandChar).length = cs.takeWhile isOperandChar :=
          List.prefix_iff_eq_take.mp (List.takeWhile_prefix _) |>.symm
        rw [hword] at hslice ⊢
        refine ⟨.operand, ?_, ?_⟩
        · rw [if_neg hquote, hblank, if_neg (by decide), if_pos hoperand, List.takeWhile_cons_of_pos hoperand]
        · rw [token?, hslice]
          rfl
      · cases h

/-- Where no token can be read, the lexer finds the same fault. -/
theorem lexAt?_of_fault (seen : List Char) {c : Char} {cs : List Char} {fault : ExprFault}
    (hblank : isBlank c = false) (h : readToken c cs = .error fault) :
    lexAt? (seen ++ c :: cs) (byteLength seen) =
      some (.error (fault, Lexemes.faultSpan fault (byteLength seen) c cs)) := by
  unfold readToken at h
  unfold lexAt?
  rw [rest?_append, Option.bind_some]
  dsimp only
  cases hfind : Token.operators.find? (·.1.isPrefixOf (c :: cs)) with
  | some e =>
    rw [hfind] at h
    cases h
  | none =>
    rw [hfind] at h
    dsimp only at h ⊢
    split at h
    · next hquote =>
      split at h
      · cases h
      · next hbody =>
        obtain rfl := Except.error.inj h
        rw [if_pos hquote, Option.map_some, List.drop_one, List.tail_cons, quotedLength?_eq,
          hbody, byteLength_append]
        rfl
    · next hquote =>
      split at h
      · cases h
      · next hoperand =>
        obtain rfl := Except.error.inj h
        rw [if_neg hquote, hblank, if_neg (by decide), if_neg hoperand]
        rfl

theorem blank_starts_no_token {c : Char} (h : isBlank c = true) (cs : List Char) :
    Token.operators.find? (·.1.isPrefixOf (c :: cs)) = none ∧ ¬ (c = '"' ∨ c = '\'') := by
  have hne : ∀ d, isBlank d = false → d ≠ c := by
    rintro d hd rfl
    rw [h] at hd
    cases hd
  have hblank : operatorChars.all (fun d => !isBlank d) = true := by decide
  have hops : ∀ d ∈ operatorChars, d ≠ c := fun d hd =>
    hne d (Bool.not_eq_true' _ |>.mp (List.all_eq_true.mp hblank d hd))
  simp only [operatorChars, List.forall_mem_cons] at hops
  simp [Token.operators, List.isPrefixOf, hops, ne_comm (a := c)]

theorem lexAt?_of_blank (seen : List Char) {c : Char} (cs : List Char) (h : isBlank c = true) :
    lexAt? (seen ++ c :: cs) (byteLength seen) =
      some (.ok (some (.blanks, byteLength ((c :: cs).takeWhile isBlank)))) := by
  obtain ⟨hfind, hquote⟩ := blank_starts_no_token h cs
  unfold lexAt?
  rw [rest?_append, Option.bind_some]
  dsimp only
  rw [hfind]
  dsimp only
  rw [if_neg hquote, if_pos h]

theorem readFrom_blanks : ∀ (start : Nat) (cs : List Char), Lexemes.readFrom start cs =
    Lexemes.readFrom (start + byteLength (cs.takeWhile isBlank)) (cs.dropWhile isBlank)
  | _, [] => rfl
  | start, c :: cs => by
    cases h : isBlank c with
    | false => rw [List.takeWhile_cons_of_neg (by simp [h]), List.dropWhile_cons_of_neg (by simp [h])]; rfl
    | true =>
      rw [Lexemes.readFrom, if_pos h, readFrom_blanks, List.takeWhile_cons_of_pos h,
        List.dropWhile_cons_of_pos h, byteLength, Nat.add_assoc]

/-- From any character of a source on the lexer finds the tokens that reading the characters gives. -/
theorem lexFrom?_eq : ∀ (rounds : Nat) (seen cs : List Char), cs.length < rounds →
    lexFrom? (seen ++ cs) rounds (byteLength seen) = some (Lexemes.readFrom (byteLength seen) cs)
  | 0, _, _, h => absurd h (Nat.not_lt_zero _)
  | rounds + 1, seen, [], _ => by
    rw [lexFrom?, lexAt?, rest?_append]
    simp [Lexemes.readFrom]
  | rounds + 1, seen, c :: cs, h => by
    have ih (word rest : List Char) (hcs : c :: cs = word ++ rest) (hword : word ≠ []) :
        lexFrom? (seen ++ c :: cs) rounds (byteLength seen + byteLength word) =
          some (Lexemes.readFrom (byteLength seen + byteLength word) rest) := by
      have hlength : (c :: cs).length = word.length + rest.length := by rw [hcs, List.length_append]
      have hpos := List.length_pos_iff.mpr hword
      rw [hcs, ← List.append_assoc, ← byteLength_append]
      exact lexFrom?_eq rounds (seen ++ word) rest (by omega)
    rw [lexFrom?]
    cases hblank : isBlank c with
    | true =>
      have hne : (c :: cs).takeWhile isBlank ≠ [] := by
        rw [List.takeWhile_cons_of_pos hblank]
        exact List.cons_ne_nil _ _
      rw [lexAt?_of_blank seen cs hblank, Option.bind_some]
      dsimp only
      rw [token?, Option.bind_some, ih _ _ List.takeWhile_append_dropWhile.symm hne, ← readFrom_blanks]
      rfl
    | false =>
      rw [Lexemes.readFrom, hblank, if_neg (by decide)]
      cases hread : readToken c cs with
      | error fault =>
        rw [lexAt?_of_fault seen hblank hread]
        rfl
      | ok read =>
        obtain ⟨token, n⟩ := read
        obtain ⟨piece, hpiece, htoken⟩ := lexAt?_of_token seen hblank hread
        have hcs : c :: cs = c :: cs.take n ++ cs.drop n := by
          rw [List.cons_append, List.take_append_drop]
        rw [hpiece, Option.bind_some]
        dsimp only
        rw [htoken, Option.bind_some, ih _ _ hcs (List.cons_ne_nil _ _)]
        rfl

theorem lex?_eq (source : List Char) : lex? source = some (Lexemes.read source) :=
  lexFrom?_eq (source.length + 1) [] source (Nat.lt_succ_self _)

end Checked

/-! ## Places of faults -/

namespace Lexemes

theorem faultSpan_within (fault : ExprFault) (seen : List Char) (c : Char) (cs : List Char) :
    (faultSpan fault (byteLength seen) c cs).Within (seen ++ c :: cs) := by
  have hchar : Span.Within ⟨byteLength seen, byteLength seen + c.utf8Size⟩ (seen ++ c :: cs) := by
    have := Span.Within.of_append seen [c] cs
    rwa [List.append_assoc, List.singleton_append] at this
  cases fault with
  | undelimitedString =>
    have := Span.Within.of_append seen (c :: cs) []
    rwa [List.append_nil] at this
  | _ => exact hchar

/-- The spans of all tokens and that of a fault. -/
def spans (lexemes : Lexemes) : List Span :=
  lexemes.list.map (·.span) ++ (lexemes.fault.map (·.2)).toList

theorem readFrom_within : ∀ (n : Nat) (seen cs : List Char), cs.length ≤ n →
    ∀ span ∈ (readFrom (byteLength seen) cs).spans, span.Within (seen ++ cs)
  | _, seen, [], _ => by simp [readFrom, spans]
  | 0, _, _ :: _, h => absurd h (Nat.not_succ_le_zero _)
  | n + 1, seen, c :: cs, h => by
    have ih (word rest : List Char) (hcs : c :: cs = word ++ rest) (hrest : rest.length ≤ n) :
        ∀ span ∈ (readFrom (byteLength seen + byteLength word) rest).spans,
          span.Within (seen ++ c :: cs) := by
      rw [hcs, ← List.append_assoc, ← byteLength_append]
      exact readFrom_within n (seen ++ word) rest hrest
    rw [List.length_cons] at h
    rw [readFrom]
    split
    · exact ih [c] cs rfl (by omega)
    · cases readToken c cs with
      | error fault =>
        intro span hspan
        rw [List.mem_singleton.mp hspan]
        exact faultSpan_within fault seen c cs
      | ok read =>
        obtain ⟨token, k⟩ := read
        have hcs : c :: cs = c :: cs.take k ++ cs.drop k := by
          rw [List.cons_append, List.take_append_drop]
        have hlength : (cs.drop k).length ≤ n := by
          rw [List.length_drop]
          omega
        refine List.forall_mem_cons.mpr ⟨?_, ih _ _ hcs hlength⟩
        have := Span.Within.of_append seen (c :: cs.take k) (cs.drop k)
        rwa [List.append_assoc, ← hcs] at this

end Lexemes

/-- If a result is a fault, its place is among these. -/
def Placed {α : Type} (P : Span → Prop) (r : ExprResult α) : Prop :=
  ∀ fault, r = .error fault → P fault.2

section
variable {P : Span → Prop} {ending : Ending}

theorem Placed.bind {α β : Type} {r : ExprResult α} {f : α → ExprResult β} (hr : Placed P r)
    (hf : ∀ a, r = .ok a → Placed P (f a)) : Placed P (r >>= f) := by
  cases r with
  | error fault =>
    intro _ h
    obtain rfl := Except.error.inj h
    exact hr fault rfl
  | ok a => exact hf a rfl

theorem placed_error {α : Type} {fault : ExprFault} {span : Span} (h : P span) :
    Placed P (.error (fault, span) : ExprResult α) := by
  rintro _ ⟨⟩
  exact h

/-- Whatever waits has its place among these. -/
structure PlacedStack (P : Span → Prop) (opened : List Opened) (waiting : List Waiting) : Prop where
  waiting : ∀ w ∈ waiting, P w.span
  opened : ∀ o ∈ opened, P o.span ∧ ∀ w ∈ o.waiting, P w.span

theorem complete_placed {precedence : Nat} : ∀ {waiting : List Waiting} {e : Nested},
    (∀ w ∈ waiting, P w.span) → Placed P (complete precedence waiting e) ∧
      ∀ r, complete precedence waiting e = .ok r → ∀ w ∈ r.1, P w.span
  | [], _, _ => ⟨nofun, fun r hr => by rw [← Except.ok.inj hr]; nofun⟩
  | w :: ws, e, h => by
    obtain ⟨hw, hws⟩ := List.forall_mem_cons.mp h
    rw [complete]
    split
    · dsimp only
      split
      · exact ⟨placed_error hw, nofun⟩
      · exact complete_placed hws
    · refine ⟨nofun, fun r hr => ?_⟩
      rw [← Except.ok.inj hr]
      exact h

structure PlacedEnding (P : Span → Prop) (ending : Ending) : Prop where
  fault : ∀ fault, ending.fault = some fault → P fault.2
  stop : P ⟨ending.length, ending.length⟩

variable (hending : PlacedEnding P ending)
include hending

mutual

theorem readOperand_placed {opened : List Opened} {waiting : List Waiting} {prefixes : List UnaryOp} :
    ∀ {ls : List Lexeme}, (∀ l ∈ ls, P l.span) → PlacedStack P opened waiting →
      Placed P (readOperand ending opened waiting prefixes ls)
  | [], _, _ => by
    rw [readOperand]
    cases h : ending.fault with
    | none => exact placed_error hending.stop
    | some fault => exact placed_error (hending.fault fault h)
  | l :: ls, hls, hstack => by
    obtain ⟨hl, hls⟩ := List.forall_mem_cons.mp hls
    rw [readOperand]
    split
    · exact placed_error hl
    · split
      · exact readOperand_placed hls hstack
      · refine readOperand_placed hls ⟨nofun, ?_⟩
        exact List.forall_mem_cons.mpr ⟨⟨hl, hstack.waiting⟩, hstack.opened⟩
      · exact readOperator_placed hls hstack
      · exact readOperator_placed hls hstack
      · exact placed_error hl

theorem readOperator_placed {opened : List Opened} {waiting : List Waiting} {e : Nested} :
    ∀ {ls : List Lexeme}, (∀ l ∈ ls, P l.span) → PlacedStack P opened waiting →
      Placed P (readOperator ending opened waiting e ls)
  | [], _, hstack => by
    rw [readOperator]
    split
    · next fault h => exact placed_error (hending.fault fault h)
    · refine (complete_placed hstack.waiting).1.bind fun r _ => ?_
      cases opened with
      | nil => exact nofun
      | cons o opened => exact placed_error (hstack.opened o List.mem_cons_self).1
  | l :: ls, hls, hstack => by
    obtain ⟨hl, hls⟩ := List.forall_mem_cons.mp hls
    have hcomplete (precedence : Nat) : Placed P (complete precedence waiting e) ∧
        ∀ r, complete precedence waiting e = .ok r → ∀ w ∈ r.1, P w.span := complete_placed hstack.waiting
    rw [readOperator]
    split
    · next op _ =>
      refine (hcomplete op.precedence).1.bind fun r hr => ?_
      refine readOperand_placed hls ⟨?_, hstack.opened⟩
      exact List.forall_mem_cons.mpr ⟨hl, (hcomplete op.precedence).2 r hr⟩
    · refine (hcomplete 0).1.bind fun r _ => ?_
      obtain ⟨_, e⟩ := r
      dsimp only
      split
      · exact placed_error hl
      · exact placed_error hl
      · next o opened _ =>
        obtain ⟨ho, hopened⟩ := List.forall_mem_cons.mp hstack.opened
        exact readOperator_placed hls ⟨ho.2, hopened⟩
      · exact placed_error hl

end

end

/-- The place of a fault is a region of the source. -/
theorem parse_fault_within {source : List Char} {fault : ExprFault} {span : Span}
    (h : readOperand ⟨(Lexemes.read source).fault, byteLength source⟩ [] [] [] (Lexemes.read source).list =
      .error (fault, span)) : span.Within source := by
  have hspans := Lexemes.readFrom_within source.length [] source (Nat.le_refl _)
  have hending : PlacedEnding (·.Within source) ⟨(Lexemes.read source).fault, byteLength source⟩ := by
    refine ⟨fun f hf => hspans f.2 (List.mem_append_right _ ?_), .at_end source⟩
    have hf : (Lexemes.readFrom (byteLength []) source).fault = some f := hf
    rw [hf]
    exact List.mem_singleton.mpr rfl
  have hlist : ∀ l ∈ (Lexemes.read source).list, l.span.Within source := fun l hl =>
    hspans l.span (List.mem_append_left _ (List.mem_map_of_mem hl))
  exact readOperand_placed hending hlist ⟨List.forall_mem_nil _, List.forall_mem_nil _⟩ _ h

namespace Checked

/-- The assertion on places in empty sources holds: no token of an empty source is at fault. -/
theorem parse?_eq (source : String) : parse? source = some (Expr.parse source) := by
  unfold parse?
  rw [lex?_eq, Option.bind_some, Expr.parse]
  by_cases hsource : source = ""
  · subst hsource
    have hread : Lexemes.read "".toList = ⟨[], none⟩ := by
      simp [Lexemes.read, Lexemes.readFrom]
    rw [hread, readOperand]
    rfl
  · cases readOperand ⟨(Lexemes.read source.toList).fault, byteLength source.toList⟩ [] [] []
        (Lexemes.read source.toList).list with
    | ok e => rfl
    | error fault =>
      have hat (fault : ExprFault) (span : Span) :
          fault? fault source span = some (.ofExpr fault source span) := by
        unfold fault? faultAt? Error.ofExpr
        cases fault <;> simp only [if_neg hsource]
      dsimp only
      rw [hat]
      rfl

/-! ## Interpolated text -/

open Interpolation

theorem opens?_of_not_prefix {c : Char} {cs : List Char} (h : ['{', '{'].isPrefixOf (c :: cs) = false) :
    opens? (c :: cs) = none := by
  unfold opens?
  split
  · next heq =>
    obtain ⟨rfl, rfl⟩ := List.cons.inj heq
    cases h
  · rfl

theorem split_of_opens?_none {c : Char} {cs : List Char} (h : opens? (c :: cs) = none) (before : List Char) :
    split before (c :: cs) = split (c :: before) cs := by
  rw [split]
  split
  · next heq =>
    rw [h] at heq
    cases heq
  · rfl

theorem split_of_opens?_some {c : Char} {cs path after : List Char}
    (h : opens? (c :: cs) = some (path, after)) (before : List Char) : split before (c :: cs) =
      literal before.reverse (.var (.called (String.ofList (trimBlank path))) :: split [] after) := by
  rw [split]
  split
  · next heq =>
    rw [h] at heq
    obtain ⟨rfl, rfl⟩ := Prod.mk.inj (Option.some.inj heq)
    rfl
  · next heq =>
    rw [h] at heq
    cases heq

/-- Without an opening tag all is text. -/
theorem split_of_indexOf?_none : ∀ {cs : List Char}, indexOf? ['{', '{'] cs = none →
    occurs cs = false ∧ ∀ before, split before cs = literal (before.reverse ++ cs) []
  | [], _ => ⟨rfl, fun before => by rw [split, List.append_nil]⟩
  | c :: cs, h => by
    rw [indexOf?] at h
    split at h
    · cases h
    · next hstarts =>
      have hopens := opens?_of_not_prefix (Bool.eq_false_iff.mpr hstarts)
      obtain ⟨hoccurs, hsplit⟩ := split_of_indexOf?_none (Option.map_eq_none_iff.mp h)
      refine ⟨by rw [occurs, hopens, hoccurs]; rfl, fun before => ?_⟩
      rw [split_of_opens?_none hopens, hsplit, List.reverse_cons, List.append_assoc, List.singleton_append]

/-- What is before the first opening tag is text. -/
theorem split_of_indexOf?_some : ∀ {cs : List Char} {n : Nat}, indexOf? ['{', '{'] cs = some n →
    ∃ a b, cs = a ++ '{' :: '{' :: b ∧ byteLength a = n ∧ occurs cs = occurs ('{' :: '{' :: b) ∧
      ∀ before, split before cs = split (a.reverse ++ before) ('{' :: '{' :: b)
  | [], _, h => by cases h
  | c :: cs, n, h => by
    rw [indexOf?] at h
    split at h
    · next hstarts =>
      obtain ⟨b, hb⟩ := List.isPrefixOf_iff_prefix.mp hstarts
      obtain rfl := Option.some.inj h
      exact ⟨[], b, hb.symm, rfl, by rw [← hb]; rfl, fun before => by rw [← hb]; rfl⟩
    · next hstarts =>
      have hopens := opens?_of_not_prefix (Bool.eq_false_iff.mpr hstarts)
      obtain ⟨k, hk, rfl⟩ := Option.map_eq_some_iff.mp h
      obtain ⟨a, b, rfl, rfl, hoccurs, hsplit⟩ := split_of_indexOf?_some hk
      refine ⟨c :: a, b, rfl, rfl, by rw [occurs, hopens, ← hoccurs]; rfl, fun before => ?_⟩
      rw [split_of_opens?_none hopens, hsplit, List.reverse_cons, List.append_assoc, List.singleton_append]

theorem inside?_of_indexOf?_none : ∀ {cs : List Char}, indexOf? ['}', '}'] cs = none → inside? cs = none
  | [], _ => rfl
  | c :: cs, h => by
    rw [indexOf?] at h
    split at h
    · cases h
    · next hstarts =>
      have ih := inside?_of_indexOf?_none (Option.map_eq_none_iff.mp h)
      unfold inside?
      split
      · next heq => exact absurd (by rw [heq]; rfl) hstarts
      · rfl
      · next heq =>
        obtain ⟨rfl, rfl⟩ := List.cons.inj heq
        rw [ih]
        rfl
      · rfl

/-- Up to the first closing tag a line feed decides. -/
theorem inside?_of_indexOf?_some : ∀ {cs : List Char} {n : Nat}, indexOf? ['}', '}'] cs = some n →
    ∃ path after, cs = path ++ '}' :: '}' :: after ∧ byteLength path = n ∧
      inside? cs = if path.contains '\n' then none else some (path, after)
  | [], _, h => by cases h
  | c :: cs, n, h => by
    rw [indexOf?] at h
    split at h
    · next hstarts =>
      obtain ⟨after, hafter⟩ := List.isPrefixOf_iff_prefix.mp hstarts
      obtain rfl := Option.some.inj h
      exact ⟨[], after, hafter.symm, rfl, by rw [← hafter]; rfl⟩
    · next hstarts =>
      obtain ⟨k, hk, rfl⟩ := Option.map_eq_some_iff.mp h
      obtain ⟨path, after, rfl, rfl, hinside⟩ := inside?_of_indexOf?_some hk
      refine ⟨c :: path, after, rfl, rfl, ?_⟩
      unfold inside?
      split
      · next heq => exact absurd (by rw [heq]; rfl) hstarts
      · next heq =>
        obtain ⟨rfl, -⟩ := List.cons.inj heq
        rw [List.contains_cons]
        rfl
      · next c' cs' _ hfeed heq =>
        obtain ⟨rfl, rfl⟩ := List.cons.inj heq
        have hc : ('\n' == c) = false := beq_eq_false_iff_ne.mpr fun h => hfeed (by rw [h])
        rw [hinside, List.contains_cons, hc, Bool.false_or]
        split <;> rfl
      · next heq => cases heq

/-- What is found in a text that starts at an offset: the tags of its first variable, with the text
before them. -/
inductive Finds (start : Nat) : List Char → Option Tags → Prop
  | nothing {cs : List Char} (hoccurs : occurs cs = false)
    (hsplit : ∀ before, split before cs = literal (before.reverse ++ cs) []) : Finds start cs none
  | tags {a path after : List Char}
      (hoccurs : occurs (a ++ '{' :: '{' :: (path ++ '}' :: '}' :: after)) = true)
    (hsplit : ∀ before, split before (a ++ '{' :: '{' :: (path ++ '}' :: '}' :: after)) =
      literal (before.reverse ++ a) (.var (.called (String.ofList (trimBlank path))) :: split [] after)) :
    Finds start (a ++ '{' :: '{' :: (path ++ '}' :: '}' :: after))
      (some ⟨start + byteLength a, start + byteLength a + 2 + byteLength path,
        start + byteLength a + 2 + byteLength path + 2⟩)

/-- Text up to a brace that opens nothing is passed. -/
theorem Finds.later {start : Nat} {a cs : List Char} {found : Option Tags}
    (hoccurs : occurs (a ++ '{' :: cs) = occurs cs)
    (hsplit : ∀ before, split before (a ++ '{' :: cs) = split ('{' :: (a.reverse ++ before)) cs)
    (h : Finds (start + byteLength a + 1) cs found) : Finds start (a ++ '{' :: cs) found := by
  have hreverse (before : List Char) :
      ('{' :: (a.reverse ++ before)).reverse = before.reverse ++ (a ++ ['{']) := by
    simp
  cases h with
  | nothing hnone hrest =>
    refine .nothing (hoccurs.trans hnone) fun before => ?_
    rw [hsplit, hrest, hreverse]
    simp
  | @tags a' path after hsome hrest =>
    have hlength : start + byteLength a + 1 + byteLength a' = start + byteLength (a ++ '{' :: a') := by
      have : '{'.utf8Size = 1 := rfl
      simp [byteLength, this]
      omega
    have hword (rest : List Char) : a ++ '{' :: (a' ++ rest) = (a ++ '{' :: a') ++ rest := by simp
    rw [hlength, hword]
    refine .tags (by rw [← hword, hoccurs, hsome]) fun before => ?_
    rw [← hword, hsplit, hrest, hreverse]
    simp

theorem findFrom?_finds : ∀ (rounds : Nat) (seen cs : List Char), cs.length < rounds →
    ∃ found, findFrom? (seen ++ cs) rounds (byteLength seen) = some found ∧ Finds (byteLength seen) cs found
  | 0, _, _, h => absurd h (Nat.not_lt_zero _)
  | rounds + 1, seen, cs, h => by
    rw [findFrom?, rest?_append, Option.bind_some]
    cases hopening : indexOf? ['{', '{'] cs with
    | none =>
      obtain ⟨hoccurs, hsplit⟩ := split_of_indexOf?_none hopening
      exact ⟨none, rfl, .nothing hoccurs hsplit⟩
    | some n =>
      obtain ⟨a, b, rfl, rfl, hoccurs, hsplit⟩ := split_of_indexOf?_some hopening
      have htag : byteLength ['{', '{'] = 2 := rfl
      have hinside : byteLength seen + byteLength a + 2 = byteLength (seen ++ a ++ ['{', '{']) := by
        rw [byteLength_append, byteLength_append, htag]
      have htext : seen ++ (a ++ '{' :: '{' :: b) = seen ++ a ++ ['{', '{'] ++ b := by simp
      -- wherever no variable opens here, the search goes on one character further
      have hlater (hopens : opens? ('{' :: '{' :: b) = none) :
          ∃ found, findFrom? (seen ++ (a ++ '{' :: '{' :: b)) rounds
            (byteLength seen + byteLength a + 1) = some found ∧
            Finds (byteLength seen) (a ++ '{' :: '{' :: b) found := by
        have hstart : byteLength seen + byteLength a + 1 = byteLength (seen ++ a ++ ['{']) := by
          rw [byteLength_append, byteLength_append]
          rfl
        have hlength : ('{' :: b).length < rounds := by
          simp only [List.length_append, List.length_cons] at h ⊢
          omega
        obtain ⟨found, hfound, hfinds⟩ := findFrom?_finds rounds (seen ++ a ++ ['{']) ('{' :: b) hlength
        have hpass : occurs ('{' :: '{' :: b) = occurs ('{' :: b) := by
          rw [occurs, hopens]
          rfl
        refine ⟨found, ?_, .later (hoccurs.trans hpass) (fun before => ?_) (hstart ▸ hfinds)⟩
        · rw [hstart, ← hfound]
          simp
        · rw [hsplit, split_of_opens?_none hopens]
      dsimp only
      rw [hinside, htext, rest?_append, Option.bind_some, ← htext, ← hinside]
      cases hclosing : indexOf? ['}', '}'] b with
      | none => exact hlater (inside?_of_indexOf?_none hclosing)
      | some k =>
        obtain ⟨path, after, rfl, rfl, hpath⟩ := inside?_of_indexOf?_some hclosing
        have hslice : Span.slice?
            ⟨byteLength seen + byteLength a + 2, byteLength seen + byteLength a + 2 + byteLength path⟩
            (seen ++ (a ++ '{' :: '{' :: (path ++ '}' :: '}' :: after))) = some path := by
          rw [hinside, htext, ← List.append_assoc]
          exact slice?_append _ path _
        dsimp only
        rw [hslice, Option.bind_some]
        cases hfeed : path.contains '\n' with
        | true =>
          rw [if_pos rfl]
          rw [hfeed, if_pos rfl] at hpath
          exact hlater hpath
        | false =>
          rw [hfeed, if_neg (by decide)] at hpath
          have hopens : opens? ('{' :: '{' :: (path ++ '}' :: '}' :: after)) = some (path, after) := hpath
          refine ⟨_, if_neg (by decide), .tags ?_ fun before => ?_⟩
          · rw [hoccurs, occurs, hopens]
            rfl
          · rw [hsplit, split_of_opens?_some hopens, List.reverse_append, List.reverse_reverse]

theorem segmentsFrom?_eq : ∀ (rounds : Nat) (seen cs : List Char), cs.length < rounds →
    segmentsFrom? (seen ++ cs) rounds (byteLength seen) = some (split [] cs)
  | 0, _, _, h => absurd h (Nat.not_lt_zero _)
  | rounds + 1, seen, cs, h => by
    have hlength : cs.length < (seen ++ cs).length + 1 := by
      rw [List.length_append]
      omega
    obtain ⟨found, hfound, hfinds⟩ := findFrom?_finds _ seen cs hlength
    rw [segmentsFrom?, hfound, Option.bind_some]
    cases hfinds with
    | nothing _ hsplit =>
      dsimp only
      rw [hsplit, rest?_append, byteLength_append]
      cases cs with
      | nil => exact if_neg (Nat.lt_irrefl _)
      | cons c cs => exact if_pos (Nat.lt_add_of_pos_right (byteLength_pos (List.cons_ne_nil c cs)))
    | @tags a path after _ hsplit =>
      have htag : byteLength ['{', '{'] = 2 := rfl
      have hend : byteLength ['}', '}'] = 2 := rfl
      have htext : seen ++ (a ++ '{' :: '{' :: (path ++ '}' :: '}' :: after)) =
          seen ++ a ++ ['{', '{'] ++ path ++ ['}', '}'] ++ after := by simp
      have hbefore : Span.slice? ⟨byteLength seen, byteLength seen + byteLength a⟩
          (seen ++ (a ++ '{' :: '{' :: (path ++ '}' :: '}' :: after))) = some a := by
        rw [← List.append_assoc]
        exact slice?_append seen a _
      have hpath : Span.slice?
          ⟨byteLength seen + byteLength a + 2, byteLength seen + byteLength a + 2 + byteLength path⟩
          (seen ++ (a ++ '{' :: '{' :: (path ++ '}' :: '}' :: after))) = some path := by
        rw [htext, List.append_assoc _ ['}', '}'], ← htag, ← byteLength_append, ← byteLength_append]
        exact slice?_append _ path _
      have hrest : segmentsFrom? (seen ++ (a ++ '{' :: '{' :: (path ++ '}' :: '}' :: after))) rounds
          (byteLength seen + byteLength a + 2 + byteLength path + 2) = some (split [] after) := by
        have hafter : after.length < rounds := by
          simp only [List.length_append, List.length_cons] at h
          omega
        have := segmentsFrom?_eq rounds (seen ++ a ++ ['{', '{'] ++ path ++ ['}', '}']) after hafter
        simp only [byteLength_append, htag, hend] at this
        rw [htext, this]
      dsimp only
      rw [hbefore, hpath, hrest, hsplit]
      cases a with
      | nil =>
        rw [if_neg (show ¬ byteLength seen < byteLength seen + byteLength [] from Nat.lt_irrefl _)]
        rfl
      | cons c a =>
        rw [if_pos (Nat.lt_add_of_pos_right (byteLength_pos (List.cons_ne_nil c a)))]
        rfl

theorem segments?_eq (text : String) : segments? text = some (segmentsOf text) :=
  segmentsFrom?_eq (text.toList.length + 1) [] text.toList (Nat.lt_succ_self _)

theorem hasInterpolation?_eq (text : String) : hasInterpolation? text = some (hasInterpolation text) := by
  unfold hasInterpolation? hasInterpolation
  generalize text.toList = cs
  obtain ⟨found, hfound, hfinds⟩ := findFrom?_finds (cs.length + 1) [] cs (Nat.lt_succ_self _)
  have hfound : findFrom? cs (cs.length + 1) 0 = some found := hfound
  rw [hfound]
  cases hfinds with
  | nothing hoccurs _ => rw [hoccurs]; rfl
  | tags hoccurs _ => rw [hoccurs]; rfl

/-! ## Snippets -/

/-- Counting the bytes before a line up from zero gives the place that counting the offset down gives. -/
theorem placeFrom?_eq [TextWidth] (lines : List (List Char)) (offset : Nat) :
    ∀ (rest : List (List Char)) (index n : Nat), n ≤ offset →
      placeFrom? lines offset index n rest = placeOf?.go lines index (offset - n) rest
  | [], _, _, _ => rfl
  | line :: rest, index, n, h => by
    rw [placeFrom?, placeOf?.go]
    by_cases hline : offset < n + (byteLength line + 1)
    · rw [if_pos hline, if_pos (by omega), minus?_of_le h, Option.bind_some]
    · rw [if_neg hline, if_neg (by omega), placeFrom?_eq lines offset rest _ _ (by omega), Nat.sub_sub]

theorem place?_eq [TextWidth] (source : List Char) (offset : Nat) :
    place? source offset = placeOf? (textLines source) offset :=
  placeFrom?_eq _ offset _ 0 0 (Nat.zero_le _)

end Checked

/-! ## Snippets of errors -/

theorem cut?_cons_isSome {c : Char} {cs : List Char} {n : Nat} (hn : c.utf8Size ≤ n) :
    (cut? (c :: cs) n).isSome = (cut? cs (n - c.utf8Size)).isSome := by
  have hpos := c.utf8Size_pos
  obtain ⟨m, rfl⟩ : ∃ m, n = m + 1 := ⟨n - 1, by omega⟩
  rw [cut?, if_pos hn, Option.isSome_map]

theorem le_of_cut?_cons_isSome {c : Char} {cs : List Char} {n : Nat}
    (h : (cut? (c :: cs) n).isSome) (hn : n ≠ 0) : c.utf8Size ≤ n := by
  obtain ⟨m, rfl⟩ := Nat.exists_eq_succ_of_ne_zero hn
  by_cases hc : c.utf8Size ≤ m + 1
  · exact hc
  · rw [cut?, if_neg hc] at h
    cases h

/-- An offset between characters of a text has a place in its lines. -/
theorem placeOf?_go_isSome [TextWidth] (lines : List (List Char)) : ∀ (cs : List Char) (index offset : Nat),
    (cut? cs offset).isSome → (placeOf?.go lines index offset (textLines cs)).isSome
  | [], _, _, _ => rfl
  | c :: cs, index, offset, h => by
    have hzero (line : List Char) (rest : List (List Char)) :
        (placeOf?.go lines index 0 (line :: rest)).isSome := by
      rw [placeOf?.go, if_pos (Nat.zero_lt_succ _)]
      cases line <;> rfl
    rw [textLines]
    by_cases hoffset : offset = 0
    · subst hoffset
      split
      · exact hzero _ _
      · split <;> exact hzero _ _
    · have hc := le_of_cut?_cons_isSome h hoffset
      rw [cut?_cons_isSome hc] at h
      have ih (index : Nat) := placeOf?_go_isSome lines cs index (offset - c.utf8Size) h
      split
      · next hfeed =>
        subst hfeed
        have hsize : '\n'.utf8Size = 1 := rfl
        rw [placeOf?.go, if_neg (by simp only [byteLength]; omega)]
        exact ih (index + 1)
      · split
        · next hlines =>
          have := ih index
          rw [placeOf?.go]
          split
          · rw [Option.isSome_map, cut?_cons_isSome hc]
            cases cs with
            | nil => exact h
            | cons d cs =>
              rw [textLines] at hlines
              split at hlines
              · cases hlines
              · split at hlines <;> cases hlines
          · rfl
        · next line rest hlines =>
          have := ih index
          have hlength : byteLength (c :: line) = c.utf8Size + byteLength line := rfl
          rw [hlines, placeOf?.go] at this
          rw [placeOf?.go]
          split at this
          · next hlt =>
            rw [if_pos (by omega), Option.isSome_map, cut?_cons_isSome hc]
            rwa [Option.isSome_map] at this
          · next hlt =>
            rw [if_neg (by omega)]
            have hoffset : offset - (byteLength (c :: line) + 1) =
                offset - c.utf8Size - (byteLength line + 1) := by
              omega
            rw [hoffset]
            exact this

theorem snippetAt?_isSome [TextWidth] (e : Error) {source : List Char} {span : Span}
    (h : span.Within source) : (e.snippetAt? source span).isSome := by
  obtain ⟨place, hplace⟩ := Option.isSome_iff_exists.mp
    (placeOf?_go_isSome (textLines source) source 0 span.start h.ends.1)
  have hplace : placeOf? (textLines source) span.start = some place := hplace
  obtain ⟨marked, hmarked⟩ := Option.isSome_iff_exists.mp h.slice?_isSome
  unfold Error.snippetAt?
  dsimp only
  rw [hplace, hmarked]
  rfl

theorem parse_error_within {source place : String} {span : Span} {e : Error}
    (h : Expr.parse source = .error e) (hplace : e.place = some (place, span)) :
    place = source ∧ span.Within source.toList := by
  unfold Expr.parse at h
  dsimp only at h
  split at h
  · cases h
  · next fault span' hfault =>
    obtain rfl := Except.error.inj h
    unfold Error.ofExpr at hplace
    dsimp only at hplace
    split at hplace
    · cases hplace
    · obtain ⟨rfl, rfl⟩ := Prod.mk.inj (Option.some.inj hplace)
      exact ⟨rfl, parse_fault_within hfault⟩

theorem loopHeader_error_place [IdentifierChars] {source : String} {e : Error}
    (h : LoopHeader.parse source = .error e) : e.place = none := by
  unfold LoopHeader.parse at h
  split at h
  · cases h
  · obtain rfl := Except.error.inj h
    rfl

/-- No reader of a source fails to cut it, and the place of every error is a region of the source that
can be shown in a line of it, whatever the widths of texts and the identifier characters are. -/
theorem readers_and_snippets_never_fail [TextWidth] [IdentifierChars] (source : String) :
    Checked.parse? source = some (Expr.parse source) ∧
    Checked.segments? source = some (segmentsOf source) ∧
    Checked.hasInterpolation? source = some (hasInterpolation source) ∧
    ∀ e, Expr.parse source = .error e ∨ LoopHeader.parse source = .error e →
      ∀ place span, e.place = some (place, span) → place = source ∧
        (span.start ≤ span.stop ∧ span.stop ≤ byteLength source.toList) ∧
        ((cut? source.toList span.start).isSome ∧ (cut? source.toList span.stop).isSome) ∧
        ((Checked.place? source.toList span.start).isSome ∧
          Checked.place? source.toList span.start = placeOf? (textLines source.toList) span.start) ∧
        e.snippet?.isSome := by
  refine ⟨Checked.parse?_eq source, Checked.segments?_eq source, Checked.hasInterpolation?_eq source, ?_⟩
  rintro e (he | he) place span hplace
  · obtain ⟨rfl, hwithin⟩ := parse_error_within he hplace
    refine ⟨rfl, hwithin.ordered, hwithin.ends, ⟨?_, Checked.place?_eq _ _⟩, ?_⟩
    · rw [Checked.place?_eq]
      exact placeOf?_go_isSome _ _ 0 _ hwithin.ends.1
    · rw [Error.snippet?, hplace]
      exact snippetAt?_isSome e hwithin
  · rw [loopHeader_error_place he] at hplace
    cases hplace

/-- A place behind characters of two bytes, in the second line. -/
theorem fault_behind_long_characters_is_shown :
    let source := "'é' ==\n\"ü\" & b"
    let e : Error := ⟨.expression .unexpectedCharacter, none, some (source, ⟨13, 14⟩)⟩
    Expr.parse source = .error e ∧ @Checked.place? .ofLength source.toList 13 = some ⟨1, 4⟩ ∧
      14 ≤ byteLength source.toList ∧ (@Error.snippet? .ofLength e).isSome := by
  intro source e
  have hparse : Expr.parse source = .error e := by decide +kernel
  obtain ⟨-, -, -, herror⟩ := @readers_and_snippets_never_fail .ofLength .ascii source
  obtain ⟨-, ⟨-, hstop⟩, -, -, hsnippet⟩ := herror e (.inl hparse) source ⟨13, 14⟩ rfl
  exact ⟨hparse, by decide +kernel, hstop, hsnippet⟩

end TemplateTree
