import Mathlib.Data.List.DropRight
import TemplateTree.Proofs.Slicing

/-!
# Snippets

The snippet of an error in an expression shows the line of the fault under its number, and carets below
the faulty text. Only a fault behind a line feed at the end of the source is shown at the end of the
line before. All of this is so whatever the widths of texts are.
-/

namespace TemplateTree

/-! ## Lines -/

/-- Lines with a line feed behind each. -/
def joinLines (lines : List (List Char)) : List Char :=
  lines.flatMap (· ++ ['\n'])

theorem joinLines_cons (line : List Char) (lines : List (List Char)) :
    joinLines (line :: lines) = line ++ '\n' :: joinLines lines := by
  simp [joinLines]

/-- Every text is lines with a line feed behind each, and one line without. -/
theorem exists_joinLines (cs : List Char) :
    ∃ lines last, cs = joinLines lines ++ last ∧ (∀ line ∈ lines, '\n' ∉ line) ∧ '\n' ∉ last := by
  induction cs with
  | nil => exact ⟨[], [], rfl, by simp, by simp⟩
  | cons c cs ih =>
    obtain ⟨lines, last, rfl, hlines, hlast⟩ := ih
    by_cases hc : c = '\n'
    · exact ⟨[] :: lines, last, by simp [joinLines, hc], by simpa using hlines, hlast⟩
    · cases lines with
      | nil => exact ⟨[], c :: last, rfl, by simp, by simp [Ne.symm hc, hlast]⟩
      | cons line lines =>
        obtain ⟨hline, hlines⟩ := List.forall_mem_cons.mp hlines
        exact ⟨(c :: line) :: lines, last, rfl, by simpa [Ne.symm hc, hline] using hlines, hlast⟩

theorem textLines_append_feed {line : List Char} (h : '\n' ∉ line) (cs : List Char) :
    textLines (line ++ '\n' :: cs) = line :: textLines cs := by
  induction line with
  | nil => simp [textLines]
  | cons c line ih =>
    rw [List.mem_cons, not_or] at h
    rw [List.cons_append, textLines, if_neg (Ne.symm h.1), ih h.2]

section
variable {lines : List (List Char)} {last : List Char}
  (hlines : ∀ line ∈ lines, '\n' ∉ line) (hlast : '\n' ∉ last)
include hlines

theorem textLines_joinLines (cs : List Char) : textLines (joinLines lines ++ cs) = lines ++ textLines cs := by
  induction lines with
  | nil => rfl
  | cons line lines ih =>
    obtain ⟨hfirst, hlines⟩ := List.forall_mem_cons.mp hlines
    rw [joinLines_cons, List.append_assoc, List.cons_append, textLines_append_feed hfirst,
      ih hlines, List.cons_append]

include hlast

theorem count_joinLines : (joinLines lines ++ last).count '\n' = lines.length := by
  rw [List.count_append, List.count_eq_zero.mpr hlast, Nat.add_zero]
  induction lines with
  | nil => rfl
  | cons line lines ih =>
    obtain ⟨hline, hlines⟩ := List.forall_mem_cons.mp hlines
    rw [joinLines_cons, List.count_append, List.count_eq_zero.mpr hline, List.count_cons_self,
      ih hlines, Nat.zero_add, List.length_cons]

end

theorem textLines_of_ne_nil {cs : List Char} (h : cs ≠ []) :
    ∃ lines, textLines cs = cs.takeWhile (· ≠ '\n') :: lines := by
  induction cs with
  | nil => exact absurd rfl h
  | cons c cs ih =>
    rw [textLines]
    by_cases hc : c = '\n'
    · exact ⟨textLines cs, by simp [hc]⟩
    · cases cs with
      | nil => exact ⟨[], by simp [hc, textLines]⟩
      | cons d cs =>
        obtain ⟨lines, hlines⟩ := ih (List.cons_ne_nil d cs)
        exact ⟨lines, by simp [hc, hlines]⟩

/-- The part of a text behind its last line feed. -/
def lastLine (cs : List Char) : List Char :=
  cs.rtakeWhile (· ≠ '\n')

theorem lastLine_joinLines (lines : List (List Char)) {last : List Char} (hlast : '\n' ∉ last) :
    lastLine (joinLines lines ++ last) = last := by
  induction last using List.reverseRecOn with
  | nil =>
    rcases List.eq_nil_or_concat lines with rfl | ⟨lines, line, rfl⟩
    · rfl
    · simp [lastLine, joinLines, ← List.append_assoc]
  | append_singleton last c ih =>
    obtain ⟨hlast, hc⟩ : '\n' ∉ last ∧ '\n' ≠ c := by simpa using hlast
    rw [lastLine, ← List.append_assoc, List.rtakeWhile_concat_pos _ _ _ (by simpa using Ne.symm hc)]
    exact congrArg (· ++ [c]) (ih hlast)

/-! ## Places -/

section
variable [TextWidth]

theorem placeOf?_go_joinLines (all : List (List Char)) (offset : Nat) (rest : List (List Char)) :
    ∀ (lines : List (List Char)) (index : Nat),
      placeOf?.go all index (byteLength (joinLines lines) + offset) (lines ++ rest) =
        placeOf?.go all (index + lines.length) offset rest
  | [], _ => by simp [joinLines, byteLength]
  | line :: lines, index => by
    have hsize : '\n'.utf8Size = 1 := rfl
    have hlength : byteLength (joinLines (line :: lines)) + offset =
        byteLength line + 1 + (byteLength (joinLines lines) + offset) := by
      rw [joinLines_cons, byteLength_append, byteLength, hsize]
      omega
    rw [hlength, List.cons_append, placeOf?.go, if_neg (by omega), Nat.add_sub_cancel_left,
      placeOf?_go_joinLines all offset rest lines, List.length_cons, Nat.add_assoc, Nat.add_comm 1]

theorem placeOf?_go_line (all : List (List Char)) (index : Nat) (a b : List Char) (rest : List (List Char)) :
    placeOf?.go all index (byteLength a) ((a ++ b) :: rest) = some ⟨index, displayWidth a⟩ := by
  rw [placeOf?.go, if_pos (by rw [byteLength_append]; omega), cut?_append]
  rfl

/-- A place in a line, or at the end of one, is shown there. -/
theorem shown_of_ne_nil {before rest : List Char} (h : lastLine before ++ rest ≠ []) :
    placeOf? (textLines (before ++ rest)) (byteLength before) =
      some ⟨before.count '\n', displayWidth (lastLine before)⟩ ∧
    shownLine (textLines (before ++ rest)) (before.count '\n') =
      lastLine before ++ rest.takeWhile (· ≠ '\n') := by
  obtain ⟨lines, last, rfl, hlines, hlast⟩ := exists_joinLines before
  rw [lastLine_joinLines lines hlast] at h ⊢
  obtain ⟨more, hmore⟩ := textLines_of_ne_nil h
  have htake : (last ++ rest).takeWhile (· ≠ '\n') = last ++ rest.takeWhile (· ≠ '\n') := by
    refine List.takeWhile_append_of_pos fun c hc => ?_
    simpa using ne_of_mem_of_not_mem hc hlast
  rw [List.append_assoc, textLines_joinLines hlines, hmore, htake, count_joinLines hlines hlast]
  constructor
  · rw [placeOf?, byteLength_append, placeOf?_go_joinLines, placeOf?_go_line, Nat.zero_add]
  · simp [shownLine]

/-- A place behind all lines is shown at the end of the last one, though it counts as being on the next. -/
theorem shown_at_end (body : List Char) :
    placeOf? (textLines (body ++ ['\n'])) (byteLength (body ++ ['\n'])) =
      some ⟨(body ++ ['\n']).count '\n', displayWidth (lastLine body)⟩ ∧
    shownLine (textLines (body ++ ['\n'])) ((body ++ ['\n']).count '\n') = lastLine body := by
  obtain ⟨lines, last, rfl, hlines, hlast⟩ := exists_joinLines body
  have hall : ∀ line ∈ lines ++ [last], '\n' ∉ line := by
    simpa [or_imp, forall_and] using ⟨hlines, hlast⟩
  have hjoin : joinLines lines ++ last ++ ['\n'] = joinLines (lines ++ [last]) := by simp [joinLines]
  have htext : textLines (joinLines (lines ++ [last])) = lines ++ [last] := by
    simpa [textLines] using textLines_joinLines hall []
  have hcount : (joinLines (lines ++ [last])).count '\n' = lines.length + 1 := by
    simpa using count_joinLines hall (List.not_mem_nil (a := '\n'))
  rw [lastLine_joinLines lines hlast, hjoin, htext, hcount]
  constructor
  · -- the walk goes past all lines, and its fallback is the width of the last one
    have hplace := placeOf?_go_joinLines (lines ++ [last]) 0 [] (lines ++ [last]) 0
    simpa [placeOf?, placeOf?.go] using hplace
  · simp [shownLine]

end

theorem eq_append_feed_of_lastLine {before : List Char} (h : lastLine before = []) (hne : before ≠ []) :
    ∃ body, before = body ++ ['\n'] := by
  obtain ⟨lines, last, rfl, -, hlast⟩ := exists_joinLines before
  rw [lastLine_joinLines lines hlast] at h
  subst h
  rcases List.eq_nil_or_concat lines with rfl | ⟨lines, line, rfl⟩
  · exact absurd rfl hne
  · exact ⟨joinLines lines ++ line, by simp [joinLines]⟩

/-! ## Snippets -/

namespace Error

/-- A line of a source under its number, with carets below it from a column on and the message behind them. -/
def layout [TextWidth] (e : Error) (number : Nat) (code : List Char) (column width : Nat) : String :=
  let margin := blanks (displayWidth (toString number).toList)
  let carets := String.ofList (List.replicate (max 1 width) '^')
  "\n " ++ margin ++ " |\n " ++ toString number ++ " | " ++ String.ofList code ++ "\n " ++ margin ++ " | "
    ++ blanks column ++ carets ++ " " ++ e.message ++ "\n"

theorem report_eq_layout [TextWidth] {e : Error} {source : String} {span : Span}
    {line column : Nat} {marked : List Char} (htemplate : e.template = none)
    (hplace : e.place = some (source, span))
    (hline : placeOf? (textLines source.toList) span.start = some ⟨line, column⟩)
    (hmarked : span.slice? source.toList = some marked) :
    e.report = e.layout (1 + line) (shownLine (textLines source.toList) line) column
      (displayWidth marked) := by
  have hsnippet : e.snippet? = e.snippetAt? source.toList span := by
    simp only [snippet?, hplace, Option.bind_some]
  unfold report layout
  rw [hsnippet, Nat.add_comm 1]
  simp [snippetAt?, hline, hmarked, htemplate]

end Error

theorem parse_error_place {source place : String} {span : Span} {e : Error} (h : Expr.parse source = .error e)
    (hplace : e.place = some (place, span)) : e.template = none ∧ source.toList ≠ [] := by
  unfold Expr.parse at h
  dsimp only at h
  split at h
  · cases h
  · obtain rfl := Except.error.inj h
    refine ⟨rfl, fun hempty => ?_⟩
    have hsource : source = "" := by simpa using hempty
    simp [Error.ofExpr, hsource] at hplace

/-- The snippet of a fault shows the line in which it starts, under its number and with the carets from
its column on, however wide texts are. A fault behind a line feed that ends the source has the number of
the empty line there, but is shown at the end of the line before. -/
theorem snippet_shows_line_of_fault [TextWidth] {source place : String} {span : Span} {e : Error}
    (h : Expr.parse source = .error e) (hplace : e.place = some (place, span)) :
    place = source ∧ span.Within source.toList ∧
    ∀ before marked after, source.toList = before ++ marked ++ after →
      span = ⟨byteLength before, byteLength before + byteLength marked⟩ →
        ((marked ++ after = [] → ∀ body, before ≠ body ++ ['\n']) →
          e.report = e.layout (1 + before.count '\n')
            (lastLine before ++ (marked ++ after).takeWhile (· ≠ '\n'))
            (displayWidth (lastLine before)) (displayWidth marked)) ∧
        ∀ body, before = body ++ ['\n'] → marked ++ after = [] → e.report =
          e.layout (1 + before.count '\n') (lastLine body) (displayWidth (lastLine body))
            (displayWidth marked) := by
  obtain ⟨rfl, hwithin⟩ := parse_error_within h hplace
  obtain ⟨htemplate, hne⟩ := parse_error_place h hplace
  refine ⟨rfl, hwithin, ?_⟩
  rintro before marked after hsource rfl
  have hmarked : Span.slice? ⟨byteLength before, byteLength before + byteLength marked⟩ place.toList =
      some marked := by
    rw [hsource, slice?_append]
  rw [List.append_assoc] at hsource
  have hlines : textLines place.toList = textLines (before ++ (marked ++ after)) := congrArg textLines hsource
  refine ⟨fun hinside => ?_, ?_⟩
  · have hline : lastLine before ++ (marked ++ after) ≠ [] := by
      intro hnil
      obtain ⟨hlast, hrest⟩ := List.append_eq_nil_iff.mp hnil
      rw [hsource, hrest, List.append_nil] at hne
      obtain ⟨body, hbody⟩ := eq_append_feed_of_lastLine hlast hne
      exact hinside hrest body hbody
    obtain ⟨hat, hshown⟩ := shown_of_ne_nil hline
    rw [← hlines] at hat hshown
    rw [Error.report_eq_layout htemplate hplace hat hmarked, hshown]
  · rintro body rfl hrest
    obtain ⟨hat, hshown⟩ := shown_at_end body
    rw [hrest, List.append_nil] at hlines
    rw [← hlines] at hat hshown
    rw [Error.report_eq_layout htemplate hplace hat hmarked, hshown]

theorem fault_in_second_line_is_shown :
    let source := "a &&\nb c"
    let e : Error := ⟨.expression (.expectedOperator (.operand ['c'])), none, some (source, ⟨7, 8⟩)⟩
    Expr.parse source = .error e ∧
      @Error.report .ofLength e = "\n   |\n 2 | b c\n   |   ^ expected operator, found operand\n" := by
  intro source e
  have hparse : Expr.parse source = .error e := by decide +kernel
  obtain ⟨-, -, hshown⟩ := @snippet_shows_line_of_fault .ofLength _ _ _ _ hparse rfl
  refine ⟨hparse, ?_⟩
  rw [(hshown "a &&\nb ".toList ['c'] [] (by decide +kernel) (by decide +kernel)).1 (by simp)]
  decide +kernel

/-- The empty line behind the line feed has the number 2 and no width, but the line before is shown
under it. -/
theorem fault_behind_last_line_is_misplaced :
    let source := "a &&\n"
    let e : Error := ⟨.expression (.expectedOperand none), none, some (source, ⟨5, 5⟩)⟩
    TextWidth.ofLength.displayWidth [] = 0 ∧ Expr.parse source = .error e ∧
      byteLength "a &&\n".toList = 5 ∧ lastLine "a &&\n".toList = [] ∧
      @Error.report .ofLength e = @Error.layout .ofLength e 2 "a &&".toList 4 0 ∧
      @Error.report .ofLength e ≠ @Error.layout .ofLength e 2 [] 0 0 := by
  decide +kernel

end TemplateTree
