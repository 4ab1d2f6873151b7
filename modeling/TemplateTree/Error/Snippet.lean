import TemplateTree.Error.Basic
import TemplateTree.Text.Width

/-!
# Error snippets

A fault in the source of an expression is shown below the line it is on, with carets under the faulty text
and the message behind them. A place behind the last line is shown at the end of that line, under
the next number. A place that does not lie between characters of the source has no snippet.
-/

namespace TemplateTree

/-- The lines of a text. A line feed at the end starts no further line. -/
def textLines : List Char → List (List Char)
  | [] => []
  | c :: cs =>
    if c = '\n' then [] :: textLines cs
    else match textLines cs with
      | [] => [[c]]
      | line :: lines => (c :: line) :: lines

/-- A line of the source by its index from 0, and the column of a place in it. -/
structure LinePlace where
  line : Nat
  column : Nat
deriving DecidableEq

/-- The place of a byte offset. An offset behind all lines is at the end of the last one. -/
def placeOf? [TextWidth] (lines : List (List Char)) (offset : Nat) : Option LinePlace :=
  go 0 offset lines
where
  go (index offset : Nat) : List (List Char) → Option LinePlace
    | [] => some ⟨index, (lines.getLast?.map displayWidth).getD 0⟩
    | line :: rest =>
      if offset < byteLength line + 1 then
        (cut? line offset).map fun p => ⟨index, displayWidth p.1⟩
      else go (index + 1) (offset - (byteLength line + 1)) rest

def shownLine (lines : List (List Char)) (index : Nat) : List Char :=
  (lines[index]?.or lines.getLast?).getD []

def blanks (n : Nat) : String :=
  String.ofList (List.replicate n ' ')

namespace Error

def snippetAt? [TextWidth] (e : Error) (source : List Char) (span : Span) : Option String := do
  let lines := textLines source
  let place ← placeOf? lines span.start
  let marked ← span.slice? source
  let number := toString (place.line + 1)
  let margin := blanks (displayWidth number.toList)
  let carets := String.ofList (List.replicate (max 1 (displayWidth marked)) '^')
  let header := match e.template with
    | some name => "\n " ++ margin ++ "--> " ++ name
    | none => ""
  return header ++ "\n " ++ margin ++ " |\n " ++ number ++ " | "
    ++ String.ofList (shownLine lines place.line) ++ "\n " ++ margin ++ " | " ++ blanks place.column ++ carets
    ++ " " ++ e.message ++ "\n"

def snippet? [TextWidth] (e : Error) : Option String :=
  e.place.bind fun p => e.snippetAt? p.1.toList p.2

def report [TextWidth] (e : Error) : String :=
  e.snippet?.getD e.line

end Error

end TemplateTree
