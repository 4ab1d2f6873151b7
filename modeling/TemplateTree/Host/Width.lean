import TemplateTree.Host.Ligature
import TemplateTree.Host.Picture
import TemplateTree.Text.Width

/-!
# Columns of a text

The width of texts in a terminal. Most characters take one column, wide ones two, and marks and line feeds
none. What stands behind a character can change its width: a variation selector, the rest of a picture, a
letter that it joins, a line feed behind a carriage return. The text is therefore read from its end, and
`step` measures one character before what is already known.
-/

namespace TemplateTree

/-- What a character, with all that stands behind it, is to the one before it. -/
inductive Join where
  | plain
  | lineFeed
  | letter (l : Ligature)
  | picture (p : Picture)
deriving DecidableEq

/-- A variation selector, which asks for the text or the picture of the character before it. -/
inductive Selector where
  | text
  | picture
deriving DecidableEq

structure Following where
  join : Join
  selector : Option Selector
deriving DecidableEq

namespace Join

/-- What is left behind a selector: letters still join, and nothing else does. -/
def selected : Join → Join
  | letter l => if l.keeps then letter l else plain
  | _ => plain

/-- Whether a picture that comes next is part of a sequence whose columns are counted already. -/
def isJoiner : Join → Bool
  | picture p => p.isJoiner
  | _ => false

/-- The width of a character by itself, and what it is to the character before it. -/
def alone (c : Char) : Int × Join :=
  if WidthClass.zero.holds c then (0, plain)
  else match Ligature.ofChar? c with
    | some l => (1, letter l)
    | none => match Picture.ofChar? c with
      | some (width, p) => (width, picture p)
      | none =>
        if c = '\u17D8' then (3, plain)
        else if c = '\u17A4' || WidthClass.wide.holds c then (2, plain)
        else (1, plain)

/-- The width of a character that is no selector and that no selector follows. A control character counts one
column, save a line feed and the carriage return before it. -/
def before (next : Join) (c : Char) : Int × Join :=
  if c = '\n' then (0, lineFeed)
  else if c.toNat ≤ 0xA0 then (if c = '\r' && next = lineFeed then 0 else 1, plain)
  else match next with
    | letter l => match l.before? c with
      | some (width, some l) => (width, letter l)
      | some (width, none) => (width, plain)
      | none => alone c
    | picture p => match p.before? c with
      | some (width, p) => (width, picture p)
      | none => alone c
    | _ => alone c

end Join

namespace Following

/-- The width of a character that no selector changes. A selector takes no column and applies to the
character before it. -/
def place (next : Join) (c : Char) : Int × Following :=
  if c = '\uFE0F' then (0, ⟨if next.isJoiner then next else next.selected, some .picture⟩)
  else if c = '\uFE0E' then (0, ⟨next.selected, some .text⟩)
  else match next.before c with
    | (width, join) => (width, ⟨join, none⟩)

def step (next : Following) (c : Char) : Int × Following :=
  match next.selector with
  | some .picture =>
    if WidthClass.textAsPicture.holds c then
      (if next.join.isJoiner then 0 else 2, ⟨.picture .whole, none⟩)
    else place next.join.selected c
  | some .text =>
    if WidthClass.pictureAsText.holds c then (1, ⟨.plain, none⟩) else place next.join c
  | none => place next.join c

end Following

/-- The columns of a text and what its first character is to one before it. -/
def measure (cs : List Char) : Int × Following :=
  cs.foldr (fun c after => let here := after.2.step c; (here.1 + after.1, here.2)) (0, ⟨.plain, none⟩)

instance : TextWidth :=
  ⟨fun cs => (measure cs).1.toNat⟩

end TemplateTree
