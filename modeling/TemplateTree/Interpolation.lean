import TemplateTree.Text.Blank
import TemplateTree.Variable

/-!
# Interpolated text

Text may hold variables between double braces. Two opening braces start a variable if two closing braces
follow them on the same line; the path between them is trimmed. All other text stands for itself.
-/

namespace TemplateTree

inductive Segment where
  | text (s : String)
  | var (v : Variable)
deriving DecidableEq

/-- Text of a template: one literal, or literals and variables in turn. -/
inductive TemplateText where
  | literal (s : String)
  | mixed (segments : List Segment)
deriving DecidableEq

namespace Interpolation

/-- The text up to two closing braces on the same line, and the text behind them. -/
def inside? : List Char → Option (List Char × List Char)
  | '}' :: '}' :: rest => some ([], rest)
  | '\n' :: _ => none
  | c :: cs => (inside? cs).map fun p => (c :: p.1, p.2)
  | [] => none

theorem length_of_inside? {cs path rest : List Char} (h : inside? cs = some (path, rest)) :
    rest.length < cs.length := by
  fun_induction inside? cs generalizing path rest with
  | case1 r =>
    simp only [Option.some.injEq, Prod.mk.injEq] at h
    rw [← h.2, List.length_cons, List.length_cons]
    omega
  | case2 => simp at h
  | case3 c cs _ _ ih =>
    obtain ⟨p, hp, h⟩ := Option.map_eq_some_iff.1 h
    simp only [Prod.mk.injEq] at h
    rw [← h.2, List.length_cons]
    exact Nat.lt_succ_of_lt (ih hp)
  | case4 => simp at h

def opens? : List Char → Option (List Char × List Char)
  | '{' :: '{' :: cs => inside? cs
  | _ => none

theorem length_of_opens? {cs path rest : List Char} (h : opens? cs = some (path, rest)) :
    rest.length < cs.length := by
  unfold opens? at h
  split at h
  · have := length_of_inside? h
    rw [List.length_cons, List.length_cons]
    omega
  · simp at h

/-- A piece of literal text before other segments; no segment is empty. -/
def literal (text : List Char) (rest : List Segment) : List Segment :=
  if text = [] then rest else .text (String.ofList text) :: rest

/-- The segments of a text, where `before` is the literal text already read, the last character first. -/
def split (before cs : List Char) : List Segment :=
  match cs with
  | [] => literal before.reverse []
  | c :: rest =>
    match _h : opens? (c :: rest) with
    | some (path, after) =>
      literal before.reverse (.var (.called (String.ofList (trimBlank path))) :: split [] after)
    | none => split (c :: before) rest
termination_by cs.length
decreasing_by
  · exact length_of_opens? _h
  · simp

def occurs : List Char → Bool
  | [] => false
  | c :: rest => (opens? (c :: rest)).isSome || occurs rest

end Interpolation

def segmentsOf (s : String) : List Segment :=
  Interpolation.split [] s.toList

def hasInterpolation (s : String) : Bool :=
  Interpolation.occurs s.toList

namespace TemplateText

def ofString (s : String) : TemplateText :=
  if hasInterpolation s then .mixed (segmentsOf s) else .literal s

def segments : TemplateText → List Segment
  | .literal s => [.text s]
  | .mixed segments => segments

end TemplateText

end TemplateTree
