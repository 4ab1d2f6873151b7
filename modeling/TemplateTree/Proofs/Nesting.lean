import TemplateTree.Proofs.ExprGrammar

/-!
# Nesting of expressions

How high the expressions are that a source is read as. Binary operators are checked with all that is
below them, but prefix operators only with the prefixes and parentheses around them. So the part of an
expression behind the prefixes that it starts with keeps to `maxDepth`, the prefixes do so by
themselves, and both together may be nearly twice as high.
-/

namespace TemplateTree

namespace Expr

/-- The prefix operators that an expression starts with, the outermost one first. -/
def leading : Expr → List UnaryOp
  | .unary op e => op :: e.leading
  | _ => []

/-- What stands behind the prefix operators that an expression starts with. -/
def core : Expr → Expr
  | .unary _ e => e.core
  | e => e

theorem core_ne_unary (e : Expr) (op : UnaryOp) (a : Expr) : e.core ≠ .unary op a := by
  induction e with
  | unary _ e ih => exact ih
  | _ => simp [core]

theorem height_eq (e : Expr) : e.height = e.leading.length + e.core.height := by
  induction e with
  | literal l => simp [leading, core]
  | var v => simp [leading, core]
  | unary op e ih =>
    simp [leading, core, height, ih]
    omega
  | binary op a b _ _ => simp [leading, core]

end Expr

namespace Nested

@[simp] theorem under_cons (op : UnaryOp) (ops : List UnaryOp) (e : Nested) :
    e.under (op :: ops) = Nested.under ⟨.unary op e.expr, e.depth + 1⟩ ops :=
  rfl

theorem leading_under (ops : List UnaryOp) (e : Nested) :
    (e.under ops).expr.leading = ops.reverse ++ e.expr.leading := by
  induction ops generalizing e with
  | nil => rfl
  | cons op ops ih => simp [ih, Expr.leading]

theorem core_under (ops : List UnaryOp) (e : Nested) : (e.under ops).expr.core = e.expr.core := by
  induction ops generalizing e with
  | nil => rfl
  | cons op ops ih => simp [ih, Expr.core]

theorem depth_under (ops : List UnaryOp) (e : Nested) : (e.under ops).depth = ops.length + e.depth := by
  induction ops generalizing e with
  | nil => exact (Nat.zero_add e.depth).symm
  | cons op ops ih =>
    simp [ih]
    omega

theorem height_under (ops : List UnaryOp) (e : Nested) :
    (e.under ops).expr.height = ops.length + e.expr.height := by
  rw [Expr.height_eq, leading_under, core_under, Expr.height_eq e.expr,
    List.length_append, List.length_reverse, Nat.add_assoc]

/-- What the checks leave of an expression with `k` prefixes and parentheses around it. Whatever is
below prefix operators and is not a leaf stands in parentheses, so there is a level less for the
prefixes. -/
structure Fits (k : Nat) (e : Nested) : Prop where
  height_le : e.expr.height ≤ e.depth
  core_le : e.expr.core.height ≤ maxDepth
  leading_le : k + e.expr.leading.length ≤ maxDepth
  leading_lt : ∀ op a b, e.expr.core = .binary op a b → e.expr.leading ≠ [] →
    k + e.expr.leading.length < maxDepth

variable {k : Nat} {ops : List UnaryOp} {e : Nested}

theorem fits_leaf {e : Expr} (hheight : e.height = 1) (hleading : e.leading = [])
    (hcore : ∀ op a b, e.core ≠ .binary op a b) (h : k + ops.length ≤ maxDepth) :
    ((leaf e).under ops).Fits k := by
  constructor
  · rw [height_under, depth_under]
    exact Nat.add_le_add_left (Nat.le_of_eq hheight) _
  · rw [core_under]
    have hle := Expr.height_eq e
    have hmax : 1 ≤ maxDepth := by decide
    show e.core.height ≤ maxDepth
    omega
  · rw [leading_under]
    simpa [leaf, hleading] using h
  · intro op a b hbinary
    rw [core_under] at hbinary
    exact absurd hbinary (hcore op a b)

theorem Fits.parens (h : e.Fits (k + ops.length + 1)) : (e.inParens.under ops).Fits k := by
  have hlength : (e.inParens.under ops).expr.leading.length = ops.length + e.expr.leading.length := by
    rw [leading_under, List.length_append, List.length_reverse]
    rfl
  have hleading := h.leading_le
  constructor
  · rw [height_under, depth_under]
    have hheight : e.expr.height ≤ e.depth + 1 := Nat.le_succ_of_le h.height_le
    exact Nat.add_le_add_left hheight _
  · rw [core_under]
    exact h.core_le
  · rw [hlength]
    omega
  · intro _ _ _ _ _
    rw [hlength]
    omega

theorem Fits.binary {op : BinaryOp} {a b : Nested} (ha : a.Fits k) (hb : b.Fits k)
    (h : 1 + max a.depth b.depth ≤ maxDepth) :
    Fits k ⟨.binary op a.expr b.expr, 1 + max a.depth b.depth⟩ := by
  have hheight : (Expr.binary op a.expr b.expr).height ≤ 1 + max a.depth b.depth := by
    have hle := ha.height_le
    have hle' := hb.height_le
    simp only [Expr.height]
    omega
  constructor
  · exact hheight
  · exact Nat.le_trans hheight h
  · have hk := ha.leading_le
    simp only [Expr.leading, List.length_nil]
    omega
  · intro _ _ _ _ hne
    exact absurd rfl hne

end Nested

open Nested

theorem complete_fits {p k : Nat} : ∀ {waiting : List Waiting} {e : Nested} {r : List Waiting × Nested},
    complete p waiting e = .ok r → (∀ w ∈ waiting, w.lhs.Fits k) → e.Fits k →
      (∀ w ∈ r.1, w.lhs.Fits k) ∧ r.2.Fits k
  | [], e, r, h, hwaiting, he => by
    obtain rfl := Except.ok.inj h
    exact ⟨hwaiting, he⟩
  | w :: ws, e, r, h, hwaiting, he => by
    obtain ⟨hw, hws⟩ := List.forall_mem_cons.mp hwaiting
    rw [complete] at h
    by_cases hop : p ≤ w.op.precedence
    · rw [if_pos hop] at h
      dsimp only at h
      by_cases hdeep : maxDepth < 1 + max w.lhs.depth e.depth
      · rw [if_pos hdeep] at h
        cases h
      · rw [if_neg hdeep] at h
        exact complete_fits h hws (hw.binary he (Nat.not_lt.mp hdeep))
    · rw [if_neg hop] at h
      obtain rfl := Except.ok.inj h
      exact ⟨hwaiting, he⟩

/-- All left operands that wait fit what is around them. -/
def StackFits : List Opened → List Waiting → Prop
  | [], waiting => ∀ w ∈ waiting, w.lhs.Fits (levels [] [])
  | o :: opened, waiting => StackFits opened o.waiting ∧ ∀ w ∈ waiting, w.lhs.Fits (levels (o :: opened) [])

namespace StackFits

variable {opened : List Opened} {waiting : List Waiting}

theorem fits (h : StackFits opened waiting) : ∀ w ∈ waiting, w.lhs.Fits (levels opened []) := by
  cases opened with
  | nil => exact h
  | cons o opened => exact h.2

theorem replace {waiting' : List Waiting} (h : StackFits opened waiting)
    (hwaiting : ∀ w ∈ waiting', w.lhs.Fits (levels opened [])) : StackFits opened waiting' := by
  cases opened with
  | nil => exact hwaiting
  | cons o opened => exact ⟨h.1, hwaiting⟩

end StackFits

theorem fits_string {opened : List Opened} {prefixes : List UnaryOp} (body : String)
    (h : ¬ maxDepth < levels opened prefixes) :
    ((leaf (.literal (.string body))).under prefixes).Fits (levels opened []) := by
  rw [levels_eq, Nat.not_lt] at h
  exact fits_leaf rfl rfl (by simp [Expr.core]) h

theorem fits_operand {opened : List Opened} {prefixes : List UnaryOp} (text : List Char)
    (h : ¬ maxDepth < levels opened prefixes) :
    ((leaf (ofOperand text)).under prefixes).Fits (levels opened []) := by
  rw [levels_eq, Nat.not_lt] at h
  unfold ofOperand
  cases Literal.ofOperand? text with
  | none => exact fits_leaf rfl rfl (by simp [Expr.core]) h
  | some l => exact fits_leaf rfl rfl (by simp [Expr.core]) h

mutual

theorem readOperand_fits {ending : Ending} {opened : List Opened} {waiting : List Waiting}
    {prefixes : List UnaryOp} {ls : List Lexeme} {r : Expr}
    (h : readOperand ending opened waiting prefixes ls = .ok r)
    (hstack : StackFits opened waiting) : ∃ e : Nested, e.expr = r ∧ e.Fits 0 := by
  match ls with
  | [] => cases h
  | x :: ls =>
    rw [readOperand] at h
    by_cases hdeep : maxDepth < levels opened prefixes
    · rw [if_pos hdeep] at h
      cases h
    · rw [if_neg hdeep] at h
      split at h
      · exact readOperand_fits h hstack
      · exact readOperand_fits h ⟨hstack, by simp⟩
      · next body _ => exact readOperator_fits h hstack (fits_string _ hdeep)
      · next text _ => exact readOperator_fits h hstack (fits_operand text hdeep)
      · cases h

theorem readOperator_fits {ending : Ending} {opened : List Opened} {waiting : List Waiting} {e : Nested}
    {ls : List Lexeme} {r : Expr} (h : readOperator ending opened waiting e ls = .ok r)
    (hstack : StackFits opened waiting) (he : e.Fits (levels opened [])) :
    ∃ e : Nested, e.expr = r ∧ e.Fits 0 := by
  match ls with
  | [] =>
    rw [readOperator] at h
    split at h
    · cases h
    · obtain ⟨⟨ws, e'⟩, hc, h⟩ := Except.ok_of_bind h
      cases opened with
      | nil => exact ⟨e', Except.ok.inj h, (complete_fits hc hstack.fits he).2⟩
      | cons o opened => cases h
  | x :: ls =>
    rw [readOperator] at h
    split at h
    · next op _ =>
      obtain ⟨⟨ws, e'⟩, hc, h⟩ := Except.ok_of_bind h
      obtain ⟨hws, he'⟩ := complete_fits hc hstack.fits he
      exact readOperand_fits h (hstack.replace (List.forall_mem_cons.mpr ⟨he', hws⟩))
    · obtain ⟨⟨ws, e'⟩, hc, h⟩ := Except.ok_of_bind h
      have he' := (complete_fits hc hstack.fits he).2
      cases opened with
      | nil => cases htoken : x.token <;> rw [htoken] at h <;> cases h
      | cons o opened =>
        cases htoken : x.token with
        | closeParen =>
          rw [htoken] at h
          rw [levels_cons_opened, levels_eq] at he'
          exact readOperator_fits h hstack.1 he'.parens
        | _ =>
          rw [htoken] at h
          cases h

end

/-- A source is read as an expression that is at most 128 levels high behind its leading prefix
operators. There are at most 128 of these, and fewer before a binary operator, so that no expression is
higher than 255. -/
theorem height_of_parse {source : String} {e : Expr} (h : Expr.parse source = .ok e) :
    e.height = e.leading.length + e.core.height ∧ e.core.height ≤ 128 ∧ e.leading.length ≤ 128 ∧
      (∀ op a b, e.core = .binary op a b → e.leading.length < 128) ∧ e.height ≤ 255 := by
  unfold Expr.parse at h
  dsimp only at h
  split at h
  · next hread =>
    obtain rfl := Except.ok.inj h
    have hstack : StackFits [] [] := List.forall_mem_nil _
    obtain ⟨n, rfl, hn⟩ := readOperand_fits hread hstack
    have hcore : n.expr.core.height ≤ 128 := hn.core_le
    have hleading : n.expr.leading.length ≤ 128 := by simpa [maxDepth] using hn.leading_le
    have hlt : ∀ op a b, n.expr.core = .binary op a b → n.expr.leading.length < 128 := by
      intro op a b hbinary
      by_cases hne : n.expr.leading = []
      · simp [hne]
      · simpa [maxDepth] using hn.leading_lt op a b hbinary hne
    refine ⟨n.expr.height_eq, hcore, hleading, hlt, ?_⟩
    rw [Expr.height_eq]
    cases hshape : n.expr.core with
    | binary op a b =>
      have hlength := hlt op a b hshape
      rw [hshape] at hcore
      omega
    | unary op e => exact absurd hshape (Expr.core_ne_unary _ op e)
    | _ =>
      simp only [Expr.height]
      omega
  · cases h

theorem exists_parse_of_read {α : Type} {s : List Char} {f : Expr → α} {a : α}
    (h : (readOperand ⟨(Lexemes.read s).fault, byteLength s⟩ [] [] []
      (Lexemes.read s).list).toOption.map f = some a) :
    ∃ e, Expr.parse (String.ofList s) = .ok e ∧ f e = a := by
  unfold Expr.parse
  rw [String.toList_ofList]
  dsimp only
  cases hread : readOperand ⟨(Lexemes.read s).fault, byteLength s⟩ [] [] [] (Lexemes.read s).list with
  | ok e =>
    rw [hread] at h
    exact ⟨e, rfl, Option.some.inj h⟩
  | error fault =>
    rw [hread] at h
    cases h

/-- A chain of 127 operators in parentheses, behind 127 prefix operators. -/
def prefixedChain : List Char :=
  List.replicate 254 '!' ++ '(' :: (List.replicate 127 ['a', '|', '|']).flatten ++ ['a', ')']

theorem prefixed_chain_is_highest :
    ∃ e, Expr.parse (String.ofList prefixedChain) = .ok e ∧ e.height = 255 := by
  obtain ⟨e, hparse, hparts⟩ := exists_parse_of_read (s := prefixedChain)
    (f := fun e => (e.leading.length, e.core.height)) (a := (127, 128)) (by decide +kernel)
  obtain ⟨hleading, hcore⟩ := Prod.mk.inj hparts
  refine ⟨e, hparse, ?_⟩
  rw [(height_of_parse hparse).1, hleading, hcore]

/-- No binary operator stands so high, but 128 prefix operators before a leaf are read. -/
theorem prefixes_exceed_limit :
    ∃ e, Expr.parse (String.ofList (List.replicate 256 '!' ++ ['a'])) = .ok e ∧ e.height = maxDepth + 1 :=
  exists_parse_of_read (by decide +kernel)

end TemplateTree
