import TemplateTree.Proofs.Matching

/-!
# Comparison operators agree with each other

Both equalities are symmetric, strict equality implies loose equality, and each order is the converse of
the other one. All of this comes down to three facts: equality of floats is symmetric, so is equality of
values part by part, and the order of two values is that of the same values the other way round,
reversed.
-/

namespace TemplateTree

/-! ## Floats -/

section
open Float.Model

theorem unpacked_compare_swap (a b : UnpackedFloat) : (a.compare b).map Ordering.swap = b.compare a := by
  cases a with
  | notANumber => cases b <;> rfl
  | infinity s =>
    cases b with
    | infinity t => cases s <;> cases t <;> rfl
    | _ => cases s <;> rfl
  | zero s =>
    cases b with
    | infinity t | finite t _ _ _ => cases t <;> rfl
    | _ => rfl
  | finite s m e _ =>
    cases b with
    | finite t m' e' _ =>
      have hsame : ((compare e e').then (compare m m')).swap = (compare e' e).then (compare m' m) := by
        rw [Ordering.swap_then, ← Std.OrientedCmp.eq_swap, ← Std.OrientedCmp.eq_swap]
      cases s with
      | positive =>
        cases t with
        | positive => exact congrArg some hsame
        | negative => rfl
      | negative =>
        cases t with
        | positive => rfl
        | negative => exact congrArg (fun o => some o.swap) hsame
    | infinity t => cases s <;> cases t <;> rfl
    | _ => cases s <;> rfl

end

theorem compareFloats_eq (a b : Float) : compareFloats a b = a.toModel.unpack.compare b.toModel.unpack := by
  have hlt (a b : Float) : a < b ↔ (a.toModel.unpack.compare b.toModel.unpack == some .lt) = true :=
    decide_eq_true_iff
  have heq : (a == b) = (a.toModel.unpack.compare b.toModel.unpack == some .eq) := rfl
  unfold compareFloats
  simp only [hlt, heq, ← unpacked_compare_swap a.toModel.unpack b.toModel.unpack]
  rcases a.toModel.unpack.compare b.toModel.unpack with _ | _ | _ | _ <;> rfl

theorem compareFloats_swap (a b : Float) : (compareFloats a b).map Ordering.swap = compareFloats b a := by
  rw [compareFloats_eq, compareFloats_eq, unpacked_compare_swap]

theorem float_beq_comm (a b : Float) : (a == b) = (b == a) := by
  show (a.toModel.unpack.compare b.toModel.unpack == some .eq) =
    (b.toModel.unpack.compare a.toModel.unpack == some .eq)
  rw [← unpacked_compare_swap a.toModel.unpack b.toModel.unpack]
  rcases a.toModel.unpack.compare b.toModel.unpack with _ | _ | _ | _ <;> rfl

/-! ## Values -/

namespace Value

variable {φ : Type}

mutual

theorem same_comm (a b : Value φ) : same a b = same b a := by
  match a with
  | .none => cases b <;> rfl
  | .bool x | .integer x | .string x => cases b <;> first | rfl | exact Bool.beq_comm
  | .float x =>
    cases b with
    | float y => exact float_beq_comm x y
    | _ => rfl
  | .list as =>
    cases b with
    | list bs => exact sameItems_comm as bs
    | _ => rfl
  | .map as =>
    cases b with
    | map bs => exact sameEntries_comm as bs
    | _ => rfl
  | .function i _ | .markup i _ => cases b <;> first | rfl | exact Bool.beq_comm

theorem sameItems_comm (as bs : List (Value φ)) : sameItems as bs = sameItems bs as := by
  match as, bs with
  | [], [] | [], _ :: _ | _ :: _, [] => rfl
  | a :: as, b :: bs => rw [sameItems, sameItems, same_comm a b, sameItems_comm as bs]

theorem sameEntries_comm (as bs : List (String × Value φ)) : sameEntries as bs = sameEntries bs as := by
  match as, bs with
  | [], [] | [], _ :: _ | _ :: _, [] => rfl
  | (k, a) :: as, (l, b) :: bs =>
    rw [sameEntries, sameEntries, same_comm a b, sameEntries_comm as bs, Bool.beq_comm]

end

theorem sameNumber_comm (a b : Value φ) : sameNumber a b = sameNumber b a :=
  float_beq_comm a.number b.number

theorem looseScalar_comm (a b : Value φ) : looseScalar a b = looseScalar b a := by
  rw [looseScalar_eq, looseScalar_eq, same_comm a b, sameNumber_comm a b]
  by_cases h : a.kind = b.kind
  · rw [h]
  · rw [if_neg fun h' => h h'.1, if_neg fun h' => h h'.1.symm]

theorem loose_comm (a b : Value φ) : loose a b = loose b a := by
  rw [loose_eq, loose_eq]
  refine if_congr or_comm (decide_eq_decide.mpr eq_comm) ?_
  refine if_congr (by rw [Bool.and_comm]) (same_comm a b) ?_
  exact if_congr or_comm rfl (looseScalar_comm a.primitive b.primitive)

theorem strict_comm (a b : Value φ) : strict a b = strict b a := by
  rw [strict_eq, strict_eq, same_comm a b, sameNumber_comm a b]
  exact if_congr (by tauto) rfl rfl

theorem loose_of_strict {a b : Value φ} (h : strict a b = true) : loose a b = true := by
  -- Values of one kind are compared alike, and of values of two kinds only numbers are ever strictly equal.
  cases a <;> cases b <;> first | cases h | exact h
  rfl

theorem order_swap (a b : Value φ) : (a.order b).map Ordering.swap = b.order a := by
  unfold order
  generalize a.primitive = p
  generalize b.primitive = q
  have hnumbers := compareFloats_swap p.number q.number
  cases p with
  | string s =>
    cases q with
    | string t => exact congrArg some Std.OrientedCmp.eq_swap.symm
    | _ => exact hnumbers
  | integer i =>
    cases q with
    | integer j => exact congrArg some Std.OrientedCmp.eq_swap.symm
    | _ => exact hnumbers
  | _ => cases q <;> exact hnumbers

end Value

/-! ## Operators -/

namespace BinaryOp

variable {φ : Type} (a b : Value φ)

theorem compares_converse : lt.compares a b = gt.compares b a ∧ le.compares a b = ge.compares b a := by
  simp only [compares, ← Value.order_swap a b]
  rcases a.order b with _ | _ | _ | _ <;> exact ⟨rfl, rfl⟩

theorem compares_lt_gt : ¬ (lt.compares a b = true ∧ gt.compares a b = true) := by
  simp only [compares]
  rcases a.order b with _ | _ | _ | _ <;> decide

theorem compares_le_iff : le.compares a b = true ↔
    lt.compares a b = true ∨ le.compares a b = true ∧ ge.compares a b = true := by
  simp only [compares]
  rcases a.order b with _ | _ | _ | _ <;> decide

/-- Whatever two values are compared, both equalities are symmetric and strict equality implies the
loose one, the orders are converses of each other, strictly one way at most, and `<=` holds where `<`
does and where it holds both ways, and nowhere else. -/
theorem compares_coherently :
    eq.compares a b = eq.compares b a ∧ strictEq.compares a b = strictEq.compares b a ∧
      (strictEq.compares a b = true → eq.compares a b = true) ∧
      lt.compares a b = gt.compares b a ∧ le.compares a b = ge.compares b a ∧
      ¬ (lt.compares a b = true ∧ gt.compares a b = true) ∧
      (le.compares a b = true ↔ lt.compares a b = true ∨ le.compares a b = true ∧ ge.compares a b = true) :=
  ⟨Value.loose_comm a b, Value.strict_comm a b, Value.loose_of_strict, (compares_converse a b).1,
    (compares_converse a b).2, compares_lt_gt a b, compares_le_iff a b⟩

end BinaryOp

end TemplateTree
