import TemplateTree.Proofs.StaticResolution
import TemplateTree.Proofs.Stopping

/-!
# The values of tests

An expression has a value wherever no variable holds a function: evaluating it ends with this value and
leaves the context alone. The value comes from those of the operands, and that of a variable which
cannot be resolved is nothing. So neither De Morgan's laws nor a variable bound to nothing in place of
one that cannot be resolved change the outcome of a test, and of the context nothing matters but what
the names at the front of paths are bound to.
-/

namespace TemplateTree

open RenderM

variable {η : Type}

/-! ## Paths -/

namespace Context

/-- No variable holds a function, at any depth of its value. -/
def WithoutFunctions (c : Context η) : Prop :=
  ∀ name v, c.get? name = some v → FunctionFree v

theorem withoutFunctions_of_frames {c : Context η} (h : ∀ frame ∈ c.frames, ∀ e ∈ frame, FunctionFree e.2) :
    c.WithoutFunctions := by
  intro name v hv
  obtain ⟨frame, hframe, hget⟩ := List.exists_of_findSome?_eq_some hv
  exact h frame hframe _ (Dict.mem_of_get? hget)

/-- What a path leads to without a call. -/
def value? (c : Context η) (v : Variable) : Option (Val η) :=
  (c.get? v.segments.1).bind (·.along? v.segments.2)

/-- A name that is bound to nothing leads wherever one that is not bound at all leads. -/
theorem value?_getD (c : Context η) (v : Variable) :
    (c.value? v).getD .none = (((c.get? v.segments.1).getD .none).along? v.segments.2).getD .none := by
  unfold value?
  cases c.get? v.segments.1 with
  | some w => rfl
  | none => cases v.segments.2 <;> rfl

end Context

section
variable [HostCode η] (render : Renderer η) {c : Context η}

theorem reach_of_functionFree {calls : Bool} {receiver v : Val η} (h : FunctionFree v) :
    reach render calls receiver v = pure v := by
  cases v with
  | function id f => exact (Value.admits_function.mp h).elim
  | _ => rfl

theorem followAll_of_functionFree (calls : Bool) : ∀ (names : List String) {v : Val η}, FunctionFree v →
    (∃ u, v.along? names = some u ∧ followAll render calls v names = pure u) ∨
    (v.along? names = none ∧ ∃ name kind, followAll render calls v names = fail (.missingProperty name kind))
  | [], v, _ => .inl ⟨v, rfl, rfl⟩
  | name :: names, v, h => by
    rw [followAll, follow, Value.along?]
    cases hproperty : v.property? name with
    | none => exact .inr ⟨rfl, name, v.kind, rfl⟩
    | some w =>
      have hw : FunctionFree w := Value.admits_of_property? h hproperty
      dsimp only
      rw [reach_of_functionFree render hw, pure_bind, Option.bind_some]
      exact followAll_of_functionFree calls names hw

theorem resolve_of_functionFree {v : Variable} {w : Val η}
    (hget : c.get? v.segments.1 = some w) (hw : FunctionFree w) :
    resolve render v c = followAll render v.calls w v.segments.2 c := by
  rw [resolve_eq, RenderM.get_bind_apply, hget]
  dsimp only
  rw [reach_of_functionFree render hw, pure_bind]

/-- Without functions a variable resolves to what its path leads to, or it is not found; the context stays. -/
theorem resolve_of_withoutFunctions (hc : c.WithoutFunctions) (v : Variable) :
    (∃ u, c.value? v = some u ∧ resolve render v c = some (.ok u, c)) ∨
    (c.value? v = none ∧ ∃ e, e.kind = .variableNotFound ∧ resolve render v c = some (.error e, c)) := by
  rw [Context.value?]
  cases hget : c.get? v.segments.1 with
  | none =>
    rw [resolve_eq, RenderM.get_bind_apply, hget]
    exact .inr ⟨rfl, _, rfl, rfl⟩
  | some w =>
    have hw := hc _ w hget
    rw [resolve_of_functionFree render hget hw, Option.bind_some]
    rcases followAll_of_functionFree render v.calls v.segments.2 hw with
      ⟨u, hu, hfollow⟩ | ⟨hnone, name, kind, hfollow⟩
    · exact .inl ⟨u, hu, by rw [hfollow]; rfl⟩
    · exact .inr ⟨hnone, _, rfl, by rw [hfollow]; rfl⟩

theorem resolveOrNone_of_withoutFunctions (hc : c.WithoutFunctions) (v : Variable) :
    resolveOrNone (resolve render) v c = some (.ok ((c.value? v).getD .none), c) := by
  rcases resolve_of_withoutFunctions render hc v with ⟨u, hu, hresolve⟩ | ⟨hnone, e, hkind, hresolve⟩
  · rw [resolveOrNone_of_ok hresolve, hu]
    rfl
  · rw [resolveOrNone_of_error hresolve, if_pos hkind, hnone]
    rfl

end

/-! ## Expressions -/

namespace Expr

/-- The value of an expression where the variables have these values. -/
def value (ρ : Variable → Val η) : Expr → Val η
  | .literal l => l.value
  | .var v => ρ v
  | .unary op e => .bool (op.apply (e.value ρ).truthy)
  | .binary .and a b => if (a.value ρ).truthy then b.value ρ else a.value ρ
  | .binary .or a b => if (a.value ρ).truthy then a.value ρ else b.value ρ
  | .binary op a b => .bool (op.compares (a.value ρ) (b.value ρ))

def mapVariables (f : Variable → Variable) : Expr → Expr
  | .literal l => .literal l
  | .var v => .var (f v)
  | .unary op e => .unary op (e.mapVariables f)
  | .binary op a b => .binary op (a.mapVariables f) (b.mapVariables f)

/-- One use of De Morgan's laws from left to right, for the expression or in an operand. -/
inductive DeMorganStep : Expr → Expr → Prop
  | notAnd (a b : Expr) :
    DeMorganStep (.unary .not (.binary .and a b)) (.binary .or (.unary .not a) (.unary .not b))
  | notOr (a b : Expr) :
    DeMorganStep (.unary .not (.binary .or a b)) (.binary .and (.unary .not a) (.unary .not b))
  | operand (op : UnaryOp) {e e' : Expr} (h : DeMorganStep e e') : DeMorganStep (.unary op e) (.unary op e')
  | lhs (op : BinaryOp) {a a' : Expr} (b : Expr) (h : DeMorganStep a a') :
    DeMorganStep (.binary op a b) (.binary op a' b)
  | rhs (op : BinaryOp) (a : Expr) {b b' : Expr} (h : DeMorganStep b b') :
    DeMorganStep (.binary op a b) (.binary op a b')

variable {ρ σ : Variable → Val η}

theorem truthy_and (a b : Expr) :
    ((binary .and a b).value ρ).truthy = ((a.value ρ).truthy && (b.value ρ).truthy) := by
  rw [value]
  cases h : (a.value ρ).truthy with
  | true => rfl
  | false => exact h

theorem truthy_or (a b : Expr) :
    ((binary .or a b).value ρ).truthy = ((a.value ρ).truthy || (b.value ρ).truthy) := by
  rw [value]
  cases h : (a.value ρ).truthy with
  | true => exact h
  | false => rfl

theorem value_and (a b : Expr) :
    (binary .and a b).value ρ = a.value ρ ∨ (binary .and a b).value ρ = b.value ρ := by
  rw [value]
  cases (a.value ρ).truthy with
  | true => exact .inr rfl
  | false => exact .inl rfl

theorem value_or (a b : Expr) :
    (binary .or a b).value ρ = a.value ρ ∨ (binary .or a b).value ρ = b.value ρ := by
  rw [value]
  cases (a.value ρ).truthy with
  | true => exact .inl rfl
  | false => exact .inr rfl

/-- The value of an operator depends on its operands by their values alone. -/
theorem value_binary_congr (op : BinaryOp) {a a' b b' : Expr} (ha : a.value ρ = a'.value σ)
    (hb : b.value ρ = b'.value σ) : (binary op a b).value ρ = (binary op a' b').value σ := by
  cases op <;> simp only [value, ha, hb]

theorem value_congr : ∀ {e : Expr}, (∀ v ∈ e.variables, ρ v = σ v) → e.value ρ = e.value σ
  | .literal _, _ => rfl
  | .var v, h => h v (List.mem_singleton.mpr rfl)
  | .unary op e, h => by rw [value, value_congr (e := e) h, value]
  | .binary op a b, h =>
    value_binary_congr op (value_congr fun v hv => h v (List.mem_append_left _ hv))
      (value_congr fun v hv => h v (List.mem_append_right _ hv))

theorem value_mapVariables (f : Variable → Variable) :
    ∀ e : Expr, (e.mapVariables f).value ρ = e.value (ρ ∘ f)
  | .literal _ => rfl
  | .var _ => rfl
  | .unary op e => by rw [mapVariables, value, value_mapVariables f e, value]
  | .binary op a b => value_binary_congr op (value_mapVariables f a) (value_mapVariables f b)

theorem value_of_deMorganStep {e e' : Expr} (h : e.DeMorganStep e') : e.value ρ = e'.value ρ := by
  induction h with
  | notAnd a b =>
    have hnot : (binary .or (.unary .not a) (.unary .not b)).value ρ =
        if !(a.value ρ).truthy then .bool !(a.value ρ).truthy else .bool !(b.value ρ).truthy := rfl
    rw [value, truthy_and, hnot]
    cases (a.value ρ).truthy <;> rfl
  | notOr a b =>
    have hnot : (binary .and (.unary .not a) (.unary .not b)).value ρ =
        if !(a.value ρ).truthy then .bool !(b.value ρ).truthy else .bool !(a.value ρ).truthy := rfl
    rw [value, truthy_or, hnot]
    cases (a.value ρ).truthy <;> rfl
  | operand op _ ih => rw [value, ih, value]
  | lhs op b _ ih => exact value_binary_congr op ih rfl
  | rhs op a _ ih => exact value_binary_congr op rfl ih

theorem value_of_deMorgan {e e' : Expr} (h : Relation.EqvGen DeMorganStep e e') : e.value ρ = e'.value ρ := by
  induction h with
  | rel _ _ h => exact value_of_deMorganStep h
  | refl => rfl
  | symm _ _ _ ih => exact ih.symm
  | trans _ _ _ _ _ ih ih' => exact ih.trans ih'

end Expr

/-! ## Evaluating -/

theorem evaluate_of_resolveOrNone {resolve : Resolver η} {ρ : Variable → Val η} {c : Context η}
    (h : ∀ v, resolveOrNone resolve v c = some (.ok (ρ v), c)) :
    ∀ e : Expr, evaluate resolve e c = some (.ok (e.value ρ), c)
  | .literal _ => rfl
  | .var v => h v
  | .unary op e => by
    rw [evaluate, RenderM.bind_apply, evaluate_of_resolveOrNone h e]
    rfl
  | .binary op a b => by
    have ha := evaluate_of_resolveOrNone h a
    have hb := evaluate_of_resolveOrNone h b
    cases op with
    | and =>
      rw [evaluate, RenderM.bind_apply, ha, Expr.value]
      dsimp only
      split
      · exact hb
      · rfl
    | or =>
      rw [evaluate, RenderM.bind_apply, ha, Expr.value]
      dsimp only
      split
      · rfl
      · exact hb
    | _ =>
      simp only [evaluate, RenderM.bind_apply, ha, hb]
      rfl

section
variable [HostCode η] {render : Renderer η} {c : Context η}

theorem evaluate_of_withoutFunctions (hc : c.WithoutFunctions) (e : Expr) :
    evaluate (resolve render) e c = some (.ok (e.value fun v => (c.value? v).getD .none), c) :=
  evaluate_of_resolveOrNone (resolveOrNone_of_withoutFunctions render hc) e

/-- Variables that bind the same, or nothing in place of no binding, are all that counts of a context. -/
theorem evaluate_of_agree {e : Expr} (hc : c.WithoutFunctions) {ρ : Variable → Val η}
    (hagree : ∀ v ∈ e.variables, ρ v = (((c.get? v.segments.1).getD .none).along? v.segments.2).getD .none) :
    evaluate (resolve render) e c = some (.ok (e.value ρ), c) := by
  rw [evaluate_of_withoutFunctions hc, Expr.value_congr fun v hv => ?_]
  rw [Context.value?_getD, hagree v hv]

/-- A variable that cannot be resolved counts as one that is nothing. -/
theorem value_mapVariables_of_unresolved {e : Expr} {f : Variable → Variable} (hc : c.WithoutFunctions)
    (hf : ∀ v ∈ e.variables, f v = v ∨
      (∃ fault, resolve render v c = some (.error fault, c)) ∧ resolve render (f v) c = some (.ok .none, c)) :
    ((e.mapVariables f).value fun v => (c.value? v).getD .none) =
      e.value fun v => (c.value? v).getD .none := by
  rw [Expr.value_mapVariables]
  refine Expr.value_congr fun v hv => ?_
  rw [Function.comp_apply]
  rcases hf v hv with hsame | ⟨⟨fault, hfault⟩, hnone⟩
  · rw [hsame]
  · have hleft : c.value? (f v) = some .none := by
      rcases resolve_of_withoutFunctions render hc (f v) with ⟨u, hu, hresolve⟩ | ⟨-, e, -, hresolve⟩
      · rw [hu]
        cases hresolve.symm.trans hnone
        rfl
      · cases hresolve.symm.trans hnone
    have hright : c.value? v = none := by
      rcases resolve_of_withoutFunctions render hc v with ⟨u, -, hresolve⟩ | ⟨hv, -⟩
      · cases hresolve.symm.trans hfault
      · exact hv
    rw [hleft, hright]
    rfl

end

section
variable [HostCode η]

/-- In a context without functions every test has an outcome and changes nothing; logical operators act
on the truth of their operands and yield one of them; De Morgan's laws hold anywhere in an expression;
and the context counts by what the names at the front of paths are bound to alone, where a path that
leads nowhere is a variable bound to nothing. -/
theorem tests_have_values (render : Renderer η) (c : Context η) (hc : c.WithoutFunctions) :
    ∃ value : Expr → Val η,
      (∀ e, evaluate (resolve render) e c = some (.ok (value e), c)) ∧
      (∀ e, runTest (resolve render) render (.expr e) c = some (.ok (value e).truthy, c)) ∧
      (∀ a b, (value (.binary .and a b)).truthy = ((value a).truthy && (value b).truthy)) ∧
      (∀ a b, value (.binary .and a b) = value a ∨ value (.binary .and a b) = value b) ∧
      (∀ a b, (value (.binary .or a b)).truthy = ((value a).truthy || (value b).truthy)) ∧
      (∀ a b, value (.binary .or a b) = value a ∨ value (.binary .or a b) = value b) ∧
      (∀ e, (value (.unary .not e)).truthy = !(value e).truthy) ∧
      (∀ e, (value (.unary .truth e)).truthy = (value e).truthy) ∧
      (∀ e e', Relation.EqvGen Expr.DeMorganStep e e' → value e = value e') ∧
      (∀ e (render' : Renderer η) (d : Context η), d.WithoutFunctions →
        (∀ v ∈ e.variables, (c.get? v.segments.1).getD .none = (d.get? v.segments.1).getD .none) →
        evaluate (resolve render') e d = some (.ok (value e), d)) ∧
      (∀ e (f : Variable → Variable), (∀ v ∈ e.variables, f v = v ∨
          (∃ fault, resolve render v c = some (.error fault, c)) ∧
          resolve render (f v) c = some (.ok .none, c)) →
        value (e.mapVariables f) = value e) := by
  refine ⟨fun e => e.value fun v => (c.value? v).getD .none, evaluate_of_withoutFunctions hc, fun e => ?_,
    Expr.truthy_and, Expr.value_and, Expr.truthy_or, Expr.value_or, fun _ => rfl, fun _ => rfl,
    fun _ _ => Expr.value_of_deMorgan, fun e render' d hd hagree => ?_,
    fun _ _ => value_mapVariables_of_unresolved hc⟩
  · rw [runTest, RenderM.bind_apply, evaluate_of_withoutFunctions hc]
    rfl
  · refine evaluate_of_agree hd fun v hv => ?_
    rw [Context.value?_getD, hagree v hv]

/-- A test on a property that lists do not have, before and after a step of De Morgan's. -/
theorem test_of_missing_property :
    let c : Context Empty := .withGlobals [("items", .list [.integer 0])]
    let render : Renderer Empty := fun _ => exhausted
    let first : Expr := .var (.called "items.first")
    let item : Expr := .var (.called "items.0")
    c.WithoutFunctions ∧ ∃ b,
      runTest (resolve render) render (.expr (.unary .not (.binary .or first item))) c = some (.ok b, c) ∧
      runTest (resolve render) render (.expr (.binary .and (.unary .not first) (.unary .not item))) c =
        some (.ok b, c) := by
  intro c render first item
  have hc : c.WithoutFunctions := by
    refine Context.withoutFunctions_of_frames
      (List.forall_mem_singleton.mpr (List.forall_mem_singleton.mpr ?_))
    exact Value.admits_list.mpr (List.forall_mem_singleton.mpr (Value.admits_integer 0))
  obtain ⟨value, -, htest, -, -, -, -, -, -, hmorgan, -⟩ := tests_have_values render c hc
  refine ⟨hc, _, htest _, ?_⟩
  rw [hmorgan _ _ (.rel _ _ (.notOr first item))]
  exact htest _

end

end TemplateTree
