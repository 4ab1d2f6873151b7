import Mathlib.Logic.Relation
import TemplateTree.Node.Basic

/-!
# What occurs in values and nodes

A value contains itself, the items and entries of what it contains, and nothing else; a node contains itself
and the nodes anywhere inside of it, attributes, values of cycles and variables of inclusions included.
Conditions such as "no function occurs in a value" are conditions on all that is contained.
-/

namespace TemplateTree

/-! ## Results and dictionaries -/

theorem Except.ok_of_bind {ε α β : Type} {x : Except ε α} {f : α → Except ε β} {b : β} (h : x >>= f = .ok b) :
    ∃ a, x = .ok a ∧ f a = .ok b := by
  cases x with
  | error e => cases h
  | ok a => exact ⟨a, rfl, h⟩

theorem Except.ok_of_map {ε α β : Type} {x : Except ε α} {f : α → β} {b : β} (h : x.map f = .ok b) :
    ∃ a, x = .ok a ∧ f a = b := by
  cases x with
  | error e => cases h
  | ok a => exact ⟨a, rfl, Except.ok.inj h⟩

theorem Dict.mem_of_get? {α : Type} {d : Dict α} {key : String} {v : α} (h : d.get? key = some v) :
    (key, v) ∈ d := by
  induction d with
  | nil => simp at h
  | cons e d ih =>
    obtain ⟨k, w⟩ := e
    simp only [Dict.get?] at h
    split at h
    · next hk =>
      rw [hk, Option.some.inj h]
      exact List.mem_cons_self ..
    · exact List.mem_cons_of_mem _ (ih h)

theorem Dict.mem_insert {α : Type} {d : Dict α} {key : String} {v : α} {e : String × α}
    (h : e ∈ d.insert key v) : e = (key, v) ∨ e ∈ d := by
  induction d with
  | nil => exact .inl (by simpa [Dict.insert] using h)
  | cons e' d ih =>
    obtain ⟨k, w⟩ := e'
    simp only [Dict.insert] at h
    split at h
    · simpa using h
    · split at h
      · rcases List.mem_cons.mp h with h | h
        · exact .inl h
        · exact .inr (List.mem_cons_of_mem _ h)
      · rcases List.mem_cons.mp h with h | h
        · exact .inr (h ▸ List.mem_cons_self ..)
        · rcases ih h with h | h
          · exact .inl h
          · exact .inr (List.mem_cons_of_mem _ h)

theorem Dict.sorted_insert {α : Type} {d : Dict α} (h : d.Sorted) (key : String) (v : α) :
    Dict.Sorted (d.insert key v) := by
  induction d with
  | nil => exact List.pairwise_singleton _ _
  | cons e d ih =>
    obtain ⟨k, w⟩ := e
    obtain ⟨hbelow, hd⟩ := List.pairwise_cons.mp h
    simp only [Dict.insert]
    split
    · next hlt =>
      refine List.pairwise_cons.mpr ⟨List.forall_mem_cons.mpr ⟨hlt, fun e he => ?_⟩, h⟩
      exact String.lt_trans hlt (hbelow e he)
    · next hge =>
      split
      · next heq => exact List.pairwise_cons.mpr ⟨fun e he => heq ▸ hbelow e he, hd⟩
      · next hne =>
        refine List.pairwise_cons.mpr ⟨fun e he => ?_, ih hd⟩
        rcases Dict.mem_insert he with rfl | he
        · exact Std.lt_of_le_of_ne (String.not_lt.mp hge) hne
        · exact hbelow e he

theorem Dict.sorted_insertAll {α : Type} {d : Dict α} (h : d.Sorted) (entries : List (String × α)) :
    Dict.Sorted (d.insertAll entries) := by
  induction entries generalizing d with
  | nil => exact h
  | cons e entries ih => exact ih (Dict.sorted_insert h e.1 e.2)

theorem Dict.sorted_ofList {α : Type} (entries : List (String × α)) : Dict.Sorted (Dict.ofList entries) :=
  Dict.sorted_insertAll .nil entries

theorem Dict.mem_ofList {α : Type} {entries : List (String × α)} {e : String × α}
    (h : e ∈ Dict.ofList entries) : e ∈ entries := by
  have hall : ∀ (es : List (String × α)) (d : Dict α), e ∈ d.insertAll es → e ∈ d ∨ e ∈ es := by
    intro es
    induction es with
    | nil => exact fun _ h => .inl h
    | cons e' es ih =>
      intro d h
      rcases ih _ h with h | h
      · rcases Dict.mem_insert h with rfl | h
        · exact .inr (List.mem_cons_self ..)
        · exact .inl h
      · exact .inr (List.mem_cons_of_mem _ h)
  exact (hall entries [] h).resolve_left nofun

theorem Dict.insert_of_forall_lt {α : Type} {d : Dict α} {key : String} (h : ∀ e ∈ d, e.1 < key) (v : α) :
    d.insert key v = d ++ [(key, v)] := by
  induction d with
  | nil => rfl
  | cons e d ih =>
    obtain ⟨k, w⟩ := e
    have hk : k < key := h (k, w) (List.mem_cons_self ..)
    have hne : k ≠ key := by
      intro heq
      subst heq
      exact String.lt_irrefl _ hk
    have hge : ¬ key < k := fun hlt => String.lt_irrefl _ (String.lt_trans hk hlt)
    rw [Dict.insert, if_neg hge, if_neg hne, ih fun e he => h e (List.mem_cons_of_mem _ he)]
    rfl

/-- What holds of all that is reached holds here and of all that is reached from one step further on. -/
theorem forall_reached_iff {α : Type} {r : α → α → Prop} {p : α → Prop} {a : α} :
    (∀ b, Relation.ReflTransGen r a b → p b) ↔ p a ∧ ∀ b, r a b → ∀ c, Relation.ReflTransGen r b c → p c := by
  constructor
  · intro h
    exact ⟨h a .refl, fun b hb c hc => h c (.head hb hc)⟩
  · intro h b hb
    obtain ⟨here, further⟩ := h
    rcases Relation.ReflTransGen.cases_head hb with rfl | ⟨c, hc, hb⟩
    · exact here
    · exact further c hc b hb

/-! ## Values -/

namespace Value

variable {φ : Type}

def parts : Value φ → List (Value φ)
  | .list items => items
  | .map entries => entries.map (·.2)
  | _ => []

/-- Whether a value is at any depth in another one, or is that one. -/
def Contains : Value φ → Value φ → Prop :=
  Relation.ReflTransGen fun v w => w ∈ v.parts

def Throughout (p : Value φ → Prop) (v : Value φ) : Prop :=
  ∀ w, v.Contains w → p w

theorem throughout_iff {p : Value φ → Prop} {v : Value φ} :
    v.Throughout p ↔ p v ∧ ∀ w ∈ v.parts, w.Throughout p :=
  forall_reached_iff

/-- The condition that a value by itself puts on functions and on markup. -/
def AdmitsHere (F : φ → Prop) (M : Markup → Prop) : Value φ → Prop
  | .function _ f => F f
  | .markup _ m => M m
  | _ => True

/-- Every function in a value meets `F`, and all markup in it meets `M`. -/
def Admits (F : φ → Prop) (M : Markup → Prop) (v : Value φ) : Prop :=
  ∀ w, v.Contains w → w.AdmitsHere F M

/-- Neither functions nor markup occur in the value. -/
def Plain (v : Value φ) : Prop :=
  v.Admits (fun _ => False) (fun _ => False)

variable {F : φ → Prop} {M : Markup → Prop}

theorem admits_iff {v : Value φ} : v.Admits F M ↔ v.AdmitsHere F M ∧ ∀ w ∈ v.parts, w.Admits F M :=
  throughout_iff

@[simp] theorem admits_none : (.none : Value φ).Admits F M :=
  admits_iff.mpr ⟨trivial, by simp [parts]⟩

@[simp] theorem admits_bool (b : Bool) : (.bool b : Value φ).Admits F M :=
  admits_iff.mpr ⟨trivial, by simp [parts]⟩

@[simp] theorem admits_integer (i : Int64) : (.integer i : Value φ).Admits F M :=
  admits_iff.mpr ⟨trivial, by simp [parts]⟩

@[simp] theorem admits_float (x : Float) : (.float x : Value φ).Admits F M :=
  admits_iff.mpr ⟨trivial, by simp [parts]⟩

@[simp] theorem admits_string (s : String) : (.string s : Value φ).Admits F M :=
  admits_iff.mpr ⟨trivial, by simp [parts]⟩

@[simp] theorem admits_ofNat (n : Nat) : (ofNat n : Value φ).Admits F M :=
  admits_integer _

@[simp] theorem admits_function {id : Identity} {f : φ} : (.function id f : Value φ).Admits F M ↔ F f := by
  rw [admits_iff]
  simp [parts, AdmitsHere]

@[simp] theorem admits_markup {id : Identity} {m : Markup} : (.markup id m : Value φ).Admits F M ↔ M m := by
  rw [admits_iff]
  simp [parts, AdmitsHere]

@[simp] theorem admits_list {items : List (Value φ)} :
    (.list items : Value φ).Admits F M ↔ ∀ v ∈ items, v.Admits F M := by
  rw [admits_iff]
  simp [parts, AdmitsHere]

@[simp] theorem admits_map {entries : List (String × Value φ)} :
    (.map entries : Value φ).Admits F M ↔ ∀ e ∈ entries, e.2.Admits F M := by
  rw [admits_iff]
  simp only [parts, AdmitsHere, true_and, List.mem_map]
  exact ⟨fun h e he => h e.2 ⟨e, he, rfl⟩, fun h w ⟨e, he, hw⟩ => hw ▸ h e he⟩

theorem Admits.mono {F' : φ → Prop} {M' : Markup → Prop} {v : Value φ} (h : v.Admits F M)
    (hF : ∀ f, F f → F' f) (hM : ∀ m, M m → M' m) : v.Admits F' M' := by
  intro w hw
  have := h w hw
  cases w with
  | function _ f => exact hF f this
  | markup _ m => exact hM m this
  | _ => trivial

/-! ### What values yield -/

theorem admits_of_property? {v w : Value φ} {name : String} (hv : v.Admits F M)
    (h : v.property? name = some w) : w.Admits F M := by
  cases v with
  | map entries => exact admits_map.mp hv _ (Dict.mem_of_get? h)
  | list items =>
    simp only [property?] at h
    split at h
    · rw [← Option.some.inj h]
      exact admits_ofNat _
    · obtain ⟨i, -, hi⟩ := Option.bind_eq_some_iff.mp h
      exact admits_list.mp hv w (List.mem_of_getElem? hi)
  | string s =>
    simp only [property?] at h
    split at h
    · rw [← Option.some.inj h]
      exact admits_ofNat _
    · cases h
  | _ => cases h

theorem admits_of_mem_ofChars {s : String} {v : Value φ} (h : v ∈ ofChars s) : v.Admits F M := by
  obtain ⟨c, -, rfl⟩ := List.mem_map.mp h
  exact admits_string _

mutual

theorem admits_of_mem_flat {v w : Value φ} (hv : v.Admits F M) (h : w ∈ v.flat) : w.Admits F M := by
  match v with
  | .list items => exact admits_of_mem_flatten (admits_list.mp hv) h
  | .none | .bool _ | .integer _ | .float _ | .string _ | .map _ | .function .. | .markup .. =>
    rw [List.mem_singleton.mp h]
    exact hv

theorem admits_of_mem_flatten {vs : List (Value φ)} {w : Value φ} (hvs : ∀ v ∈ vs, v.Admits F M)
    (h : w ∈ flatten vs) : w.Admits F M := by
  match vs with
  | [] => cases h
  | v :: vs =>
    rcases List.mem_append.mp h with h | h
    · exact admits_of_mem_flat (hvs v (List.mem_cons_self ..)) h
    · exact admits_of_mem_flatten (fun u hu => hvs u (List.mem_cons_of_mem _ hu)) h

end

end Value

/-! ## Nodes -/

def Segment.variables : Segment → List Variable
  | .text _ => []
  | .var v => [v]

def TemplateText.variables : TemplateText → List Variable
  | .literal _ => []
  | .mixed segments => segments.flatMap Segment.variables

def Expr.variables : Expr → List Variable
  | .literal _ => []
  | .var v => [v]
  | .unary _ e => e.variables
  | .binary _ a b => a.variables ++ b.variables

/-- The variables that a node itself looks up. -/
def Node.variables {η : Type} : Node η → List Variable
  | .text t => t.variables
  | .var v => [v]
  | .loop _ list _ _ => [list]
  | .cond (.expr e) _ _ => e.variables
  | .inclusion (.var v) _ _ => [v]
  | _ => []

namespace Node

variable {η : Type}

def children : Node η → List (Node η)
  | .element _ attributes contents => attributes.map (·.2) ++ contents
  | .loop _ _ contents fallback => contents ++ fallback
  | .cond _ contents fallback => contents ++ fallback
  | .block b => b.contents
  | .inclusion _ extra _ => extra.map (·.2)
  | .cycle _ values _ _ => values
  | .empty contents | .otherwise contents => contents
  | .literal _ | .text _ | .var _ | .doctype _ | .host _ => []

def Contains : Node η → Node η → Prop :=
  Relation.ReflTransGen fun n m => m ∈ n.children

def Throughout (p : Node η → Prop) (n : Node η) : Prop :=
  ∀ m, n.Contains m → p m

theorem throughout_iff {p : Node η → Prop} {n : Node η} :
    n.Throughout p ↔ p n ∧ ∀ m ∈ n.children, m.Throughout p :=
  forall_reached_iff

theorem Throughout.here {p : Node η → Prop} {n : Node η} (h : n.Throughout p) : p n :=
  h n .refl

theorem Throughout.child {p : Node η → Prop} {n m : Node η} (h : n.Throughout p) (hm : m ∈ n.children) :
    m.Throughout p :=
  (throughout_iff.mp h).2 m hm

end Node

mutual

theorem Node.contains_of_mem_blocks {η : Type} {n : Node η} {b : Block η} (h : b ∈ n.blocks) :
    n.Contains (.block b) := by
  match n with
  | .element _ attributes contents =>
    obtain ⟨m, hm, hb⟩ := Node.exists_contains_of_mem h
    exact .head (List.mem_append_right _ hm) hb
  | .loop _ _ contents fallback | .cond _ contents fallback =>
    rcases List.mem_append.mp h with h | h
    · obtain ⟨m, hm, hb⟩ := Node.exists_contains_of_mem h
      exact .head (List.mem_append_left _ hm) hb
    · obtain ⟨m, hm, hb⟩ := Node.exists_contains_of_mem h
      exact .head (List.mem_append_right _ hm) hb
  | .block (.mk name contents) =>
    rcases List.mem_cons.mp h with rfl | h
    · exact .refl
    · obtain ⟨m, hm, hb⟩ := Node.exists_contains_of_mem h
      exact .head hm hb
  | .empty contents | .otherwise contents =>
    obtain ⟨m, hm, hb⟩ := Node.exists_contains_of_mem h
    exact .head hm hb
  | .literal _ | .text _ | .var _ | .inclusion .. | .cycle .. | .doctype _ | .host _ => cases h

theorem Node.exists_contains_of_mem {η : Type} {ns : List (Node η)} {b : Block η}
    (h : b ∈ Node.blocksOfAll ns) : ∃ n ∈ ns, n.Contains (.block b) := by
  match ns with
  | [] => cases h
  | n :: ns =>
    rcases List.mem_append.mp h with h | h
    · exact ⟨n, List.mem_cons_self .., Node.contains_of_mem_blocks h⟩
    · obtain ⟨m, hm, hb⟩ := Node.exists_contains_of_mem h
      exact ⟨m, List.mem_cons_of_mem _ hm, hb⟩

end

end TemplateTree
