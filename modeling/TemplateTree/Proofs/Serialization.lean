import TemplateTree.Proofs.Occurrence
import TemplateTree.Render.Run

/-!
# Values handed over as data

A value that is handed over as data comes back as it is, unless a function or markup is in it: the first
of them is what is refused then. Whatever data makes is a value that comes back. So a template renders
the same from a value and from the data of the value.
-/

namespace TemplateTree

namespace Value

variable {φ : Type}

/-! ## The values that data makes -/

def OrderedHere : Value φ → Prop
  | .map entries => Dict.Sorted entries
  | _ => True

/-- The entries of every map in the value are in the order of their keys. -/
def Ordered (v : Value φ) : Prop :=
  v.Throughout OrderedHere

/-- Neither functions nor markup are in the value, and its maps are dictionaries. -/
structure IsData (v : Value φ) : Prop where
  plain : v.Plain
  ordered : v.Ordered

theorem ordered_list {items : List (Value φ)} : (.list items : Value φ).Ordered ↔ ∀ v ∈ items, v.Ordered := by
  rw [Ordered, throughout_iff]
  simp [OrderedHere, parts, Ordered]

theorem ordered_map {entries : List (String × Value φ)} :
    (.map entries : Value φ).Ordered ↔ Dict.Sorted entries ∧ ∀ e ∈ entries, e.2.Ordered := by
  rw [Ordered, throughout_iff]
  refine and_congr_right fun _ => ⟨fun h e he => h e.2 (List.mem_map_of_mem he), fun h w hw => ?_⟩
  obtain ⟨e, he, hvalue⟩ := List.mem_map.mp hw
  rw [← hvalue]
  exact h e he

theorem ordered_of_parts {v : Value φ} (h : v.OrderedHere) (hparts : v.parts = []) : v.Ordered :=
  throughout_iff.mpr ⟨h, by simp [hparts]⟩

/-- A value that has no parts and is neither a function nor markup. -/
theorem isData_scalar {v : Value φ} (h : v.AdmitsHere (fun _ => False) fun _ => False) (hv : v.OrderedHere)
    (hparts : v.parts = []) : v.IsData :=
  ⟨admits_iff.mpr ⟨h, by simp [hparts]⟩, ordered_of_parts hv hparts⟩

theorem isData_list {items : List (Value φ)} (h : ∀ v ∈ items, v.IsData) : (.list items : Value φ).IsData :=
  ⟨admits_list.mpr fun v hv => (h v hv).plain, ordered_list.mpr fun v hv => (h v hv).ordered⟩

theorem isData_map {entries : List (String × Value φ)} :
    (.map entries : Value φ).IsData ↔ Dict.Sorted entries ∧ ∀ e ∈ entries, e.2.IsData := by
  constructor
  · intro h
    obtain ⟨hsorted, hentries⟩ := ordered_map.mp h.ordered
    exact ⟨hsorted, fun e he => ⟨admits_map.mp h.plain e he, hentries e he⟩⟩
  · intro ⟨hsorted, h⟩
    exact ⟨admits_map.mpr fun e he => (h e he).plain, ordered_map.mpr ⟨hsorted, fun e he => (h e he).ordered⟩⟩

theorem isData_insert {entries : List (String × Value φ)} (h : (.map entries : Value φ).IsData) (key : String)
    {v : Value φ} (hv : v.IsData) : (.map (Dict.insert entries key v) : Value φ).IsData := by
  obtain ⟨hsorted, hentries⟩ := isData_map.mp h
  refine isData_map.mpr ⟨Dict.sorted_insert hsorted key v, fun e he => ?_⟩
  rcases Dict.mem_insert he with rfl | he
  · exact hv
  · exact hentries e he

/-! ## What is refused -/

mutual

/-- The functions and markup in a value, in the order in which they come when it is gone through from
the front. -/
def foreign : Value φ → List (Value φ)
  | .list items => foreignOfAll items
  | .map entries => foreignOfEntries entries
  | .function id f => [.function id f]
  | .markup id m => [.markup id m]
  | .none | .bool _ | .integer _ | .float _ | .string _ => []

def foreignOfAll : List (Value φ) → List (Value φ)
  | [] => []
  | v :: vs => v.foreign ++ foreignOfAll vs

def foreignOfEntries : List (String × Value φ) → List (Value φ)
  | [] => []
  | (_, v) :: rest => v.foreign ++ foreignOfEntries rest

end

theorem foreignOfAll_eq (vs : List (Value φ)) : foreignOfAll vs = vs.flatMap foreign := by
  induction vs with
  | nil => rfl
  | cons v vs ih => rw [foreignOfAll, ih, List.flatMap_cons]

theorem foreignOfEntries_eq (es : List (String × Value φ)) :
    foreignOfEntries es = (es.map (·.2)).flatMap foreign := by
  induction es with
  | nil => rfl
  | cons e es ih => rw [foreignOfEntries, ih, List.map_cons, List.flatMap_cons]

def IsForeign (v : Value φ) : Prop :=
  v.kind = .function ∨ v.kind = .markup

theorem admitsHere_iff {v : Value φ} : v.AdmitsHere (fun _ => False) (fun _ => False) ↔ ¬ v.IsForeign := by
  cases v <;> simp [AdmitsHere, IsForeign, kind]

theorem foreign_eq (v : Value φ) :
    v.IsForeign ∧ v.foreign = [v] ∨ ¬ v.IsForeign ∧ v.foreign = v.parts.flatMap foreign := by
  cases v with
  | list items => exact .inr ⟨by simp [IsForeign, kind], foreignOfAll_eq items⟩
  | map entries => exact .inr ⟨by simp [IsForeign, kind], foreignOfEntries_eq entries⟩
  | function id f => exact .inl ⟨.inl rfl, rfl⟩
  | markup id m => exact .inl ⟨.inr rfl, rfl⟩
  | _ => exact .inr ⟨by simp [IsForeign, kind], rfl⟩

/-- What is foreign in a value is what is foreign of all that it contains. -/
theorem mem_foreign_of_contains {v w : Value φ} (hw : w.IsForeign) (h : v.Contains w) : w ∈ v.foreign := by
  induction h using Relation.ReflTransGen.head_induction_on with
  | refl =>
    rcases foreign_eq w with ⟨-, h⟩ | ⟨hn, -⟩
    · simp [h]
    · exact absurd hw hn
  | @head a b hb _ ih =>
    rcases foreign_eq a with ⟨ha, -⟩ | ⟨-, h⟩
    · cases a <;> simp [IsForeign, kind, parts] at ha hb
    · rw [h]
      exact List.mem_flatMap.mpr ⟨b, hb, ih⟩

mutual

theorem contains_of_mem_foreign {v w : Value φ} (h : w ∈ v.foreign) : w.IsForeign ∧ v.Contains w := by
  match v with
  | .list items =>
    obtain ⟨u, hu, hw, hc⟩ := exists_of_mem_foreignOfAll h
    exact ⟨hw, .head hu hc⟩
  | .map entries =>
    obtain ⟨e, he, hw, hc⟩ := exists_of_mem_foreignOfEntries h
    exact ⟨hw, .head (List.mem_map_of_mem he) hc⟩
  | .function id f =>
    rw [List.mem_singleton.mp h]
    exact ⟨.inl rfl, .refl⟩
  | .markup id m =>
    rw [List.mem_singleton.mp h]
    exact ⟨.inr rfl, .refl⟩
  | .none | .bool _ | .integer _ | .float _ | .string _ => cases h

theorem exists_of_mem_foreignOfAll {vs : List (Value φ)} {w : Value φ} (h : w ∈ foreignOfAll vs) :
    ∃ v ∈ vs, w.IsForeign ∧ v.Contains w := by
  match vs with
  | [] => cases h
  | v :: vs =>
    rcases List.mem_append.mp h with h | h
    · exact ⟨v, List.mem_cons_self .., contains_of_mem_foreign h⟩
    · obtain ⟨u, hu, hw⟩ := exists_of_mem_foreignOfAll h
      exact ⟨u, List.mem_cons_of_mem _ hu, hw⟩

theorem exists_of_mem_foreignOfEntries {es : List (String × Value φ)} {w : Value φ}
    (h : w ∈ foreignOfEntries es) : ∃ e ∈ es, w.IsForeign ∧ e.2.Contains w := by
  match es with
  | [] => cases h
  | (k, v) :: es =>
    rcases List.mem_append.mp h with h | h
    · exact ⟨(k, v), List.mem_cons_self .., contains_of_mem_foreign h⟩
    · obtain ⟨e, he, hw⟩ := exists_of_mem_foreignOfEntries h
      exact ⟨e, List.mem_cons_of_mem _ he, hw⟩

end

theorem mem_foreign_iff {v w : Value φ} : w ∈ v.foreign ↔ w.IsForeign ∧ v.Contains w :=
  ⟨contains_of_mem_foreign, fun h => mem_foreign_of_contains h.1 h.2⟩

theorem foreign_eq_nil_iff {v : Value φ} : v.foreign = [] ↔ v.Plain := by
  rw [List.eq_nil_iff_forall_not_mem]
  constructor
  · intro h w hw
    exact admitsHere_iff.mpr fun hf => h w (mem_foreign_iff.mpr ⟨hf, hw⟩)
  · intro h w hw
    obtain ⟨hf, hc⟩ := mem_foreign_iff.mp hw
    exact admitsHere_iff.mp (h w hc) hf

/-- The result, unless one of these values is in the way: the first one is refused then. -/
def orRefused {α : Type} : List (Value φ) → α → Except RenderFault α
  | [], a => .ok a
  | w :: _, _ => .error (.notSerializable w.kind)

theorem orRefused_append {α β : Type} (vs ws : List (Value φ)) (a : α) (f : α → β) :
    (orRefused vs a >>= fun a => orRefused ws (f a)) = orRefused (vs ++ ws) (f a) := by
  cases vs <;> rfl

theorem orRefused_map {α β : Type} (vs : List (Value φ)) (a : α) (f : α → β) :
    (orRefused vs a >>= fun a => .ok (f a)) = orRefused vs (f a) := by
  cases vs <;> rfl

end Value

/-! ## Handing values over -/

namespace Shape

open Value

variable {φ : Type}

mutual

/-- A value comes back as it is, or the first function or markup in it is refused. -/
theorem toValue_value {v : Value φ} (h : v.Ordered) : (value v).toValue = orRefused v.foreign v := by
  match v with
  | .list items =>
    rw [value, toValue, toValues_values (ordered_list.mp h), foreign]
    exact orRefused_map _ items Value.list
  | .map entries =>
    obtain ⟨hsorted, hentries⟩ := ordered_map.mp h
    rw [value, toValue, partValues_valueParts hsorted hentries (List.forall_mem_nil _), foreign]
    exact orRefused_map _ entries Value.map
  | .none | .bool _ | .integer _ | .float _ | .string _ | .function .. | .markup .. => rfl

theorem toValues_values {vs : List (Value φ)} (h : ∀ v ∈ vs, v.Ordered) :
    toValues (values vs) = orRefused (foreignOfAll vs) vs := by
  match vs with
  | [] => rfl
  | v :: vs =>
    obtain ⟨hv, hvs⟩ := List.forall_mem_cons.mp h
    rw [values, toValues, toValue_value hv, toValues_values hvs, foreignOfAll,
      ← orRefused_append v.foreign _ v (· :: vs)]
    exact bind_congr fun w => orRefused_map _ vs (w :: ·)

-- the keys that come are above those that are there, so every entry is put at the end
theorem partValues_valueParts {d es : List (String × Value φ)} (hsorted : Dict.Sorted es)
    (h : ∀ e ∈ es, e.2.Ordered) (hd : ∀ a ∈ d, ∀ e ∈ es, a.1 < e.1) :
    partValues d none (valueParts es) = orRefused (foreignOfEntries es) (d ++ es) := by
  match es with
  | [] => exact congrArg Except.ok (List.append_nil d).symm
  | (k, v) :: es =>
    obtain ⟨hbelow, hsorted⟩ := List.pairwise_cons.mp hsorted
    obtain ⟨hv, hes⟩ := List.forall_mem_cons.mp h
    have hinsert : Dict.insert d k v = d ++ [(k, v)] :=
      Dict.insert_of_forall_lt (fun a ha => hd a ha _ (List.mem_cons_self ..)) v
    have hnext : ∀ a ∈ d ++ [(k, v)], ∀ e ∈ es, a.1 < e.1 := by
      intro a ha e he
      rcases List.mem_append.mp ha with ha | ha
      · exact hd a ha e (List.mem_cons_of_mem _ he)
      · rw [List.mem_singleton.mp ha]
        exact hbelow e he
    have ih := partValues_valueParts hsorted hes hnext
    rw [List.append_assoc, List.singleton_append] at ih
    show ((value v).toValue >>= fun v => partValues (Dict.insert d k v) none (valueParts es)) = _
    rw [toValue_value hv, foreignOfEntries]
    cases v.foreign with
    | nil =>
      show partValues (Dict.insert d k v) none (valueParts es) = _
      rw [hinsert, ih, List.nil_append]
    | cons w ws => rfl

end

mutual

/-- Whatever data makes is a value that comes back. -/
theorem isData_of_toValue {s : Shape φ} {v : Value φ} (h : s.toValue = .ok v) : v.IsData := by
  match s with
  | .wrapped s => exact isData_of_toValue (s := s) h
  | .tagged variant s =>
    obtain ⟨w, hw, h⟩ := Except.ok_of_bind h
    rw [← Except.ok.inj h]
    exact isData_map.mpr ⟨List.pairwise_singleton _ _, List.forall_mem_singleton.mpr (isData_of_toValue hw)⟩
  | .list items =>
    obtain ⟨vs, hvs, h⟩ := Except.ok_of_bind h
    rw [← Except.ok.inj h]
    exact isData_list (isData_of_toValues hvs)
  | .record fields =>
    obtain ⟨d, hd, h⟩ := Except.ok_of_bind h
    rw [← Except.ok.inj h]
    exact isData_of_fieldValues hd (isData_map.mpr ⟨.nil, List.forall_mem_nil _⟩)
  | .parts ps =>
    obtain ⟨d, hd, h⟩ := Except.ok_of_bind h
    rw [← Except.ok.inj h]
    exact isData_of_partValues hd (isData_map.mpr ⟨.nil, List.forall_mem_nil _⟩)
  | .bytes bs =>
    rw [← Except.ok.inj h]
    refine isData_list fun w hw => ?_
    obtain ⟨b, -, rfl⟩ := List.mem_map.mp hw
    exact isData_scalar trivial trivial rfl
  | .word n =>
    rw [toValue] at h
    cases hn : integer? n.toNat with
    | none => simp [hn] at h
    | some i =>
      rw [hn] at h
      rw [← Except.ok.inj h]
      exact isData_scalar trivial trivial rfl
  | .refused fault => cases h
  | .unit | .bool _ | .integer _ | .float _ | .char _ | .text _ =>
    rw [← Except.ok.inj h]
    exact isData_scalar trivial trivial rfl

theorem isData_of_toValues {ss : List (Shape φ)} {vs : List (Value φ)} (h : toValues ss = .ok vs) :
    ∀ v ∈ vs, v.IsData := by
  match ss with
  | [] =>
    rw [← Except.ok.inj h]
    exact List.forall_mem_nil _
  | s :: ss =>
    obtain ⟨v, hv, h⟩ := Except.ok_of_bind h
    obtain ⟨ws, hws, h⟩ := Except.ok_of_bind h
    rw [← Except.ok.inj h]
    exact List.forall_mem_cons.mpr ⟨isData_of_toValue hv, isData_of_toValues hws⟩

theorem isData_of_fieldValues {d d' : Dict (Value φ)} {fields : List (String × Shape φ)}
    (h : fieldValues d fields = .ok d') (hd : (Value.map d).IsData) : (Value.map d').IsData := by
  match fields with
  | [] =>
    rw [← Except.ok.inj h]
    exact hd
  | (name, s) :: fields =>
    obtain ⟨v, hv, h⟩ := Except.ok_of_bind h
    exact isData_of_fieldValues h (isData_insert hd name (isData_of_toValue hv))

theorem isData_of_partValues {d d' : Dict (Value φ)} {waiting : Option String} {ps : List (MapPart φ)}
    (h : partValues d waiting ps = .ok d') (hd : (Value.map d).IsData) : (Value.map d').IsData := by
  match ps, waiting with
  | [], _ =>
    rw [← Except.ok.inj h]
    exact hd
  | .key s :: ps, _ =>
    obtain ⟨k, -, h⟩ := Except.ok_of_bind h
    obtain ⟨key, -, h⟩ := Except.ok_of_bind h
    exact isData_of_partValues h hd
  | .value s :: ps, Option.none => cases h
  | .value s :: ps, some key =>
    obtain ⟨v, hv, h⟩ := Except.ok_of_bind h
    exact isData_of_partValues h (isData_insert hd key (isData_of_toValue hv))

end

theorem toValue_value_of_isData {v : Value φ} (h : v.IsData) : (value v).toValue = .ok v := by
  rw [toValue_value h.ordered, foreign_eq_nil_iff.mpr h.plain, orRefused]

end Shape

/-- Values come back from their shapes exactly if they are data: any other one is refused, with its
first function or markup as the reason. What a shape makes is data. A template renders the same from
data and from its shape. -/
theorem values_come_back_from_shapes {η : Type} [HostCode η] :
    (∀ v : Val η, v.Ordered →
      (v.Plain → (Shape.value v).toValue = .ok v) ∧
      (¬ v.Plain → ∃ w rest fault, v.foreign = w :: rest ∧ w.IsForeign ∧ v.Contains w ∧
        (Shape.value v).toValue = .error fault ∧ (Error.ofRender fault).kind = .render ∧
          (Error.ofRender fault).message = "cannot serialize " ++ w.kind.name)) ∧
    (∀ (s : Shape (Callable η)) (v : Val η), s.toValue = .ok v →
      v.Plain ∧ v.Ordered ∧ (Shape.value v).toValue = .ok v) ∧
    (∀ (engine : Engine η) (t : Template η) (v : Val η), v.Ordered → v.Plain →
      engine.renderShape t (.value v) = engine.renderToText t v) := by
  refine ⟨fun v hordered =>
    ⟨fun hplain => Shape.toValue_value_of_isData ⟨hplain, hordered⟩, fun hplain => ?_⟩,
    fun s v hs => ?_, fun engine t v hordered hplain => ?_⟩
  · cases hforeign : v.foreign with
    | nil => exact absurd (Value.foreign_eq_nil_iff.mp hforeign) hplain
    | cons w rest =>
      obtain ⟨hw, hcontains⟩ := Value.mem_foreign_iff.mp (hforeign ▸ List.mem_cons_self ..)
      refine ⟨w, rest, .notSerializable w.kind, rfl, hw, hcontains, ?_, rfl, rfl⟩
      rw [Shape.toValue_value hordered, hforeign, Value.orRefused]
  · have hv := Shape.isData_of_toValue hs
    exact ⟨hv.plain, hv.ordered, Shape.toValue_value_of_isData hv⟩
  · rw [Engine.renderShape, Shape.toValue_value_of_isData ⟨hplain, hordered⟩]

/-- Markup in a list before a function; and a map with keys that are no strings, of which one comes again. -/
theorem markup_before_function_is_refused :
    let f : Val Empty := .function (.given 1) (.super (.mk "x" []))
    let v : Val Empty := .map [("items", .list [.none, .markup (.given 0) (.safe "<b>")]), ("super", f)]
    let entries : List (Shape (Callable Empty) × Shape (Callable Empty)) :=
      [(.text "7", .unit), (.bool true, .bytes [3]), (.integer 7, .word 5)]
    let s : Shape (Callable Empty) := .tagged "xs" (.map entries)
    let w : Val Empty := .map [("xs", .map [("7", .integer 5), ("true", .list [.integer 3])])]
    let t : Template Empty := ⟨"t", none, [.loop ["k", "x"] (.called "xs") [.var (.called "x")] []], [], rfl⟩
    v.Ordered ∧ ¬ v.Plain ∧
      (∃ fault, (Shape.value v).toValue = .error fault ∧
        (Error.ofRender fault).message = "cannot serialize markup") ∧
      s.toValue = .ok w ∧ (Shape.value w).toValue = .ok w ∧
        Engine.html.renderShape t (.value w) = Engine.html.renderToText t w := by
  intro f v entries s w t
  obtain ⟨hvalues, hshapes, hrenders⟩ := values_come_back_from_shapes (η := Empty)
  have hordered : v.Ordered := by
    refine Value.ordered_map.mpr ⟨List.pairwise_pair.mpr (by decide +kernel), ?_⟩
    refine List.forall_mem_cons.mpr ⟨Value.ordered_list.mpr ?_, List.forall_mem_singleton.mpr ?_⟩
    · refine List.forall_mem_cons.mpr ⟨Value.ordered_of_parts trivial rfl, List.forall_mem_singleton.mpr ?_⟩
      exact Value.ordered_of_parts trivial rfl
    · exact Value.ordered_of_parts trivial rfl
  have hplain : ¬ v.Plain := by simp [v, f, Value.Plain]
  have hs : s.toValue = .ok w := by rfl
  obtain ⟨hw, hordered', hback⟩ := hshapes s w hs
  obtain ⟨u, rest, fault, hu, -, -, hfault, -, hmessage⟩ := (hvalues v hordered).2 hplain
  refine ⟨hordered, hplain, ⟨fault, hfault, ?_⟩, hs, hback, hrenders _ t w hordered' hw⟩
  have hfirst : u = .markup (.given 0) (.safe "<b>") := (List.cons.inj hu).1.symm
  rw [hmessage, hfirst]
  rfl

end TemplateTree
