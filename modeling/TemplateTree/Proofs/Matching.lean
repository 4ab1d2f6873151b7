import Mathlib.Data.List.Forall2
import Mathlib.Order.Basic
import TemplateTree.Mode.Html
import TemplateTree.Mode.Parenthesized
import TemplateTree.Mode.Tree
import TemplateTree.Proofs.Occurrence
import TemplateTree.Render.Loop
import TemplateTree.Render.Template
import TemplateTree.Value.Compare

/-!
# Values up to identity

Two renders may give different identities to what they make. Their values match if they are alike up to
a pairing of identities. Whatever the language can tell of values, it tells the same of values that
match: comparisons do as long as no identity is paired twice.
-/

namespace TemplateTree

/-- Which identities of one render stand for which ones of another. -/
abbrev Pairing := Identity → Identity → Prop

structure Pairing.OneToOne (I : Pairing) : Prop where
  left : ∀ i j j', I i j → I i j' → j = j'
  right : ∀ i i' j, I i j → I i' j → i = i'

theorem Pairing.OneToOne.eq_iff {I : Pairing} (h : I.OneToOne) {i i' j j' : Identity}
    (hij : I i j) (hij' : I i' j') : i = i' ↔ j = j' := by
  constructor
  · rintro rfl
    exact h.left _ _ _ hij hij'
  · rintro rfl
    exact h.right _ _ _ hij hij'

/-- Results that are related, or the same fault. -/
inductive Except.Rel {ε α β : Type} (Q : α → β → Prop) : Except ε α → Except ε β → Prop
  | ok {a : α} {b : β} (h : Q a b) : Except.Rel Q (.ok a) (.ok b)
  | error (e : ε) : Except.Rel Q (.error e) (.error e)

theorem Except.Rel.refl {ε α : Type} {Q : α → α → Prop} (h : ∀ a, Q a a) : ∀ r : Except ε α, Except.Rel Q r r
  | .ok a => .ok (h a)
  | .error e => .error e

theorem Except.Rel.imp {ε α β : Type} {P Q : α → β → Prop} {r : Except ε α}
    {s : Except ε β} (h : Except.Rel P r s) (hPQ : ∀ a b, P a b → Q a b) : Except.Rel Q r s := by
  cases h with
  | ok h => exact .ok (hPQ _ _ h)
  | error e => exact .error e

theorem Except.Rel.of_map {ε α β γ : Type} {Q : β → γ → Prop} {f : α → β} {g : α → γ} (h : ∀ a, Q (f a) (g a))
    (r : Except ε α) : Except.Rel Q (r.map f) (r.map g) := by
  cases r with
  | error e => exact .error e
  | ok a => exact .ok (h a)

namespace Value

variable {φ : Type} {F : Prop} {I : Pairing}

/-- Values that are alike up to the pairing. Only if `F` there may be functions in them. -/
inductive Matches (F : Prop) (I : Pairing) : Value φ → Value φ → Prop
  | none : Matches F I .none .none
  | bool (b : Bool) : Matches F I (.bool b) (.bool b)
  | integer (i : Int64) : Matches F I (.integer i) (.integer i)
  | float (x : Float) : Matches F I (.float x) (.float x)
  | string (s : String) : Matches F I (.string s) (.string s)
  | list {vs ws : List (Value φ)} (h : List.Forall₂ (Matches F I) vs ws) : Matches F I (.list vs) (.list ws)
  | map {es fs : List (String × Value φ)} (hkeys : es.map (·.1) = fs.map (·.1))
    (hvalues : List.Forall₂ (Matches F I) (es.map (·.2)) (fs.map (·.2))) : Matches F I (.map es) (.map fs)
  | function {i j : Identity} (f : φ) (hF : F) (h : I i j) : Matches F I (.function i f) (.function j f)
  | markup {i j : Identity} (m : Markup) (h : I i j) : Matches F I (.markup i m) (.markup j m)

abbrev AllMatch (F : Prop) (I : Pairing) : List (Value φ) → List (Value φ) → Prop :=
  List.Forall₂ (Matches F I)

/-- Entries with the same keys in the same order and with values that match. -/
abbrev EntriesMatch (F : Prop) (I : Pairing) : List (String × Value φ) → List (String × Value φ) → Prop :=
  List.Forall₂ fun e f => e.1 = f.1 ∧ Matches F I e.2 f.2

theorem entriesMatch_iff {es fs : List (String × Value φ)} : EntriesMatch F I es fs ↔
    es.map (·.1) = fs.map (·.1) ∧ AllMatch F I (es.map (·.2)) (fs.map (·.2)) := by
  induction es generalizing fs with
  | nil => cases fs <;> simp
  | cons e es ih =>
    cases fs with
    | nil => simp
    | cons f fs =>
      simp only [List.forall₂_cons, ih, List.map_cons, List.cons.injEq]
      exact and_and_and_comm

theorem matches_map {es fs : List (String × Value φ)} :
    Matches F I (.map es) (.map fs) ↔ EntriesMatch F I es fs := by
  rw [entriesMatch_iff]
  constructor
  · intro h
    cases h with
    | map hkeys hvalues => exact ⟨hkeys, hvalues⟩
  · rintro ⟨hkeys, hvalues⟩
    exact .map hkeys hvalues

/-- What holds of equal scalars, and of lists and maps if it holds of their parts. -/
structure Lifts (F : Prop) (I : Pairing) (R : Value φ → Value φ → Prop) : Prop where
  scalar : ∀ v, v.isObject = false → R v v
  list : ∀ vs ws, AllMatch F I vs ws → List.Forall₂ R vs ws → R (.list vs) (.list ws)
  map : ∀ es fs, EntriesMatch F I es fs →
    List.Forall₂ (fun e f => e.1 = f.1 ∧ R e.2 f.2) es fs → R (.map es) (.map fs)
  function : ∀ i j f, F → I i j → R (.function i f) (.function j f)
  markup : ∀ i j m, I i j → R (.markup i m) (.markup j m)

mutual

theorem Lifts.value {R : Value φ → Value φ → Prop} (hR : Lifts F I R) (v : Value φ) {w : Value φ}
    (h : Matches F I v w) : R v w := by
  match v, w, h with
  | .none, .none, .none | .bool _, .bool _, .bool _ | .integer _, .integer _, .integer _
  | .float _, .float _, .float _ | .string _, .string _, .string _ => exact hR.scalar _ rfl
  | .list vs, .list ws, .list h => exact hR.list vs ws h (hR.all vs h)
  | .map es, .map fs, .map hkeys hvalues =>
    have h := entriesMatch_iff.mpr ⟨hkeys, hvalues⟩
    exact hR.map es fs h (hR.entries es h)
  | .function _ _, .function _ _, .function f hF h => exact hR.function _ _ f hF h
  | .markup _ _, .markup _ _, .markup m h => exact hR.markup _ _ m h

theorem Lifts.all {R : Value φ → Value φ → Prop} (hR : Lifts F I R)
    (vs : List (Value φ)) {ws : List (Value φ)} (h : AllMatch F I vs ws) : List.Forall₂ R vs ws := by
  match vs, ws, h with
  | [], [], .nil => exact .nil
  | v :: vs, _ :: _, .cons hv h => exact .cons (hR.value v hv) (hR.all vs h)

theorem Lifts.entries {R : Value φ → Value φ → Prop} (hR : Lifts F I R) (es : List (String × Value φ))
    {fs : List (String × Value φ)} (h : EntriesMatch F I es fs) :
    List.Forall₂ (fun e f => e.1 = f.1 ∧ R e.2 f.2) es fs := by
  match es, fs, h with
  | [], [], .nil => exact .nil
  | (_, v) :: es, _ :: _, .cons hv h => exact .cons ⟨hv.1, hR.value v hv.2⟩ (hR.entries es h)

end

theorem matches_scalar {v : Value φ} (h : v.isObject = false) : Matches F I v v := by
  cases v with
  | none => exact .none
  | bool b => exact .bool b
  | integer i => exact .integer i
  | float x => exact .float x
  | string s => exact .string s
  | _ => cases h

theorem Matches.mono {G : Prop} {J : Pairing} (hF : F → G) (hI : I ≤ J)
    {v w : Value φ} (h : Matches F I v w) : Matches G J v w := by
  have hlifts : Lifts F I (Matches (φ := φ) G J) :=
    { scalar := fun _ => matches_scalar
      list := fun _ _ _ ih => .list ih
      map := fun _ _ _ ih => matches_map.mpr ih
      function := fun _ _ f hf h => .function f (hF hf) (hI _ _ h)
      markup := fun _ _ m h => .markup m (hI _ _ h) }
  exact hlifts.value v h

theorem AllMatch.mono {G : Prop} {J : Pairing} (hF : F → G) (hI : I ≤ J) {vs ws : List (Value φ)}
    (h : AllMatch F I vs ws) : AllMatch G J vs ws :=
  h.imp fun _ _ h => h.mono hF hI

theorem EntriesMatch.mono {G : Prop} {J : Pairing} (hF : F → G) (hI : I ≤ J) {es fs : List (String × Value φ)}
    (h : EntriesMatch F I es fs) : EntriesMatch G J es fs :=
  h.imp fun _ _ h => ⟨h.1, h.2.mono hF hI⟩

theorem optionRel_mono {G : Prop} {J : Pairing} (hF : F → G) (hI : I ≤ J) {o p : Option (Value φ)}
    (h : Option.Rel (Matches F I) o p) : Option.Rel (Matches G J) o p := by
  cases h with
  | none => exact .none
  | some h => exact .some (h.mono hF hI)

/-! ## Data that is known on both sides -/

/-- The condition that a value by itself puts on its identity. -/
def KnownHere (F : Prop) (K : Identity → Prop) : Value φ → Prop
  | .function i _ => F ∧ K i
  | .markup i _ => K i
  | _ => True

/-- All identities in a value meet `K`. Only if `F` there may be functions in it. -/
def Known (F : Prop) (K : Identity → Prop) (v : Value φ) : Prop :=
  ∀ w, v.Contains w → w.KnownHere F K

theorem Known.part {K : Identity → Prop} {v w : Value φ} (h : v.Known F K) (hw : w ∈ v.parts) : w.Known F K :=
  fun u hu => h u (.head hw hu)

theorem Known.of_parts {K : Identity → Prop} {v : Value φ} (h : v.KnownHere F K)
    (hparts : ∀ w ∈ v.parts, w.Known F K) : v.Known F K := by
  intro w hw
  rcases Relation.ReflTransGen.cases_head hw with rfl | ⟨u, hu, hw⟩
  · exact h
  · exact hparts u hu w hw

mutual

theorem Known.matches {K : Identity → Prop} (hK : ∀ i, K i → I i i) (v : Value φ) (h : v.Known F K) :
    Matches F I v v := by
  match v with
  | .none | .bool _ | .integer _ | .float _ | .string _ => exact matches_scalar rfl
  | .list vs => exact .list (Known.allMatch hK vs fun v hv => h.part hv)
  | .map es => exact matches_map.mpr (Known.entriesMatch hK es fun e he => h.part (List.mem_map_of_mem he))
  | .function _ f => exact .function f (h _ .refl).1 (hK _ (h _ .refl).2)
  | .markup _ m => exact .markup m (hK _ (h _ .refl))

theorem Known.allMatch {K : Identity → Prop} (hK : ∀ i, K i → I i i) (vs : List (Value φ))
    (h : ∀ v ∈ vs, v.Known F K) : AllMatch F I vs vs := by
  match vs with
  | [] => exact .nil
  | v :: vs =>
    obtain ⟨hv, hvs⟩ := List.forall_mem_cons.mp h
    exact .cons (Known.matches hK v hv) (Known.allMatch hK vs hvs)

theorem Known.entriesMatch {K : Identity → Prop} (hK : ∀ i, K i → I i i) (es : List (String × Value φ))
    (h : ∀ e ∈ es, e.2.Known F K) : EntriesMatch F I es es := by
  match es with
  | [] => exact .nil
  | (_, v) :: es =>
    obtain ⟨hv, hes⟩ := List.forall_mem_cons.mp h
    exact .cons ⟨rfl, Known.matches hK v hv⟩ (Known.entriesMatch hK es hes)

end

/-! ## What the parts of values are -/

section
variable {v w : Value φ}

theorem Matches.kind (h : Matches F I v w) : v.kind = w.kind := by
  cases h <;> rfl

theorem Matches.isObject (h : Matches F I v w) : v.isObject = w.isObject := by
  cases h <;> rfl

theorem Matches.truthy (h : Matches F I v w) : v.truthy = w.truthy := by
  cases h <;> rfl

theorem AllMatch.getElem? {vs ws : List (Value φ)} (h : AllMatch F I vs ws) (i : Nat) :
    Option.Rel (Matches F I) vs[i]? ws[i]? := by
  induction h generalizing i with
  | nil => exact .none
  | cons hv _ ih =>
    cases i with
    | zero => exact .some hv
    | succ i => exact ih i

theorem EntriesMatch.get? {es fs : List (String × Value φ)} (h : EntriesMatch F I es fs) (name : String) :
    Option.Rel (Matches F I) (Dict.get? es name) (Dict.get? fs name) := by
  induction h with
  | nil => exact .none
  | @cons e f _ _ hv _ ih =>
    obtain ⟨k, v⟩ := e
    obtain ⟨l, w⟩ := f
    obtain ⟨rfl, hv⟩ := hv
    rw [Dict.get?, Dict.get?]
    split
    · exact .some hv
    · exact ih

theorem Matches.property? (h : Matches F I v w) (name : String) :
    Option.Rel (Matches F I) (v.property? name) (w.property? name) := by
  cases h with
  | list h =>
    unfold Value.property?
    dsimp only
    split
    · rw [h.length_eq]
      exact .some (.integer _)
    · cases position? name with
      | none => exact .none
      | some i => exact AllMatch.getElem? h i
  | map hkeys hvalues => exact (entriesMatch_iff.mpr ⟨hkeys, hvalues⟩).get? name
  | string s =>
    unfold Value.property?
    dsimp only
    split
    · exact .some (.integer _)
    · exact .none
  | _ => exact .none

theorem flatten_matches {vs ws : List (Value φ)}
    (h : List.Forall₂ (fun v w => AllMatch F I v.flat w.flat) vs ws) :
    AllMatch F I (flatten vs) (flatten ws) := by
  induction h with
  | nil => exact .nil
  | cons hv _ ih => exact List.rel_append hv ih

theorem Matches.flat (h : Matches F I v w) : AllMatch F I v.flat w.flat := by
  have hlifts : Lifts F I fun v w : Value φ => AllMatch F I v.flat w.flat := by
    refine ⟨fun v hv => ?_, fun _ _ _ => flatten_matches, fun _ _ h _ => ?_,
      fun _ _ f hf h => ?_, fun _ _ m h => ?_⟩
    · cases v with
      | list _ => cases hv
      | _ => exact .cons (matches_scalar hv) .nil
    · exact .cons (matches_map.mpr h) .nil
    · exact .cons (.function f hf h) .nil
    · exact .cons (.markup m h) .nil
  exact hlifts.value v h

theorem AllMatch.flatten {vs ws : List (Value φ)} (h : AllMatch F I vs ws) :
    AllMatch F I (Value.flatten vs) (Value.flatten ws) :=
  flatten_matches (h.imp fun _ _ => Matches.flat)

/-! ## Text -/

theorem textAll_congr {vs ws : List (Value φ)}
    (h : List.Forall₂ (fun v w : Value φ => v.text = w.text) vs ws) :
    textAll vs = textAll ws := by
  induction h with
  | nil => rfl
  | cons hv _ ih => rw [textAll, textAll, hv, ih]

theorem lifts_text : Lifts F I fun v w : Value φ => v.text = w.text where
  scalar := fun _ _ => rfl
  list := fun _ _ _ => textAll_congr
  map := fun _ _ _ _ => rfl
  function := fun _ _ _ _ _ => rfl
  markup := fun _ _ _ _ => rfl

theorem Matches.text (h : Matches F I v w) : v.text = w.text :=
  lifts_text.value v h

theorem AllMatch.textAll {vs ws : List (Value φ)} (h : AllMatch F I vs ws) :
    Value.textAll vs = Value.textAll ws :=
  textAll_congr (lifts_text.all vs h)

theorem itemTexts_congr {vs ws : List (Value φ)}
    (h : List.Forall₂ (fun v w : Value φ => v.objectText? = w.objectText? ∧ v.text = w.text) vs ws) :
    itemTexts vs = itemTexts ws := by
  induction h with
  | nil => rfl
  | cons hv _ ih => rw [itemTexts, itemTexts, hv.1, hv.2, ih]

theorem Matches.objectText? (h : Matches F I v w) : v.objectText? = w.objectText? := by
  have hlifts : Lifts F I fun v w : Value φ => v.objectText? = w.objectText? ∧ v.text = w.text :=
    { scalar := fun _ _ => ⟨rfl, rfl⟩
      list := fun _ _ _ ih => by
        refine ⟨?_, textAll_congr (ih.imp fun _ _ h => h.2)⟩
        rw [Value.objectText?, Value.objectText?, itemTexts_congr ih]
      map := fun _ _ _ _ => ⟨rfl, rfl⟩
      function := fun _ _ _ _ _ => ⟨rfl, rfl⟩
      markup := fun _ _ _ _ => ⟨rfl, rfl⟩ }
  exact (hlifts.value v h).1

end

/-! ## Comparisons -/

section
variable {v w v' w' : Value φ}

theorem sameItems_congr {vs ws vs' ws' : List (Value φ)}
    (h : List.Forall₂ (fun v w : Value φ => ∀ v' w', Matches F I v' w' → same v v' = same w w') vs ws)
    (h' : AllMatch F I vs' ws') : sameItems vs vs' = sameItems ws ws' := by
  induction h generalizing vs' ws' with
  | nil => cases h' <;> rfl
  | cons hv _ ih =>
    cases h' with
    | nil => rfl
    | cons hv' h' => rw [sameItems, sameItems, hv _ _ hv', ih h']

theorem sameEntries_congr {es fs es' fs' : List (String × Value φ)}
    (h : List.Forall₂ (fun e f => e.1 = f.1 ∧ ∀ v' w' : Value φ, Matches F I v' w' →
      same e.2 v' = same f.2 w') es fs)
    (h' : EntriesMatch F I es' fs') : sameEntries es es' = sameEntries fs fs' := by
  induction h generalizing es' fs' with
  | nil => cases h' <;> rfl
  | cons hv _ ih =>
    cases h' with
    | nil => rfl
    | cons hv' h' => rw [sameEntries, sameEntries, hv.1, hv'.1, hv.2 _ _ hv'.2, ih h']

/-- Equality sees identities only through their pairs. -/
theorem Matches.same (hI : I.OneToOne) (h : Matches F I v w) (h' : Matches F I v' w') :
    v.same v' = w.same w' := by
  have hidentity {i i' j j' : Identity} (hij : I i j) (hij' : I i' j') : (i == i') = (j == j') := by
    rw [Bool.eq_iff_iff, beq_iff_eq, beq_iff_eq]
    exact hI.eq_iff hij hij'
  have hlifts : Lifts F I fun v w : Value φ => ∀ v' w', Matches F I v' w' → v.same v' = w.same w' :=
    { scalar := fun v hv v' w' h' => by cases v <;> cases h' <;> first | rfl | cases hv
      list := fun vs ws _ ih v' w' h' => by
        cases h' with
        | list h' => exact sameItems_congr ih h'
        | _ => rfl
      map := fun es fs _ ih v' w' h' => by
        cases h' with
        | map hkeys hvalues => exact sameEntries_congr ih (entriesMatch_iff.mpr ⟨hkeys, hvalues⟩)
        | _ => rfl
      function := fun _ _ _ _ hij v' w' h' => by
        cases h' with
        | function _ _ hij' => exact hidentity hij hij'
        | _ => rfl
      markup := fun _ _ _ hij v' w' h' => by
        cases h' with
        | markup _ hij' => exact hidentity hij hij'
        | _ => rfl }
  exact hlifts.value v h v' w' h'

theorem Matches.primitive (h : Matches F I v w) : Matches F I v.primitive w.primitive := by
  unfold Value.primitive
  rw [h.objectText?]
  split
  · exact .string _
  · exact h

theorem Matches.number (h : Matches F I v w) : v.number = w.number := by
  have hp := h.primitive
  unfold Value.number
  generalize v.primitive = p at hp
  generalize w.primitive = q at hp
  cases hp <;> rfl

theorem Matches.sameNumber (h : Matches F I v w) (h' : Matches F I v' w') :
    v.sameNumber v' = w.sameNumber w' := by
  unfold Value.sameNumber
  rw [h.number, h'.number]

/-- Scalars of one kind are compared as they are, others as numbers. -/
theorem looseScalar_eq (a b : Value φ) : looseScalar a b =
    if a.kind = b.kind ∧ (a.kind = .integer ∨ a.kind = .string ∨ a.kind = .bool) then same a b
    else sameNumber a b := by
  cases a <;> cases b <;> rfl

theorem loose_eq (a b : Value φ) : loose a b =
    if a.kind = .none ∨ b.kind = .none then decide (a.kind = b.kind)
    else if a.isObject && b.isObject then same a b
    else if a.kind = .function ∨ b.kind = .function then false
    else looseScalar a.primitive b.primitive := by
  cases a <;> cases b <;> rfl

theorem strict_eq (a b : Value φ) : strict a b =
    if (a.kind = .integer ∨ a.kind = .float) ∧ (b.kind = .integer ∨ b.kind = .float) ∧
      ¬ (a.kind = .integer ∧ b.kind = .integer) then sameNumber a b
    else same a b := by
  cases a <;> cases b <;> rfl

theorem Matches.loose (hI : I.OneToOne) (h : Matches F I v w) (h' : Matches F I v' w') :
    v.loose v' = w.loose w' := by
  have hp := h.primitive
  have hp' := h'.primitive
  rw [loose_eq, loose_eq, looseScalar_eq, looseScalar_eq, h.kind, h'.kind, h.isObject,
    h'.isObject, h.same hI h', hp.kind, hp'.kind, hp.same hI hp', hp.sameNumber hp']

theorem Matches.strict (hI : I.OneToOne) (h : Matches F I v w) (h' : Matches F I v' w') :
    v.strict v' = w.strict w' := by
  rw [strict_eq, strict_eq, h.kind, h'.kind, h.same hI h', h.sameNumber h']

theorem Matches.order (h : Matches F I v w) (h' : Matches F I v' w') : v.order v' = w.order w' := by
  have hp := h.primitive
  have hp' := h'.primitive
  unfold Value.order
  generalize v.primitive = p at hp
  generalize w.primitive = q at hp
  generalize v'.primitive = p' at hp'
  generalize w'.primitive = q' at hp'
  have hnumbers := congrArg₂ compareFloats hp.number hp'.number
  cases hp with
  | string s =>
    cases hp' with
    | string t => rfl
    | _ => exact hnumbers
  | integer i =>
    cases hp' with
    | integer j => rfl
    | _ => exact hnumbers
  | _ => exact hnumbers

theorem Matches.compares (hI : I.OneToOne) (h : Matches F I v w) (h' : Matches F I v' w') (op : BinaryOp) :
    op.compares v v' = op.compares w w' := by
  cases op <;> simp only [BinaryOp.compares, h.loose hI h', h.strict hI h', h.order h']

end

/-! ## Dictionaries -/

theorem EntriesMatch.insert {es fs : List (String × Value φ)} {v w : Value φ} (h : EntriesMatch F I es fs)
    (name : String) (hv : Matches F I v w) :
    EntriesMatch F I (Dict.insert es name v) (Dict.insert fs name w) := by
  induction h with
  | nil => exact .cons ⟨rfl, hv⟩ .nil
  | @cons e f _ _ he h ih =>
    obtain ⟨k, u⟩ := e
    obtain ⟨l, x⟩ := f
    obtain ⟨rfl, hu⟩ := he
    rw [Dict.insert, Dict.insert]
    split
    · exact .cons ⟨rfl, hv⟩ (.cons ⟨rfl, hu⟩ h)
    · split
      · exact .cons ⟨rfl, hv⟩ h
      · exact .cons ⟨rfl, hu⟩ ih

end Value

/-! ## What renders make of values -/

section
variable {η : Type} {F : Prop} {I : Pairing} {v w : Val η} {vs ws : List (Val η)}

open Value

theorem ofChars_match (s : String) : AllMatch F I (ofChars s : List (Val η)) (ofChars s) :=
  List.forall₂_same.mpr fun _ hv => by
    obtain ⟨c, -, rfl⟩ := List.mem_map.mp hv
    exact .string _

theorem Value.Matches.loopItems (h : Matches F I v w) :
    Except.Rel (AllMatch F I) (loopItems v) (loopItems w) := by
  cases h with
  | list h => exact .ok h
  | map hkeys hvalues =>
    refine .ok (List.forall₂_map_left_iff.mpr (List.forall₂_map_right_iff.mpr ?_))
    refine (entriesMatch_iff.mpr ⟨hkeys, hvalues⟩).imp fun e f h => ?_
    rw [h.1]
    exact .list (.cons (.string _) (.cons h.2 .nil))
  | string s => exact .ok (ofChars_match s)
  | _ => exact .error _

theorem loopState_matches (h : Matches F I v w) (i n : Nat) :
    Matches F I (loopState v i n) (loopState w i n) := by
  unfold loopState
  refine matches_map.mpr ?_
  simp only [List.forall₂_cons, List.forall₂_nil_left_iff, true_and, and_true]
  exact ⟨.integer _, .integer _, .bool _, .bool _, h, .integer _, .integer _⟩

theorem Value.Matches.joinText (h : Matches F I v w) :
    Except.Rel (Matches F I) (joinText v) (joinText w) := by
  cases h with
  | list h =>
    unfold TemplateTree.joinText
    dsimp only
    rw [AllMatch.textAll (AllMatch.flatten h)]
    exact .of_map (fun s => .string s) _
  | map hkeys hvalues => exact .ok (.map hkeys hvalues)
  | function f hF h => exact .ok (.function f hF h)
  | markup m h => exact .ok (.markup m h)
  | _ => exact .ok (matches_scalar rfl)

theorem templateNames_congr (h : AllMatch F I vs ws) : templateNames vs = templateNames ws := by
  induction h with
  | nil => rfl
  | cons hv _ ih =>
    cases hv with
    | string s => rw [templateNames, templateNames, ih]
    | _ => rfl

end

/-! ## Modes -/

open Value

/-- A mode that does not look at identities. It gives what it makes the identity that it is handed. Only
if `G` there may be functions in a fragment. -/
structure Mode.Uniform {φ : Type} (G : Prop) (mode : Mode φ) : Prop where
  element : ∀ {F : Prop} {I : Pairing} {i j : Identity} (tag : String) {es fs : Dict (Value φ)}
    {vs ws : List (Value φ)}, I i j → EntriesMatch F I es fs → AllMatch F I vs ws →
      Except.Rel (Matches F I) (mode.element i tag es vs) (mode.element j tag fs ws)
  fragment : ∀ {F : Prop} {I : Pairing} {i j : Identity} {vs ws : List (Value φ)},
    I i j → AllMatch F I vs ws → Except.Rel (Matches (F ∧ G) I) (mode.fragment i vs) (mode.fragment j ws)
  raw : ∀ {F : Prop} {I : Pairing} {i j : Identity} (s : String), I i j →
    Except.Rel (Matches F I) (mode.raw i s) (mode.raw j s)

section
variable {φ : Type} {F : Prop} {I : Pairing} {vs ws : List (Value φ)} {es fs : Dict (Value φ)}

namespace Html

theorem writeAll_congr (h : List.Forall₂ (fun v w : Value φ => write v = write w) vs ws) :
    writeAll vs = writeAll ws := by
  induction h with
  | nil => rfl
  | cons hv _ ih => rw [writeAll, writeAll, hv, ih]

theorem lifts_write : Lifts F I fun v w : Value φ => write v = write w where
  scalar := fun _ _ => rfl
  list := fun _ _ _ => writeAll_congr
  map := fun _ _ _ _ => rfl
  function := fun _ _ _ _ _ => rfl
  markup := fun _ _ _ _ => rfl

theorem writeAll_matches (h : AllMatch F I vs ws) : writeAll vs = writeAll ws :=
  writeAll_congr (lifts_write.all vs h)

theorem writeAttributes_matches (h : EntriesMatch F I es fs) : writeAttributes es = writeAttributes fs := by
  induction h with
  | nil => rfl
  | cons hv _ ih => rw [writeAttributes, writeAttributes, hv.1, lifts_write.value _ hv.2, ih]

theorem element_attributes (tag : String) (hes : EntriesMatch F I es fs) (vs : List (Value φ)) :
    element tag es vs = element tag fs vs := by
  unfold element
  rw [writeAttributes_matches hes]
  have hinner := hes.get? contentsAttribute
  generalize Dict.get? es contentsAttribute = inner at hinner ⊢
  generalize Dict.get? fs contentsAttribute = inner' at hinner ⊢
  cases hinner with
  | none => rfl
  | some hv => simp only [hv.text]

theorem element_matches (tag : String) (hes : EntriesMatch F I es fs) (h : AllMatch F I vs ws) :
    element tag es vs = element tag fs ws := by
  rw [element_attributes tag hes, element, writeAll_matches h, element]

theorem uniform (G : Prop) : (mode : Mode φ).Uniform G where
  element := by
    intro F I i j tag es fs vs ws hij hes h
    show Except.Rel _ ((element tag es vs).map _) ((element tag fs ws).map _)
    rw [element_matches tag hes h]
    exact .of_map (fun s => .markup _ hij) _
  fragment := by
    intro F I i j vs ws hij h
    show Except.Rel _ ((writeAll vs).map _) ((writeAll ws).map _)
    rw [writeAll_matches h]
    exact .of_map (fun s => .markup _ hij) _
  raw := fun s hij => .ok (.markup _ hij)

end Html

namespace Tree

theorem nodesOfAll_congr (h : List.Forall₂ (fun v w : Value φ => nodes v = nodes w) vs ws) :
    nodesOfAll vs = nodesOfAll ws := by
  induction h with
  | nil => rfl
  | cons hv _ ih => rw [nodesOfAll, nodesOfAll, hv, ih]

theorem nodesOfAll_matches (h : AllMatch F I vs ws) : nodesOfAll vs = nodesOfAll ws := by
  have hlifts : Lifts F I fun v w : Value φ => nodes v = nodes w :=
    { scalar := fun _ _ => rfl
      list := fun _ _ _ => nodesOfAll_congr
      map := fun _ _ _ _ => rfl
      function := fun _ _ _ _ _ => rfl
      markup := fun _ _ _ _ => rfl }
  exact nodesOfAll_congr (hlifts.all vs h)

theorem attributeTexts_matches (d : Dict String) (h : EntriesMatch F I es fs) :
    attributeTexts d es = attributeTexts d fs := by
  induction h generalizing d with
  | nil => rfl
  | cons hv _ ih =>
    rw [attributeTexts, attributeTexts, hv.1, hv.2.text]
    exact bind_congr fun text => ih _

theorem element_attributes (tag : String) (hes : EntriesMatch F I es fs) (vs : List (Value φ)) :
    element tag es vs = element tag fs vs := by
  rw [element, attributeTexts_matches [] hes, element]

theorem element_matches (tag : String) (hes : EntriesMatch F I es fs) (h : AllMatch F I vs ws) :
    element tag es vs = element tag fs ws := by
  rw [element_attributes tag hes, element, nodesOfAll_matches h, element]

theorem uniform (G : Prop) : (mode : Mode φ).Uniform G where
  element := by
    intro F I i j tag es fs vs ws hij hes h
    show Except.Rel _ ((element tag es vs).map _) ((element tag fs ws).map _)
    rw [element_matches tag hes h]
    exact .of_map (fun t => .markup _ hij) _
  fragment := by
    intro F I i j vs ws hij h
    show Except.Rel _ ((nodesOfAll vs).map _) ((nodesOfAll ws).map _)
    rw [nodesOfAll_matches h]
    exact .of_map (fun ts => .markup _ hij) _
  raw := fun s hij => .ok (.markup _ hij)

end Tree

namespace Parenthesized

theorem writeAttributes_matches (h : EntriesMatch F I es fs) : writeAttributes es = writeAttributes fs := by
  induction h with
  | nil => rfl
  | cons hv _ ih => rw [writeAttributes, writeAttributes, hv.1, hv.2.text, ih]

theorem uniform : (mode : Mode φ).Uniform True where
  element := by
    intro F I i j tag es fs vs ws _ hes h
    show Except.Rel _ ((element tag es vs).map _) ((element tag fs ws).map _)
    unfold element
    rw [writeAttributes_matches hes, h.textAll]
    exact .of_map (fun s => .string s) _
  fragment := fun _ h => .ok (.list (h.mono (fun hF => ⟨hF, trivial⟩) (le_refl _)))
  raw := fun s _ => .ok (.string s)

end Parenthesized

end

end TemplateTree
