import TemplateTree.Proofs.Simulation

/-!
# Modes that write without seams

Both modes write a list of values as they write its parts one after the other, and a fragment as they
write the values in it. So one list of values may stand for another that is written like it: among other
values, in a list, and in the contents of an element.
-/

namespace TemplateTree

open Value (Matches AllMatch EntriesMatch)

theorem Value.flatten_append {φ : Type} (vs ws : List (Value φ)) :
    flatten (vs ++ ws) = flatten vs ++ flatten ws := by
  induction vs with
  | nil => rfl
  | cons v vs ih => rw [List.cons_append, flatten, ih, flatten, List.append_assoc]

/-- A mode that writes a list of values as it writes its parts, and a fragment as it writes the values
in it. -/
structure Mode.Seamless {φ W : Type} [Append W] (mode : Mode φ)
    (write : List (Value φ) → Except RenderFault W) (wrap : W → Markup) : Prop where
  append : ∀ vs ws, write (vs ++ ws) = (do return (← write vs) ++ (← write ws))
  matching : ∀ {F : Prop} {I : Pairing} {vs ws : List (Value φ)}, AllMatch F I vs ws → write vs = write ws
  fragment : ∀ i vs, mode.fragment i vs = (write vs).map fun w => .markup i (wrap w)
  again : ∀ i w, write [.markup i (wrap w)] = .ok w
  /-- An element succeeds with other contents that are written like its own. -/
  element : ∀ {F : Prop} {I : Pairing} {i j : Identity} (tag : String) {es fs : Dict (Value φ)}
    {vs ws : List (Value φ)} {v : Value φ}, I i j → EntriesMatch F I es fs →
      (∀ w, write vs = .ok w → write ws = .ok w) →
      mode.element i tag es vs = .ok v → ∃ w, mode.element j tag fs ws = .ok w ∧ Matches F I v w

/-! ## The two modes -/

section
variable {φ : Type}

namespace Html

theorem writeAll_append (vs ws : List (Value φ)) :
    writeAll (vs ++ ws) = (do return (← writeAll vs) ++ (← writeAll ws)) := by
  induction vs with
  | nil =>
    show writeAll ws = (writeAll ws >>= fun s => .ok ("" ++ s))
    cases writeAll ws with
    | error e => rfl
    | ok s => exact congrArg _ (String.empty_append).symm
  | cons v vs ih =>
    rw [List.cons_append, writeAll, writeAll, ih]
    cases write v with
    | error e => rfl
    | ok s =>
      cases writeAll vs with
      | error e => rfl
      | ok s' =>
        cases writeAll ws with
        | error e => rfl
        | ok s'' => exact congrArg Except.ok (String.append_assoc).symm

theorem element_covers (tag : String) (es : Dict (Value φ)) {vs ws : List (Value φ)}
    (h : ∀ w, writeAll vs = .ok w → writeAll ws = .ok w) {s : String} (hs : element tag es vs = .ok s) :
    element tag es ws = .ok s := by
  unfold element at hs ⊢
  obtain ⟨a, ha, hs⟩ := Except.ok_of_bind hs
  rw [ha]
  change (if isVoid (lowercase tag) = true then _ else _) = _ at hs ⊢
  by_cases hvoid : isVoid (lowercase tag) = true
  · rw [if_pos hvoid] at hs ⊢
    exact hs
  · rw [if_neg hvoid] at hs ⊢
    cases hinner : Dict.get? es contentsAttribute with
    | some inner =>
      rw [hinner] at hs
      exact hs
    | none =>
      rw [hinner] at hs
      obtain ⟨w, hw, hs⟩ := Except.ok_of_bind hs
      rw [h w hw]
      exact hs

theorem seamless : (mode : Mode φ).Seamless writeAll .safe where
  append := writeAll_append
  matching := writeAll_matches
  fragment := fun _ _ => rfl
  again := fun _ w => congrArg Except.ok String.append_empty
  element := by
    intro F I i j tag es fs vs ws v hij hes h hv
    obtain ⟨s, hs, rfl⟩ := Except.ok_of_map hv
    have hs' : element tag fs ws = .ok s :=
      (element_attributes tag hes ws).symm.trans (element_covers tag es h hs)
    exact ⟨.markup j (.safe s), congrArg (Except.map _) hs', .markup _ hij⟩

end Html

namespace Tree

theorem nodesOfAll_append (vs ws : List (Value φ)) :
    nodesOfAll (vs ++ ws) = (do return (← nodesOfAll vs) ++ (← nodesOfAll ws)) := by
  induction vs with
  | nil =>
    show nodesOfAll ws = (nodesOfAll ws >>= fun ts => .ok ([] ++ ts))
    cases nodesOfAll ws <;> rfl
  | cons v vs ih =>
    rw [List.cons_append, nodesOfAll, nodesOfAll, ih]
    cases nodes v with
    | error e => rfl
    | ok ts =>
      cases nodesOfAll vs with
      | error e => rfl
      | ok ts' =>
        cases nodesOfAll ws with
        | error e => rfl
        | ok ts'' => exact congrArg Except.ok (List.append_assoc ..).symm

theorem element_covers (tag : String) (es : Dict (Value φ)) {vs ws : List (Value φ)}
    (h : ∀ ts, nodesOfAll vs = .ok ts → nodesOfAll ws = .ok ts) {t : MarkupTree}
    (ht : element tag es vs = .ok t) : element tag es ws = .ok t := by
  unfold element at ht ⊢
  obtain ⟨as, has, ht⟩ := Except.ok_of_bind ht
  obtain ⟨ts, hts, ht⟩ := Except.ok_of_bind ht
  rw [has, h ts hts]
  exact ht

theorem seamless : (mode : Mode φ).Seamless nodesOfAll .fragment where
  append := nodesOfAll_append
  matching := nodesOfAll_matches
  fragment := fun _ _ => rfl
  again := fun _ ts => congrArg Except.ok (List.append_nil ts)
  element := by
    intro F I i j tag es fs vs ws v hij hes h hv
    obtain ⟨t, ht, rfl⟩ := Except.ok_of_map hv
    have ht' : element tag fs ws = .ok t :=
      (element_attributes tag hes ws).symm.trans (element_covers tag es h ht)
    exact ⟨.markup j (.tree t), congrArg (Except.map _) ht', .markup _ hij⟩

end Tree

end

/-! ## One list for another -/

/-- What is written of the first list is written of the second one too. -/
def Covers {W : Type} (write : List (Val Empty) → Except RenderFault W) (vs ws : List (Val Empty)) : Prop :=
  ∀ w, write (Value.flatten vs) = .ok w → write (Value.flatten ws) = .ok w

theorem Covers.list {W : Type} {write : List (Val Empty) → Except RenderFault W} {vs ws : List (Val Empty)}
    (h : Covers write vs ws) : Covers write [.list vs] [.list ws] := by
  have hflat (vs : List (Val Empty)) : Value.flatten [.list vs] = Value.flatten vs := List.append_nil _
  intro w hw
  rw [hflat] at hw ⊢
  exact h w hw

section
variable {W : Type} [Append W] {mode : Mode (Callable Empty)}
  {write : List (Val Empty) → Except RenderFault W} {wrap : W → Markup}

theorem Mode.Seamless.joined (h : mode.Seamless write wrap) (F : Prop) : Joined F fun _ => Covers write where
  mono := fun _ _ _ _ _ => id
  matching := fun I vs ws hvs w hw => (h.matching (Value.AllMatch.flatten hvs)).symm.trans hw
  append := by
    intro _ vs ws vs' ws' hcovers hcovers' w hw
    rw [Value.flatten_append, h.append] at hw ⊢
    obtain ⟨a, ha, hw⟩ := Except.ok_of_bind hw
    obtain ⟨b, hb, hw⟩ := Except.ok_of_bind hw
    rw [hcovers a ha, hcovers' b hb]
    exact hw

end

end TemplateTree
