import TemplateTree.Proofs.ModeAgreement
import TemplateTree.Proofs.Seamless

/-!
# Grouping

How values are grouped does not show in what a mode makes of them. A run of values may stand in a list,
or be a fragment that the mode made of it, again and again and one inside of the other: what is written
are the values that are no lists, from the first to the last, each of them once.
-/

namespace TemplateTree

/-! ## Values with a text -/

namespace Value

variable {φ : Type}

/-- No map and no function is in the value. -/
def Renderable (v : Value φ) : Prop :=
  v.Throughout fun w => w.kind ≠ .map ∧ w.kind ≠ .function

theorem renderable_list {items : List (Value φ)} :
    (.list items : Value φ).Renderable ↔ ∀ v ∈ items, v.Renderable := by
  rw [Renderable, throughout_iff]
  simp [kind, parts, Renderable]

theorem renderable_of_parts {v : Value φ} (h : v.kind ≠ .map ∧ v.kind ≠ .function) (hparts : v.parts = []) :
    v.Renderable :=
  throughout_iff.mpr ⟨h, by simp [hparts]⟩

theorem not_renderable_map {entries : List (String × Value φ)} : ¬ (.map entries : Value φ).Renderable := by
  intro h
  exact (throughout_iff.mp h).1.1 rfl

theorem not_renderable_function {id : Identity} {f : φ} : ¬ (.function id f : Value φ).Renderable := by
  intro h
  exact (throughout_iff.mp h).1.2 rfl

/-- The text of a value that has one. -/
def textOrEmpty (v : Value φ) : String :=
  v.text.toOption.getD ""

mutual

theorem text_of_renderable {v : Value φ} (h : v.Renderable) : v.text = .ok v.textOrEmpty := by
  match v with
  | .list items =>
    obtain ⟨s, hs⟩ := textAll_of_renderable (renderable_list.mp h)
    simp [textOrEmpty, text, hs, Except.toOption]
  | .map entries => exact absurd h not_renderable_map
  | .function id f => exact absurd h not_renderable_function
  | .none | .bool _ | .integer _ | .float _ | .string _ | .markup .. => rfl

theorem textAll_of_renderable {vs : List (Value φ)} (h : ∀ v ∈ vs, v.Renderable) :
    ∃ s, textAll vs = .ok s := by
  match vs with
  | [] => exact ⟨"", rfl⟩
  | v :: vs =>
    obtain ⟨hv, hvs⟩ := List.forall_mem_cons.mp h
    obtain ⟨s, hs⟩ := textAll_of_renderable hvs
    rw [textAll, text_of_renderable hv, hs]
    exact ⟨_, rfl⟩

end

end Value

/-! ## Regrouping -/

section
variable {φ : Type}

/-- Runs of the values are put into lists or made into fragments, among the values and in the lists that
they are or have become. -/
inductive Regroups (mode : Mode φ) : List (Value φ) → List (Value φ) → Prop
  | refl (vs : List (Value φ)) : Regroups mode vs vs
  | list (before run after : List (Value φ)) :
      Regroups mode (before ++ run ++ after) (before ++ [.list run] ++ after)
  | fragment (before run after : List (Value φ)) {id : Identity} {v : Value φ}
      (h : mode.fragment id run = .ok v) :
    Regroups mode (before ++ run ++ after) (before ++ [v] ++ after)
  | inside (before after : List (Value φ)) {run run' : List (Value φ)} (h : Regroups mode run run') :
    Regroups mode (before ++ [.list run] ++ after) (before ++ [.list run'] ++ after)
  | trans {us vs ws : List (Value φ)} (h : Regroups mode us vs) (h' : Regroups mode vs ws) :
      Regroups mode us ws

/-- A mode that writes values one after the other, those of a list in its place. -/
structure Mode.Ungroups {W : Type} [Append W] (mode : Mode φ) (write : List (Value φ) → Except RenderFault W)
    (wrap : W → Markup) : Prop where
  seamless : mode.Seamless write wrap
  list : ∀ run, write [.list run] = write run

namespace Mode.Ungroups

variable {W : Type} [Append W] {mode : Mode φ}
  {write : List (Value φ) → Except RenderFault W} {wrap : W → Markup}
  (h : mode.Ungroups write wrap)
include h

theorem write_congr {run run' : List (Value φ)} (hrun : write run = write run')
    (before after : List (Value φ)) : write (before ++ run ++ after) = write (before ++ run' ++ after) := by
  have happend := h.seamless.append
  rw [happend, happend before, hrun, ← happend before, ← happend]

theorem write_regroups {vs ws : List (Value φ)} (hgroups : Regroups mode vs ws) : write vs = write ws := by
  induction hgroups with
  | refl => rfl
  | list before run after => exact h.write_congr (h.list run).symm before after
  | @fragment before run after id v hv =>
    -- a fragment is written as what it was made of
    rw [h.seamless.fragment] at hv
    obtain ⟨w, hw, rfl⟩ := Except.ok_of_map hv
    exact h.write_congr (hw.trans (h.seamless.again id w).symm) before after
  | inside before after _ ih =>
    refine h.write_congr ?_ before after
    rw [h.list, h.list, ih]
  | trans _ _ ih ih' => exact ih.trans ih'

mutual

theorem write_flat (v : Value φ) : write v.flat = write [v] := by
  match v with
  | .list items => rw [Value.flat, write_flatten items, h.list]
  | .none | .bool _ | .integer _ | .float _ | .string _ | .map _ | .function .. | .markup .. => rfl

theorem write_flatten (vs : List (Value φ)) : write (Value.flatten vs) = write vs := by
  match vs with
  | [] => rfl
  | v :: vs =>
    rw [Value.flatten, h.seamless.append, write_flat v, write_flatten vs,
      ← h.seamless.append, List.singleton_append]

end

/-- The values, the values regrouped and the items of either are written alike. -/
theorem write_grouped {vs ws : List (Value φ)} (hgroups : Regroups mode vs ws) {w : W}
    (hw : write vs = .ok w) : ∀ us ∈ [vs, ws, Value.flatten vs, Value.flatten ws], write us = .ok w := by
  have hws : write ws = .ok w := (h.write_regroups hgroups).symm.trans hw
  simp [h.write_flatten, hw, hws]

end Mode.Ungroups

/-! ## The two modes -/

namespace Html

/-- What is written of a value that is no list: markup as it is and any other text escaped. -/
def leafText : Value φ → String
  | .markup _ m => m.html
  | v => escape v.textOrEmpty

theorem ungroups : (mode : Mode φ).Ungroups writeAll .safe where
  seamless := seamless
  list := by
    intro run
    rw [writeAll, write]
    cases writeAll run with
    | error e => rfl
    | ok s => exact congrArg Except.ok String.append_empty

mutual

theorem write_of_renderable {v : Value φ} (h : v.Renderable) :
    write v = .ok (String.join (v.flat.map leafText)) := by
  match v with
  | .list items => rw [write, writeAll_of_renderable (Value.renderable_list.mp h), Value.flat]
  | .map entries => exact absurd h Value.not_renderable_map
  | .function id f => exact absurd h Value.not_renderable_function
  | .markup id m => simp [write, Value.flat, leafText]
  | .none | .bool _ | .integer _ | .float _ | .string _ =>
    simp [write, Value.text_of_renderable h, Value.flat, leafText, Except.map]

theorem writeAll_of_renderable {vs : List (Value φ)} (h : ∀ v ∈ vs, v.Renderable) :
    writeAll vs = .ok (String.join ((Value.flatten vs).map leafText)) := by
  match vs with
  | [] => rfl
  | v :: vs =>
    obtain ⟨hv, hvs⟩ := List.forall_mem_cons.mp h
    rw [writeAll, write_of_renderable hv, writeAll_of_renderable hvs, Value.flatten, List.map_append,
      String.join_append]
    rfl

end

theorem writeAttributes_of_renderable {es : List (String × Value φ)} (h : ∀ e ∈ es, e.2.Renderable) :
    ∃ s, writeAttributes es = .ok s := by
  induction es with
  | nil => exact ⟨"", rfl⟩
  | cons e es ih =>
    obtain ⟨he, hes⟩ := List.forall_mem_cons.mp h
    obtain ⟨s, hs⟩ := ih hes
    rw [writeAttributes]
    by_cases hname : e.1 = contentsAttribute
    · rw [if_pos hname]
      exact ⟨s, hs⟩
    · rw [if_neg hname, write_of_renderable he, hs]
      exact ⟨_, rfl⟩

/-- An element of such values has a text. The children are in it, unless it is void or an attribute gives its
contents. -/
theorem element_of_renderable (tag : String) {attributes : Dict (Value φ)}
    (h : ∀ e ∈ attributes, e.2.Renderable) (contents : String) : ∃ s,
      (∀ us, writeAll us = .ok contents → element tag attributes us = .ok s) ∧
      (isVoid (lowercase tag) = false → attributes.get? contentsAttribute = none →
        ∃ opened, s = opened ++ contents ++ "</" ++ escape (lowercase tag) ++ ">") := by
  obtain ⟨as, has⟩ := writeAttributes_of_renderable h
  unfold element
  by_cases hvoid : isVoid (lowercase tag) = true
  · simp only [has, hvoid]
    exact ⟨_, fun us _ => rfl, fun h => by simp at h⟩
  · rw [Bool.not_eq_true] at hvoid
    cases hinner : Dict.get? attributes contentsAttribute with
    | some inner =>
      have htext := Value.text_of_renderable (h _ (Dict.mem_of_get? hinner))
      simp only [has, hvoid, htext]
      exact ⟨_, fun us _ => rfl, fun _ h => by simp at h⟩
    | none =>
      refine ⟨_, fun us hus => ?_, fun _ _ => ⟨"<" ++ escape (lowercase tag) ++ as ++ ">", rfl⟩⟩
      simp only [has, hvoid, hus]
      rfl

end Html

namespace Tree

/-- The nodes of a value that is no list: those of markup, no node for nothing and else a text. -/
def leafNodes : Value φ → List MarkupTree
  | .none => []
  | .markup _ m => nodeOf m
  | v => [.text v.textOrEmpty]

theorem ungroups : (mode : Mode φ).Ungroups nodesOfAll .fragment where
  seamless := seamless
  list := by
    intro run
    rw [nodesOfAll, nodes]
    cases nodesOfAll run with
    | error e => rfl
    | ok ts => exact congrArg Except.ok (List.append_nil ts)

mutual

theorem nodes_of_renderable {v : Value φ} (h : v.Renderable) : nodes v = .ok (v.flat.flatMap leafNodes) := by
  match v with
  | .list items => rw [nodes, nodesOfAll_of_renderable (Value.renderable_list.mp h), Value.flat]
  | .map entries => exact absurd h Value.not_renderable_map
  | .function id f => exact absurd h Value.not_renderable_function
  | .none | .markup .. => simp [nodes, Value.flat, leafNodes]
  | .bool _ | .integer _ | .float _ | .string _ =>
    simp [nodes, Value.text_of_renderable h, Value.flat, leafNodes, Except.map]

theorem nodesOfAll_of_renderable {vs : List (Value φ)} (h : ∀ v ∈ vs, v.Renderable) :
    nodesOfAll vs = .ok ((Value.flatten vs).flatMap leafNodes) := by
  match vs with
  | [] => rfl
  | v :: vs =>
    obtain ⟨hv, hvs⟩ := List.forall_mem_cons.mp h
    rw [nodesOfAll, nodes_of_renderable hv, nodesOfAll_of_renderable hvs, Value.flatten, List.flatMap_append]
    rfl

end

theorem attributeTexts_of_renderable {es : List (String × Value φ)} (h : ∀ e ∈ es, e.2.Renderable) :
    ∀ d, ∃ texts, attributeTexts d es = .ok texts := by
  induction es with
  | nil => exact fun d => ⟨d, rfl⟩
  | cons e es ih =>
    intro d
    obtain ⟨he, hes⟩ := List.forall_mem_cons.mp h
    rw [attributeTexts, Value.text_of_renderable he]
    exact ih hes _

theorem element_of_renderable (tag : String) {attributes : Dict (Value φ)}
    (h : ∀ e ∈ attributes, e.2.Renderable) :
    ∃ texts, ∀ us ts, nodesOfAll us = .ok ts → element tag attributes us =
      .ok (.element (lowercase tag) texts (if isVoid (lowercase tag) then [] else ts)) := by
  obtain ⟨texts, htexts⟩ := attributeTexts_of_renderable h []
  refine ⟨texts, fun us ts hts => ?_⟩
  rw [element, htexts, hts]
  rfl

end Tree

/-- Fragments and elements of values with a text are the same for the values, for the values regrouped
and for the items of either without lists: all that is no list is written once and in its place, escaped
unless it is markup. -/
theorem grouping_does_not_matter {vs : List (Value φ)} (hvs : ∀ v ∈ vs, v.Renderable) :
    (∀ ws, Regroups Html.mode vs ws →
      let written := String.join ((Value.flatten vs).map Html.leafText)
      (∀ us ∈ [vs, ws, Value.flatten vs, Value.flatten ws], ∀ id,
        Html.mode.fragment id us = .ok (.markup id (.safe written))) ∧
      ∀ tag attributes, (∀ e ∈ attributes, e.2.Renderable) → ∃ s,
        (∀ us ∈ [vs, ws, Value.flatten vs, Value.flatten ws], ∀ id,
          Html.mode.element id tag attributes us = .ok (.markup id (.safe s))) ∧
        (isVoid (lowercase tag) = false → attributes.get? Html.contentsAttribute = none →
          ∃ opened, s = opened ++ written ++ "</" ++ escape (lowercase tag) ++ ">")) ∧
    (∀ ws, Regroups Tree.mode vs ws →
      let nodes := (Value.flatten vs).flatMap Tree.leafNodes
      (∀ us ∈ [vs, ws, Value.flatten vs, Value.flatten ws], ∀ id,
        Tree.mode.fragment id us = .ok (.markup id (.fragment nodes))) ∧
      ∀ tag attributes, (∀ e ∈ attributes, e.2.Renderable) → ∃ texts,
        let tree := MarkupTree.element (lowercase tag) texts (if isVoid (lowercase tag) then [] else nodes)
        ∀ us ∈ [vs, ws, Value.flatten vs, Value.flatten ws], ∀ id,
          Tree.mode.element id tag attributes us = .ok (.markup id (.tree tree))) := by
  refine ⟨fun ws hgroups => ?_, fun ws hgroups => ?_⟩
  · have hwritten := Html.ungroups.write_grouped hgroups (Html.writeAll_of_renderable hvs)
    refine ⟨fun us hus id => congrArg (Except.map _) (hwritten us hus), fun tag attributes hattributes => ?_⟩
    obtain ⟨s, helement, hinside⟩ := Html.element_of_renderable tag hattributes _
    exact ⟨s, fun us hus id => congrArg (Except.map _) (helement us (hwritten us hus)), hinside⟩
  · have hnodes := Tree.ungroups.write_grouped hgroups (Tree.nodesOfAll_of_renderable hvs)
    refine ⟨fun us hus id => congrArg (Except.map _) (hnodes us hus), fun tag attributes hattributes => ?_⟩
    obtain ⟨texts, helement⟩ := Tree.element_of_renderable tag hattributes
    exact ⟨texts, fun us hus id => congrArg (Except.map _) (helement us _ (hnodes us hus))⟩

/-- The first two values as a fragment, and that with the rest in a list. -/
theorem fragment_in_list_is_written_once :
    let rule (id : Identity) : Value Empty := .markup id (.safe "<hr>")
    let vs := [.string "a&b", .none, rule (.given 0)]
    let ws := [.list [.markup (.made 1) (.safe "a&amp;b"), rule (.given 0)]]
    let ws' := [.list [.markup (.made 1) (.fragment [.text "a&b"]), rule (.given 0)]]
    let attributes : Dict (Value Empty) := [("id", .list [.integer 7])]
    Regroups Html.mode vs ws ∧ Regroups Tree.mode vs ws' ∧
      Html.mode.fragment (.made 2) ws = .ok (.markup (.made 2) (.safe "a&amp;b<hr>")) ∧
        Tree.mode.fragment (.made 2) ws' = .ok (.markup (.made 2) (.fragment [.text "a&b", .raw "<hr>"])) ∧
          (∀ us ∈ [vs, ws], Html.mode.element (.made 3) "p" attributes us =
            Html.mode.element (.made 3) "p" attributes (Value.flatten ws)) ∧
            ∀ us ∈ [vs, ws'], Tree.mode.element (.made 3) "p" attributes us =
              Tree.mode.element (.made 3) "p" attributes (Value.flatten ws') := by
  intro rule vs ws ws' attributes
  have hhtml : Regroups Html.mode vs ws := by
    have hfragment : Html.mode.fragment (.made 1) [.string "a&b", .none] =
        .ok (.markup (.made 1) (.safe "a&amp;b") : Value Empty) := by rfl
    exact .trans (.fragment [] _ [rule (.given 0)] hfragment)
      (.list [] [.markup (.made 1) _, rule (.given 0)] [])
  have htree : Regroups Tree.mode vs ws' := by
    have hfragment : Tree.mode.fragment (.made 1) [.string "a&b", .none] =
        .ok (.markup (.made 1) (.fragment [.text "a&b"]) : Value Empty) := by rfl
    exact .trans (.fragment [] _ [rule (.given 0)] hfragment)
      (.list [] [.markup (.made 1) _, rule (.given 0)] [])
  have hvs : ∀ v ∈ vs, v.Renderable := by
    intro v hv
    refine Value.renderable_of_parts ?_ ?_ <;> revert v <;> simp [vs, rule, Value.kind, Value.parts]
  have hattributes : ∀ e ∈ attributes, e.2.Renderable := by
    have hinteger : (.integer 7 : Value Empty).Renderable :=
      Value.renderable_of_parts ⟨by decide, by decide⟩ rfl
    simp [attributes, Value.renderable_list, hinteger]
  obtain ⟨inHtml, inTree⟩ := grouping_does_not_matter hvs
  obtain ⟨hfragment, helement⟩ := inHtml ws hhtml
  obtain ⟨hfragment', helement'⟩ := inTree ws' htree
  obtain ⟨s, hs, -⟩ := helement "p" attributes hattributes
  obtain ⟨texts, htexts⟩ := helement' "p" attributes hattributes
  refine ⟨hhtml, htree, ?_, ?_, ?_, ?_⟩
  · exact hfragment ws (by simp) _
  · exact hfragment' ws' (by simp) _
  · intro us hus
    rw [hs us (List.mem_append_left [_, _] hus), hs (Value.flatten ws) (by simp)]
  · intro us hus
    rw [htexts us (List.mem_append_left [_, _] hus), htexts (Value.flatten ws') (by simp)]

end

end TemplateTree
