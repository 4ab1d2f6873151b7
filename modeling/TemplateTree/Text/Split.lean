/-!
# Splitting text

A text split at every occurrence of one character. There is always at least one part.
-/

namespace TemplateTree

def splitAtChar (sep : Char) : List Char → List (List Char)
  | [] => [[]]
  | c :: cs =>
    if c = sep then [] :: splitAtChar sep cs
    else match splitAtChar sep cs with
      | [] => [[c]]
      | part :: parts => (c :: part) :: parts

theorem splitAtChar_of_not_mem {sep : Char} {cs : List Char} (h : sep ∉ cs) : splitAtChar sep cs = [cs] := by
  induction cs with
  | nil => rfl
  | cons c cs ih =>
    rw [List.mem_cons, not_or] at h
    rw [splitAtChar, if_neg (Ne.symm h.1), ih h.2]

theorem splitAtChar_ne_nil (sep : Char) : ∀ cs, splitAtChar sep cs ≠ []
  | [] => List.cons_ne_nil _ _
  | c :: cs => by
    rw [splitAtChar]
    split
    · exact List.cons_ne_nil _ _
    · split <;> exact List.cons_ne_nil _ _

theorem splitAtChar_joined (sep : Char) (cs rest : List Char) :
    splitAtChar sep (cs ++ sep :: rest) = splitAtChar sep cs ++ splitAtChar sep rest := by
  induction cs with
  | nil => simp [splitAtChar]
  | cons c cs ih =>
    rw [List.cons_append, splitAtChar, splitAtChar, ih]
    by_cases hc : c = sep
    · simp [hc]
    · obtain ⟨part, parts, hparts⟩ := List.exists_cons_of_ne_nil (splitAtChar_ne_nil sep cs)
      simp [hc, hparts]

theorem splitAtChar_append {sep : Char} {cs : List Char} (h : sep ∉ cs) (rest : List Char) :
    splitAtChar sep (cs ++ sep :: rest) = cs :: splitAtChar sep rest := by
  rw [splitAtChar_joined, splitAtChar_of_not_mem h, List.singleton_append]

/-- Parts without the separator, each behind one except the first. -/
theorem splitAtChar_flatMap {α : Type} {sep : Char} {part : α → List Char} : ∀ {as : List α} {cs : List Char},
    sep ∉ cs → (∀ a ∈ as, sep ∉ part a) →
      splitAtChar sep (cs ++ as.flatMap fun a => sep :: part a) = cs :: as.map part
  | [], cs, hcs, _ => by rw [List.flatMap_nil, List.append_nil, splitAtChar_of_not_mem hcs, List.map_nil]
  | a :: as, cs, hcs, h => by
    have ih := splitAtChar_flatMap (h a (List.mem_cons_self ..)) fun b hb => h b (List.mem_cons_of_mem _ hb)
    rw [List.flatMap_cons, List.cons_append, splitAtChar_append hcs, ih, List.map_cons]

/-- The parts of a text put together, with the separator between them, are the text. -/
theorem eq_of_splitAtChar {sep : Char} : ∀ {cs first : List Char} {rest : List (List Char)},
    splitAtChar sep cs = first :: rest → cs = first ++ rest.flatMap fun part => sep :: part
  | [], first, rest, h => by
    obtain ⟨rfl, rfl⟩ := List.cons.inj h
    rfl
  | c :: cs, first, rest, h => by
    rw [splitAtChar] at h
    split at h
    · next hc =>
      obtain ⟨rfl, rfl⟩ := List.cons.inj h
      obtain ⟨part, parts, hparts⟩ := List.exists_cons_of_ne_nil (splitAtChar_ne_nil sep cs)
      rw [hparts, hc, List.flatMap_cons]
      exact congrArg (sep :: ·) (eq_of_splitAtChar hparts)
    · split at h
      · next hnil => exact absurd hnil (splitAtChar_ne_nil sep cs)
      · next part parts hparts =>
        obtain ⟨rfl, rfl⟩ := List.cons.inj h
        rw [List.cons_append, ← eq_of_splitAtChar hparts]

theorem not_mem_of_mem_splitAtChar {sep : Char} :
    ∀ {cs part : List Char}, part ∈ splitAtChar sep cs → sep ∉ part
  | [], part, h => by
    rw [List.mem_singleton.mp h]
    exact List.not_mem_nil
  | c :: cs, part, h => by
    rw [splitAtChar] at h
    split at h
    · rcases List.mem_cons.mp h with rfl | h
      · exact List.not_mem_nil
      · exact not_mem_of_mem_splitAtChar h
    · next hc =>
      obtain ⟨first, rest, hparts⟩ := List.exists_cons_of_ne_nil (splitAtChar_ne_nil sep cs)
      rw [hparts] at h
      have hall : ∀ p ∈ first :: rest, sep ∉ p := fun p hp => not_mem_of_mem_splitAtChar (hparts ▸ hp)
      rcases List.mem_cons.mp h with rfl | h
      · exact List.not_mem_cons_of_ne_of_not_mem (Ne.symm hc) (hall first (List.mem_cons_self ..))
      · exact hall part (List.mem_cons_of_mem _ h)

end TemplateTree
