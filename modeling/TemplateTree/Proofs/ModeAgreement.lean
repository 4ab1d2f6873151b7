import TemplateTree.Mode.Tree
import TemplateTree.Proofs.HtmlReading

/-!
# The HTML mode and the tree mode agree

The same calls make the same text in both modes, or fail at the same call with the same fault. The one
mode joins escaped text at once, the other keeps nodes and escapes when they are written; so the values
that the two make of a call differ, but no more than in how they keep their markup.
-/

namespace TemplateTree

/-! ## Calls -/

/-- A tree of calls of an output mode, each with the identity that it is given and is known by, with
values at the leaves and lists around calls anywhere. -/
inductive Mode.Call (φ : Type) where
  | value (v : Value φ)
  | list (items : List (Mode.Call φ))
  | element (id : Identity) (tag : String) (attributes : List (String × Value φ))
      (children : List (Mode.Call φ))
  | fragment (id : Identity) (children : List (Mode.Call φ))
  | raw (id : Identity) (s : String)

namespace Mode.Call

variable {φ : Type}

/-- Names the call that a fault comes from. -/
def failing {α : Type} (id : Identity) (r : Except RenderFault α) : Except (Identity × RenderFault) α :=
  r.mapError fun fault => (id, fault)

mutual

def eval (mode : Mode φ) : Mode.Call φ → Except (Identity × RenderFault) (Value φ)
  | .value v => .ok v
  | .list items => do return .list (← evalAll mode items)
  | .element id tag attributes children => do
    let vs ← evalAll mode children
    failing id (mode.element id tag (Dict.ofList attributes) vs)
  | .fragment id children => do
    let vs ← evalAll mode children
    failing id (mode.fragment id vs)
  | .raw id s => failing id (mode.raw id s)

def evalAll (mode : Mode φ) : List (Mode.Call φ) → Except (Identity × RenderFault) (List (Value φ))
  | [] => .ok []
  | c :: cs => do
    let v ← c.eval mode
    return v :: (← evalAll mode cs)

end

/-- The text of what the calls make. A value without a text is a fault of no call. -/
def output (mode : Mode φ) (c : Mode.Call φ) : Except (Option Identity × RenderFault) String := do
  let v ← (c.eval mode).mapError fun e => (some e.1, e.2)
  v.text.mapError fun fault => (none, fault)

mutual

/-- Attribute names are lowered already and attribute values without markup, tags need no escaping, and
void elements are without children. -/
def WellFormed : Mode.Call φ → Prop
  | .value _ | .raw .. => True
  | .list items => AllWellFormed items
  | .element _ tag attributes children =>
    (∀ a ∈ attributes, lowercase a.1 = a.1 ∧ a.2.Admits (fun _ => True) fun _ => False) ∧
      (∀ c ∈ (lowercase tag).toList, c ∉ ['&', '<', '>', '"', '\'']) ∧
        (isVoid (lowercase tag) = true → children = []) ∧ AllWellFormed children
  | .fragment _ children => AllWellFormed children

def AllWellFormed : List (Mode.Call φ) → Prop
  | [] => True
  | c :: cs => c.WellFormed ∧ AllWellFormed cs

end

end Mode.Call

/-! ## Values up to how they keep markup -/

namespace Value

variable {φ : Type}

mutual

/-- The value with its markup as HTML text. -/
def asHtml : Value φ → Value φ
  | .markup id m => .markup id (.safe m.html)
  | .list items => .list (allAsHtml items)
  | v => v

def allAsHtml : List (Value φ) → List (Value φ)
  | [] => []
  | v :: vs => v.asHtml :: allAsHtml vs

end

mutual

theorem text_asHtml (v : Value φ) : v.asHtml.text = v.text := by
  match v with
  | .list items => rw [asHtml, text, text, textAll_asHtml]
  | .markup _ m => rfl
  | .none | .bool _ | .integer _ | .float _ | .string _ | .map _ | .function .. => rfl

theorem textAll_asHtml (vs : List (Value φ)) : textAll (allAsHtml vs) = textAll vs := by
  match vs with
  | [] => rfl
  | v :: vs => rw [allAsHtml, textAll, textAll, text_asHtml, textAll_asHtml]

end

mutual

theorem write_asHtml (v : Value φ) : Html.write v.asHtml = Html.write v := by
  match v with
  | .list items => rw [asHtml, Html.write, Html.write, writeAll_asHtml]
  | .markup _ m => rfl
  | .none | .bool _ | .integer _ | .float _ | .string _ | .map _ | .function .. => rfl

theorem writeAll_asHtml (vs : List (Value φ)) : Html.writeAll (allAsHtml vs) = Html.writeAll vs := by
  match vs with
  | [] => rfl
  | v :: vs => rw [allAsHtml, Html.writeAll, Html.writeAll, write_asHtml, writeAll_asHtml]

end

end Value

/-! ## Nodes and text -/

theorem MarkupTree.htmlAll_append (ts us : List MarkupTree) :
    htmlAll (ts ++ us) = htmlAll ts ++ htmlAll us := by
  induction ts with
  | nil => simp [htmlAll]
  | cons t ts ih => simp [htmlAll, ih, String.append_assoc]

theorem escape_of_plain {s : String} (h : ∀ c ∈ s.toList, c ∉ ['&', '<', '>', '"', '\'']) : escape s = s := by
  have hchar : ∀ c, c ∉ ['&', '<', '>', '"', '\''] → escapeChar c = [c] := by
    intro c hc
    unfold escapeChar
    split <;> simp_all
  have hall : ∀ cs : List Char, (∀ c ∈ cs, c ∉ ['&', '<', '>', '"', '\'']) → cs.flatMap escapeChar = cs := by
    intro cs
    induction cs with
    | nil => exact fun _ => rfl
    | cons c cs ih =>
      intro hcs
      rw [List.flatMap_cons, hchar c (hcs c (List.mem_cons_self ..)),
        ih fun d hd => hcs d (List.mem_cons_of_mem _ hd)]
      rfl
  rw [escape, hall _ h, String.ofList_toList]

namespace Tree

open MarkupTree Value

variable {φ : Type}

theorem htmlAll_nodeOf (m : Markup) : htmlAll (nodeOf m) = m.html := by
  cases m <;> simp [nodeOf, htmlAll, html, Markup.html]

theorem map_text (r : Except RenderFault String) :
    (r.map fun s => [MarkupTree.text s]).map htmlAll = r.map escape := by
  cases r with
  | error e => rfl
  | ok s => simp [Except.map, htmlAll, html]

mutual

/-- The nodes of a value are written as the HTML mode writes the value. -/
theorem nodes_html (v : Value φ) : (nodes v).map htmlAll = Html.write v := by
  match v with
  | .none => simp [nodes, Html.write, Value.text, Except.map, htmlAll, escape]
  | .markup _ m => simp [nodes, Html.write, Except.map, htmlAll_nodeOf]
  | .list items => rw [nodes, Html.write, nodesOfAll_html]
  | .bool _ | .integer _ | .float _ | .string _ | .map _ | .function .. =>
    simp only [nodes, Html.write]
    exact map_text _

theorem nodesOfAll_html (vs : List (Value φ)) : (nodesOfAll vs).map htmlAll = Html.writeAll vs := by
  match vs with
  | [] => rfl
  | v :: vs =>
    rw [nodesOfAll, Html.writeAll, ← nodes_html v, ← nodesOfAll_html vs]
    cases nodes v with
    | error e => rfl
    | ok ts =>
      cases nodesOfAll vs with
      | error e => rfl
      | ok us => exact congrArg Except.ok (htmlAll_append ts us)

end

/-! ## Attributes -/

mutual

/-- Without markup it does not matter whether a value is escaped item by item or as a whole. -/
theorem text_escape {v : Value φ} (hv : v.Admits (fun _ => True) fun _ => False) :
    v.text.map escape = Html.write v := by
  match v with
  | .markup _ m => exact (admits_markup.mp hv).elim
  | .list items => rw [Value.text, Html.write, textAll_escape (admits_list.mp hv)]
  | .none | .bool _ | .integer _ | .float _ | .string _ | .map _ | .function .. => rfl

theorem textAll_escape {vs : List (Value φ)} (hvs : ∀ v ∈ vs, v.Admits (fun _ => True) fun _ => False) :
    (textAll vs).map escape = Html.writeAll vs := by
  match vs with
  | [] => rfl
  | v :: vs =>
    rw [textAll, Html.writeAll, ← text_escape (hvs v (List.mem_cons_self ..)),
      ← textAll_escape fun w hw => hvs w (List.mem_cons_of_mem _ hw)]
    cases v.text with
    | error e => rfl
    | ok s =>
      cases textAll vs with
      | error e => rfl
      | ok t => exact congrArg Except.ok (Html.escape_append s t)

end

def writtenTexts (d : Dict String) : String :=
  String.join (d.map fun a => attributeText a.1 (escape a.2))

theorem ne_contentsAttribute {name : String} (h : lowercase name = name) : name ≠ Html.contentsAttribute := by
  intro heq
  subst heq
  exact absurd h (by decide +kernel)

/-- Read in the order of the names, the attributes come out in that order. -/
theorem attributeTexts_written : ∀ {es : List (String × Value φ)} {d : Dict String}, Dict.Sorted es →
    (∀ e ∈ es, lowercase e.1 = e.1 ∧ e.2.Admits (fun _ => True) fun _ => False) →
    (∀ a ∈ d, ∀ e ∈ es, a.1 < e.1) →
      (attributeTexts d es).map writtenTexts = (Html.writeAttributes es).map (writtenTexts d ++ ·)
  | [], d, _, _, _ => by simp [attributeTexts, Html.writeAttributes, Except.map]
  | (name, v) :: es, d, hsorted, hes, hd => by
    obtain ⟨hlower, hv⟩ := hes (name, v) (List.mem_cons_self ..)
    obtain ⟨hbelow, hsorted⟩ := List.pairwise_cons.mp hsorted
    have hname : name ≠ Html.contentsAttribute := ne_contentsAttribute hlower
    have hinsert (s : String) : Dict.insert d name s = d ++ [(name, s)] :=
      Dict.insert_of_forall_lt (fun a ha => hd a ha _ (List.mem_cons_self ..)) s
    rw [attributeTexts, Html.writeAttributes, if_neg hname, hlower, ← text_escape hv]
    cases v.text with
    | error e => rfl
    | ok s =>
      have hrest : ∀ a ∈ d ++ [(name, s)], ∀ e ∈ es, a.1 < e.1 := by
        intro a ha e he
        rcases List.mem_append.mp ha with ha | ha
        · exact hd a ha e (List.mem_cons_of_mem _ he)
        · rw [List.mem_singleton.mp ha]
          exact hbelow e he
      have ih := attributeTexts_written hsorted (fun e he => hes e (List.mem_cons_of_mem _ he)) hrest
      show (attributeTexts (Dict.insert d name s) es).map writtenTexts = _
      rw [hinsert, ih]
      cases Html.writeAttributes es with
      | error e => rfl
      | ok t => simp [Except.map, writtenTexts, bind, Except.bind, pure, Except.pure, String.append_assoc]

/-! ## Elements -/

/-- What both modes write of an element, once its attributes and its children have been read. -/
theorem element_html {tag : String} {attributes : Dict (Value φ)} {vs ws : List (Value φ)}
    (hsorted : attributes.Sorted)
    (hattributes : ∀ e ∈ attributes, lowercase e.1 = e.1 ∧ e.2.Admits (fun _ => True) fun _ => False)
    (htag : ∀ c ∈ (lowercase tag).toList, c ∉ ['&', '<', '>', '"', '\''])
    (hvoid : isVoid (lowercase tag) = true → ws = []) (hvs : Html.writeAll vs = Html.writeAll ws) :
    Html.element tag attributes vs = (element tag attributes ws).map html := by
  have hnone : attributes.get? Html.contentsAttribute = Option.none := by
    cases hget : attributes.get? Html.contentsAttribute with
    | none => rfl
    | some v => exact absurd rfl (ne_contentsAttribute (hattributes _ (Dict.mem_of_get? hget)).1)
  have hwritten : (attributeTexts [] attributes).map writtenTexts = Html.writeAttributes attributes := by
    rw [attributeTexts_written hsorted hattributes (List.forall_mem_nil _)]
    cases Html.writeAttributes attributes <;> simp [Except.map, writtenTexts]
  rw [Html.element, element, ← hwritten, hnone, hvs, ← nodesOfAll_html, escape_of_plain htag]
  cases attributeTexts [] attributes with
  | error e => rfl
  | ok d =>
    by_cases h : isVoid (lowercase tag) = true
    · rw [hvoid h]
      simp [Except.map, bind, Except.bind, pure, Except.pure, nodesOfAll, html, openTag, writtenTexts, h,
        escape_of_plain htag]
    · cases nodesOfAll ws with
      | error e => simp [Except.map, bind, Except.bind, h]
      | ok ts =>
        simp [Except.map, bind, Except.bind, pure, Except.pure, html, openTag, writtenTexts,
          h, escape_of_plain htag, String.append_assoc]

end Tree

/-! ## Calls in both modes -/

namespace Mode.Call

variable {φ : Type}

theorem map_failing {α β : Type} (id : Identity) (r : Except RenderFault α) (f : α → β) :
    (failing id r).map f = failing id (r.map f) := by
  cases r <;> rfl

/-- Results that are the same under a function: one error, or two results with one image. -/
theorem eq_or_of_map {ε α β : Type} {x y : Except ε α} {f : α → β} (h : x.map f = y.map f) :
    (∃ e, x = .error e ∧ y = .error e) ∨ ∃ a b, x = .ok a ∧ y = .ok b ∧ f a = f b := by
  cases x with
  | error e =>
    cases y with
    | error e' => exact .inl ⟨e, rfl, by rw [Except.error.inj h]⟩
    | ok b => cases h
  | ok a =>
    cases y with
    | error e => cases h
    | ok b => exact .inr ⟨a, b, rfl, rfl, Except.ok.inj h⟩

section
variable {vs ws : List (Value φ)} (h : Value.allAsHtml vs = Value.allAsHtml ws) (id : Identity)
include h

theorem writeAll_eq : Html.writeAll vs = Html.writeAll ws := by
  rw [← Value.writeAll_asHtml, h, Value.writeAll_asHtml]

theorem fragment_asHtml : (failing id (Html.mode.fragment id vs)).map Value.asHtml =
    (failing id (Tree.mode.fragment id ws)).map Value.asHtml := by
  have hwritten : Html.fragment vs = (Tree.nodesOfAll ws).map MarkupTree.htmlAll := by
    rw [Html.fragment, writeAll_eq h, Tree.nodesOfAll_html]
  simp only [map_failing, Html.mode, Tree.mode, hwritten]
  cases Tree.nodesOfAll ws <;> rfl

theorem element_asHtml {tag : String} {attributes : List (String × Value φ)}
    (hattributes : ∀ a ∈ attributes, lowercase a.1 = a.1 ∧ a.2.Admits (fun _ => True) fun _ => False)
    (htag : ∀ c ∈ (lowercase tag).toList, c ∉ ['&', '<', '>', '"', '\''])
    (hvoid : isVoid (lowercase tag) = true → ws = []) :
    (failing id (Html.mode.element id tag (Dict.ofList attributes) vs)).map Value.asHtml =
      (failing id (Tree.mode.element id tag (Dict.ofList attributes) ws)).map Value.asHtml := by
  have hwritten := Tree.element_html (Dict.sorted_ofList attributes)
    (fun e he => hattributes e (Dict.mem_ofList he)) htag hvoid (writeAll_eq h)
  simp only [map_failing, Html.mode, Tree.mode, hwritten]
  cases Tree.element tag (Dict.ofList attributes) ws <;> rfl

end

mutual

/-- A call makes the same value in both modes, but for how markup is kept. -/
theorem eval_asHtml {c : Mode.Call φ} (hc : c.WellFormed) :
    (c.eval Html.mode).map Value.asHtml = (c.eval Tree.mode).map Value.asHtml := by
  match c with
  | .value v => rfl
  | .raw id s => rfl
  | .list items =>
    have hitems : AllWellFormed items := hc
    rcases eq_or_of_map (evalAll_asHtml hitems) with ⟨e, hvs, hws⟩ | ⟨vs, ws, hvs, hws, h⟩
    · simp only [eval, hvs, hws]
    · simp only [eval, hvs, hws]
      exact congrArg (fun items => Except.ok (Value.list items)) h
  | .fragment id children =>
    have hchildren : AllWellFormed children := hc
    rcases eq_or_of_map (evalAll_asHtml hchildren) with ⟨e, hvs, hws⟩ | ⟨vs, ws, hvs, hws, h⟩
    · simp only [eval, hvs, hws]
      rfl
    · simp only [eval, hvs, hws]
      exact fragment_asHtml h id
  | .element id tag attributes children =>
    obtain ⟨hattributes, htag, hvoid, hchildren⟩ := hc
    rcases eq_or_of_map (evalAll_asHtml hchildren) with ⟨e, hvs, hws⟩ | ⟨vs, ws, hvs, hws, h⟩
    · simp only [eval, hvs, hws]
      rfl
    · have hempty : isVoid (lowercase tag) = true → ws = [] := by
        intro hv
        rw [hvoid hv] at hws
        exact (Except.ok.inj hws).symm
      simp only [eval, hvs, hws]
      exact element_asHtml h id hattributes htag hempty

theorem evalAll_asHtml {cs : List (Mode.Call φ)} (hcs : AllWellFormed cs) :
    (evalAll Html.mode cs).map Value.allAsHtml = (evalAll Tree.mode cs).map Value.allAsHtml := by
  match cs with
  | [] => rfl
  | c :: cs =>
    obtain ⟨hc, hcs⟩ := hcs
    rcases eq_or_of_map (eval_asHtml hc) with ⟨e, hv, hw⟩ | ⟨v, w, hv, hw, h⟩
    · simp only [evalAll, hv, hw]
      rfl
    · rcases eq_or_of_map (evalAll_asHtml hcs) with ⟨e, hvs, hws⟩ | ⟨vs, ws, hvs, hws, hrest⟩
      · simp only [evalAll, hv, hw, hvs, hws]
        rfl
      · simp only [evalAll, hv, hw, hvs, hws]
        show Except.ok (v.asHtml :: Value.allAsHtml vs) = Except.ok (w.asHtml :: Value.allAsHtml ws)
        rw [h, hrest]

end

/-- The text is the same in both modes, or the same call fails with the same fault. -/
theorem html_output_eq_tree_output {c : Mode.Call φ} (hc : c.WellFormed) :
    c.output Html.mode = c.output Tree.mode := by
  rcases eq_or_of_map (eval_asHtml hc) with ⟨e, hv, hw⟩ | ⟨v, w, hv, hw, h⟩
  · simp only [output, hv, hw]
  · have htext : v.text = w.text := by rw [← Value.text_asHtml, h, Value.text_asHtml]
    simp only [output, hv, hw]
    show v.text.mapError _ = w.text.mapError _
    rw [htext]

/-- A list around calls, with a list as an attribute; and a child without a text, for which its element
fails. -/
theorem listed_elements_agree :
    let item := Mode.Call.element (.given 0) "LI" [("title", .list [.string "<", .integer 1])]
      [.value (.string "a&b")]
    let c : Mode.Call Empty :=
      .fragment (.given 1) [.list [item, .raw (.given 2) "<i>"], .element (.given 3) "BR" [] []]
    let d : Mode.Call Empty :=
      .fragment (.given 1) [.element (.given 4) "p" [] [item, .value (.map [])], item]
    c.output Html.mode = c.output Tree.mode ∧ d.output Html.mode = d.output Tree.mode ∧
      c.output Html.mode = .ok "<li title=\"&lt;1\">a&amp;b</li><i><br>" ∧
        d.output Html.mode = .error (some (.given 4), .notText .map) := by
  intro item c d
  have htags : lowercase "LI" = "li" ∧ lowercase "BR" = "br" ∧ lowercase "p" = "p" ∧
      lowercase "title" = "title" := by
    decide +kernel
  obtain ⟨hli, hbr, hp, htitle⟩ := htags
  have hitem : item.WellFormed := by
    refine ⟨List.forall_mem_singleton.mpr ⟨htitle, by simp⟩, ?_, ?_, trivial, trivial⟩
    · rw [hli]
      simp
    · rw [hli]
      exact fun h => absurd h (by decide)
  have hc : c.WellFormed := by
    refine ⟨⟨hitem, trivial, trivial⟩, ⟨List.forall_mem_nil _, ?_, fun _ => rfl, trivial⟩, trivial⟩
    rw [hbr]
    simp
  have hd : d.WellFormed := by
    refine ⟨⟨List.forall_mem_nil _, ?_, ?_, hitem, trivial, trivial⟩, hitem, trivial⟩
    · rw [hp]
      simp
    · rw [hp]
      exact fun h => absurd h (by decide)
  exact ⟨html_output_eq_tree_output hc, html_output_eq_tree_output hd, rfl, rfl⟩

end Mode.Call

end TemplateTree
