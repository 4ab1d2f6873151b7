import TemplateTree.Proofs.Following
import TemplateTree.Proofs.LoopFrames
import TemplateTree.Proofs.TestValues

/-!
# Paths

A path behind another one continues from where that one leads. So a name that is bound to what a path
leads to stands for the path, as long as the front of the path keeps its value. Functions on the way are
called where they are met, once each and with the value they were read from, and the walk goes on from
what they return.
-/

namespace TemplateTree

open RenderM

variable {η : Type}

/-! ## A path behind a path -/

/-- The names in a path. -/
def pathNames (path : String) : List String :=
  (splitAtChar '.' path.toList).map String.ofList

namespace Variable

/-- The variable with a path behind its own one. -/
def dot (v : Variable) (path : String) : Variable :=
  { v with path := v.path ++ "." ++ path }

theorem pathNames_eq (v : Variable) : pathNames v.path = v.segments.1 :: v.segments.2 := by
  obtain ⟨first, rest, hsplit⟩ := List.exists_cons_of_ne_nil (splitAtChar_ne_nil '.' v.path.toList)
  simp [pathNames, segments, hsplit]

theorem pathNames_dot (v : Variable) (path : String) :
    pathNames (v.dot path).path = pathNames v.path ++ pathNames path := by
  simp [pathNames, dot, splitAtChar_joined]

theorem segments_dot (v : Variable) (path : String) :
    (v.dot path).segments = (v.segments.1, v.segments.2 ++ pathNames path) := by
  have h := pathNames_dot v path
  rw [pathNames_eq, pathNames_eq, List.cons_append] at h
  exact Prod.ext (List.cons.inj h).1 (List.cons.inj h).2

theorem segments_of_name {x : String} (hx : '.' ∉ x.toList) (calls : Bool) :
    (Variable.mk x calls).segments = (x, []) := by
  simp [segments, splitAtChar_of_not_mem hx]

end Variable

theorem Value.along?_append {φ : Type} (rest : List String) : ∀ (names : List String) (v : Value φ),
    v.along? (names ++ rest) = (v.along? names).bind (·.along? rest)
  | [], _ => rfl
  | name :: names, v => by
    rw [List.cons_append, along?, along?, Option.bind_assoc]
    exact congrArg _ (funext fun w => along?_append rest names w)

theorem Context.value?_dot (c : Context η) (v : Variable) (path : String) :
    c.value? (v.dot path) = (c.value? v).bind (·.along? (pathNames path)) := by
  simp only [value?, Variable.segments_dot, Value.along?_append, Option.bind_assoc]

section
variable [HostCode η] (render : Renderer η)

theorem followAll_append (calls : Bool) (rest : List String) : ∀ (names : List String) (v : Val η),
    followAll render calls v (names ++ rest) = followAll render calls v names >>= fun w =>
      followAll render calls w rest
  | [], _ => (pure_bind ..).symm
  | name :: names, v => by
    rw [List.cons_append, followAll, followAll, bind_assoc]
    exact congrArg _ (funext fun w => followAll_append calls rest names w)

theorem resolve_dot (v : Variable) (path : String) :
    resolve render (v.dot path) = resolve render v >>= fun w =>
      followAll render v.calls w (pathNames path) := by
  rw [resolve_eq, resolve_eq, Variable.segments_dot, bind_assoc]
  refine congrArg _ (funext fun c => ?_)
  dsimp only
  cases c.get? v.segments.1 with
  | none => rfl
  | some w =>
    dsimp only
    rw [bind_assoc]
    exact congrArg _ (funext fun u => followAll_append render v.calls (pathNames path) v.segments.2 u)

/-! ## Without functions -/

variable {c : Context η}

theorem exists_resolve (hc : c.WithoutFunctions) (v : Variable) : ∃ r, resolve render v c = some (r, c) ∧
    (∀ u, r = .ok u ↔ c.value? v = some u) ∧ ∀ e, r = .error e → e.kind = .variableNotFound := by
  rcases resolve_of_withoutFunctions render hc v with ⟨u, hu, hresolve⟩ | ⟨hnone, e, hkind, hresolve⟩
  · exact ⟨.ok u, hresolve, by simp [hu], by simp⟩
  · exact ⟨.error e, hresolve, by simp [hnone], by simp [hkind]⟩

theorem resolve_dot_of_withoutFunctions (hc : c.WithoutFunctions) (v : Variable) (path : String) : ∃ r s,
    resolve render v c = some (r, c) ∧ resolve render (v.dot path) c = some (s, c) ∧
      (∀ w, s = .ok w ↔ ∃ u, r = .ok u ∧ u.along? (pathNames path) = some w) ∧
        ∀ e, s = .error e → e.kind = .variableNotFound := by
  obtain ⟨r, hr, hvalue, -⟩ := exists_resolve render hc v
  obtain ⟨s, hs, hvalue', hkind⟩ := exists_resolve render hc (v.dot path)
  refine ⟨r, s, hr, hs, fun w => ?_, hkind⟩
  simp only [hvalue', hvalue, Context.value?_dot, Option.bind_eq_some_iff]

end

/-! ## Names for paths -/

theorem functionFree_of_along? :
    ∀ {names : List String} {v w : Val η}, FunctionFree v → v.along? names = some w →
    FunctionFree w
  | [], v, w, hv, h => by
    rw [← Option.some.inj h]
    exact hv
  | name :: names, v, w, hv, h => by
    obtain ⟨u, hu, hw⟩ := Option.bind_eq_some_iff.mp h
    exact functionFree_of_along? (Value.admits_of_property? hv hu) hw

namespace Context

variable {c : Context η}

theorem get?_mapTop_insertAll (c : Context η) (bs : List (String × Val η)) (x : String) :
    (c.mapTop (·.insertAll bs)).get? x = ((Dict.ofList bs).get? x).or (c.get? x) := by
  obtain ⟨globals, stack, render, saved, depth, made⟩ := c
  cases stack with
  | nil => simp [get?, frames, mapTop, Dict.get?_insertAll]
  | cons frame stack =>
    simp only [get?, frames, mapTop, List.cons_append, List.findSome?_cons, Dict.get?_insertAll]
    cases (Dict.ofList bs).get? x <;> rfl

/-- What is bound, and the context that it is bound in: a variable that is set, those of a round of a
loop with the state of the loop, and those of an inclusion, in a frame below the included template. -/
inductive Binding (c : Context η) : Dict (Val η) → Context η → Prop
  | set (x : String) (v : Val η) : c.Binding [(x, v)] (c.set x v)
  | round {vars : List String} {item state : Val η} {bs : List (String × Val η)} {d : Context η}
    (hitem : bindings vars item = .ok bs)
    (h : (bindItem vars item >>= fun _ => bindVar "forloop" state) c = some (.ok (), d)) :
    c.Binding ((Dict.ofList bs).insert "forloop" state) d
  | inclusion (frame : Dict (Val η)) (depth : Nat) (templates : List (Template η)) :
    c.Binding frame (queueBlocks { c.push frame with depth := depth }.enter templates)

theorem Binding.get? {b : Dict (Val η)} {d : Context η} (h : c.Binding b d) (x : String) :
    d.get? x = (b.get? x).or (c.get? x) := by
  cases h with
  | set y v =>
    rw [get?_set]
    by_cases hy : y = x <;> simp [Dict.get?, hy]
  | @round vars item state bs d hitem h =>
    rw [bindItem_eq, hitem] at h
    obtain rfl : (c.mapTop (·.insertAll bs)).set "forloop" state = d := congrArg Prod.snd (Option.some.inj h)
    -- the state is bound last, so it also stands in the place of a loop variable of its name
    rw [get?_set, get?_mapTop_insertAll, Dict.get?_insert]
    by_cases hx : "forloop" = x <;> simp [hx]
  | inclusion _ depth templates =>
    rw [(queueBlocks_scope templates _).get?]
    exact get?_push c b x

end Context

section
variable [HostCode η] (render : Renderer η) {c : Context η}

theorem resolve_of_binding (hc : c.WithoutFunctions) {p : Variable} {v : Val η}
    (hp : resolve render p c = some (.ok v, c)) {b : Dict (Val η)} {d : Context η} (hb : c.Binding b d)
    (hfirst : b.get? p.segments.1 = none) : FunctionFree v ∧ resolve render p d = some (.ok v, d) := by
  obtain ⟨r, hr, hvalue, -⟩ := exists_resolve render hc p
  rw [hr] at hp
  obtain ⟨w, hw, hv⟩ := Option.bind_eq_some_iff.mp ((hvalue v).mp (congrArg Prod.fst (Option.some.inj hp)))
  have hfree : FunctionFree w := hc _ w hw
  have hget : d.get? p.segments.1 = some w := by rw [hb.get?, hfirst, Option.none_or, hw]
  refine ⟨functionFree_of_along? hfree hv, ?_⟩
  rw [resolve_of_functionFree render hget hfree]
  rcases followAll_of_functionFree render p.calls p.segments.2 hfree with ⟨u, hu, hfollow⟩ | ⟨hnone, -⟩
  · rw [hfollow, ← Option.some.inj (hv.symm.trans hu)]
    rfl
  · rw [hv] at hnone
    cases hnone

/-- A name that is bound to what a path leads to stands for the path wherever the front of the path is
not bound again. -/
theorem resolve_alias (hc : c.WithoutFunctions) {p : Variable} {v : Val η}
    (hp : resolve render p c = some (.ok v, c)) {x : String} (hx : '.' ∉ x.toList) {b : Dict (Val η)}
    {d : Context η} (hb : c.Binding b d) (hv : b.get? x = some v)
    (hfirst : b.get? p.segments.1 = none) (q : String) : ∃ r,
      resolve render ((Variable.mk x p.calls).dot q) d = some (r, d) ∧
      resolve render (p.dot q) d = some (r, d) ∧
        ∀ w, r = .ok w ↔ v.along? (pathNames q) = some w := by
  -- both the name and the path lead to the value in the new context, and from there the way is the same
  obtain ⟨hfree, hpath⟩ := resolve_of_binding render hc hp hb hfirst
  have hget : d.get? (Variable.mk x p.calls).segments.1 = some v := by
    rw [Variable.segments_of_name hx, hb.get?, hv, Option.some_or]
  have hname : resolve render (.mk x p.calls) d = some (.ok v, d) := by
    rw [resolve_of_functionFree render hget hfree, Variable.segments_of_name hx]
    rfl
  rw [resolve_dot, resolve_dot, RenderM.bind_apply, RenderM.bind_apply, hname, hpath]
  dsimp only
  rcases followAll_of_functionFree render p.calls (pathNames q) hfree with
    ⟨u, hu, hfollow⟩ | ⟨hnone, name, kind, hfollow⟩
  · rw [hfollow]
    exact ⟨.ok u, rfl, rfl, by simp [hu]⟩
  · rw [hfollow]
    exact ⟨_, rfl, rfl, by simp [hnone]⟩

end

/-! ## Functions on the way -/

/-- A value that is read on the way along a path. -/
structure Station (η : Type) where
  /-- The value it is read from. -/
  receiver : Val η
  read : Val η
  before : Context η
  /-- What stands for it from then on. -/
  outcome : Except Error (Val η)
  after : Context η

/-- A function is called once, on what it is read from; any other value stands for itself. -/
def Station.Stands [HostCode η] (render : Renderer η) (s : Station η) : Prop :=
  match s.read with
  | .function _ f => call render f s.receiver s.before = some (s.outcome, s.after)
  | v => s.outcome = .ok v ∧ s.after = s.before

/-- The stations on the way along a path, one for each name, the first one for its front. Each reads
from what stands for the one before, in the context that it has left. -/
inductive Visits [HostCode η] (render : Renderer η) :
    List (Station η) → List String → Except Error (Val η) → Context η → Prop
  | fails {s : Station η} {names : List String} {e : Error} (hs : s.Stands render)
      (he : s.outcome = .error e) :
    Visits render [s] names (.error e) s.after
  | arrives {s : Station η} {v : Val η} (hs : s.Stands render) (hv : s.outcome = .ok v) :
    Visits render [s] [] (.ok v) s.after
  | lost {s : Station η} {v : Val η} {name : String} {names : List String} (hs : s.Stands render)
    (hv : s.outcome = .ok v) (hread : v.property? name = none) :
    Visits render [s] (name :: names) (.error (.ofCause (.missingProperty name v.kind))) s.after
  | goes {s t : Station η} {stations : List (Station η)} {name : String} {names : List String}
    {r : Except Error (Val η)} {d : Context η} (hs : s.Stands render) (hv : s.outcome = .ok t.receiver)
    (hread : t.receiver.property? name = some t.read) (hbefore : t.before = s.after)
    (h : Visits render (t :: stations) names r d) : Visits render (s :: t :: stations) (name :: names) r d

section
variable [HostCode η] {render : Renderer η} {r : Except Error (Val η)} {d : Context η}

theorem Station.stands_iff {s : Station η} :
    s.Stands render ↔ reach render true s.receiver s.read s.before = some (s.outcome, s.after) := by
  obtain ⟨receiver, read, before, outcome, after⟩ := s
  have hplain : (outcome = .ok read ∧ after = before) ↔ some (.ok read, before) = some (outcome, after) := by
    simp [eq_comm]
  cases read with
  | function id f => exact Iff.rfl
  | _ => exact hplain

theorem reach_of_visits {s : Station η} {stations : List (Station η)} {names : List String}
    (h : Visits render (s :: stations) names r d) :
    (reach render true s.receiver s.read >>= fun w => followAll render true w names) s.before =
      some (r, d) := by
  generalize hvisited : s :: stations = visited at h
  induction h generalizing s stations with
  | fails hs he =>
    obtain ⟨rfl, -⟩ := List.cons.inj hvisited
    rw [RenderM.bind_apply, Station.stands_iff.mp hs, he]
  | arrives hs hv =>
    obtain ⟨rfl, -⟩ := List.cons.inj hvisited
    rw [RenderM.bind_apply, Station.stands_iff.mp hs, hv]
    rfl
  | lost hs hv hread =>
    obtain ⟨rfl, -⟩ := List.cons.inj hvisited
    rw [RenderM.bind_apply, Station.stands_iff.mp hs, hv]
    simp only [followAll, follow, hread]
    rfl
  | goes hs hv hread hbefore _ ih =>
    obtain ⟨rfl, -⟩ := List.cons.inj hvisited
    rw [RenderM.bind_apply, Station.stands_iff.mp hs, hv]
    simp only [followAll, follow, hread, ← hbefore]
    exact ih rfl

theorem exists_station {receiver read : Val η} {c : Context η} {f : Val η → RenderM η (Val η)}
    (h : (reach render true receiver read >>= f) c = some (r, d)) :
    ∃ s : Station η, (s.receiver = receiver ∧ s.read = read ∧ s.before = c) ∧ s.Stands render ∧
      ((∃ e, s.outcome = .error e ∧ r = .error e ∧ d = s.after) ∨
        ∃ v, s.outcome = .ok v ∧ f v s.after = some (r, d)) := by
  rw [RenderM.bind_apply] at h
  cases hreach : reach render true receiver read c with
  | none =>
    rw [hreach] at h
    cases h
  | some o =>
    obtain ⟨outcome, after⟩ := o
    rw [hreach] at h
    refine ⟨⟨receiver, read, c, outcome, after⟩, ⟨rfl, rfl, rfl⟩, Station.stands_iff.mpr hreach, ?_⟩
    cases outcome with
    | error e =>
      obtain ⟨rfl, rfl⟩ := Prod.mk.inj (Option.some.inj h)
      exact .inl ⟨e, rfl, rfl, rfl⟩
    | ok v => exact .inr ⟨v, rfl, h⟩

-- by induction on the names that are left: what stands at a station is what the next one is read from
theorem visits_of_reach {names : List String} {receiver read : Val η} {c : Context η}
    (h : (reach render true receiver read >>= fun w => followAll render true w names) c = some (r, d)) :
    ∃ s stations, (s.receiver = receiver ∧ s.read = read ∧ s.before = c) ∧
      Visits render (s :: stations) names r d := by
  induction names generalizing receiver read c with
  | nil =>
    obtain ⟨s, hat, hs, ⟨e, he, rfl, rfl⟩ | ⟨v, hv, h⟩⟩ := exists_station h
    · exact ⟨s, [], hat, .fails hs he⟩
    · obtain ⟨rfl, rfl⟩ := Prod.mk.inj (Option.some.inj h)
      exact ⟨s, [], hat, .arrives hs hv⟩
  | cons name names ih =>
    obtain ⟨s, hat, hs, ⟨e, he, rfl, rfl⟩ | ⟨v, hv, h⟩⟩ := exists_station h
    · exact ⟨s, [], hat, .fails hs he⟩
    · rw [followAll, follow] at h
      cases hread : v.property? name with
      | none =>
        rw [hread] at h
        obtain ⟨rfl, rfl⟩ := Prod.mk.inj (Option.some.inj h)
        exact ⟨s, [], hat, .lost hs hv hread⟩
      | some u =>
        rw [hread] at h
        obtain ⟨t, stations, ⟨rfl, rfl, hbefore⟩, hvisits⟩ := ih h
        exact ⟨s, t :: stations, hat, .goes hs hv hread hbefore hvisits⟩

/-- A variable resolves by a walk along its path, on which functions are called as they are met. -/
theorem resolve_iff_visits (path : String) (c : Context η) :
    resolve render (.called path) c = some (r, d) ↔
      (c.get? (Variable.called path).segments.1 = none ∧
        r = .error (.ofCause (.unboundName (Variable.called path).segments.1)) ∧ d = c) ∨
      ∃ s stations, (s.receiver = .none ∧
        c.get? (Variable.called path).segments.1 = some s.read ∧ s.before = c) ∧
        Visits render (s :: stations) (Variable.called path).segments.2 r d := by
  rw [resolve_eq, RenderM.get_bind_apply]
  cases hget : c.get? (Variable.called path).segments.1 with
  | none =>
    constructor
    · intro h
      obtain ⟨rfl, rfl⟩ := Prod.mk.inj (Option.some.inj h)
      exact .inl ⟨rfl, rfl, rfl⟩
    · intro h
      obtain ⟨-, rfl, rfl⟩ | ⟨s, stations, ⟨-, h, -⟩, -⟩ := h
      · rfl
      · cases h
  | some read =>
    constructor
    · intro h
      obtain ⟨s, stations, ⟨hreceiver, rfl, hbefore⟩, hvisits⟩ := visits_of_reach h
      exact .inr ⟨s, stations, ⟨hreceiver, rfl, hbefore⟩, hvisits⟩
    · intro h
      obtain ⟨h, -⟩ | ⟨s, stations, ⟨hreceiver, hread, rfl⟩, hvisits⟩ := h
      · cases h
      · have h := reach_of_visits hvisits
        rw [hreceiver, ← Option.some.inj hread] at h
        exact h

end

/-! ## Paths, names for them and functions on them -/

/-- Without functions, a path behind another one leads from where that one has led, or is not found; and
a name that is bound to what a path leads to stands for the path, unless the front of the path is bound
again along with it. With functions, the stations on the way make up what a called variable resolves to
and what it does to the context. -/
theorem paths_compose_and_names_stand_for_them [HostCode η] (render : Renderer η) (c : Context η) :
    (c.WithoutFunctions → ∀ p : Variable,
      (∀ q, ∃ r s, resolve render p c = some (r, c) ∧ resolve render (p.dot q) c = some (s, c) ∧
        (∀ w, s = .ok w ↔ ∃ v, r = .ok v ∧ v.along? (pathNames q) = some w) ∧
          ∀ e, s = .error e → e.kind = .variableNotFound) ∧
      ∀ (x : String) (v : Val η) (b : Dict (Val η)) (d : Context η), '.' ∉ x.toList →
        resolve render p c = some (.ok v, c) → c.Binding b d → b.get? x = some v →
        b.get? p.segments.1 = none →
          ∀ q, ∃ r, resolve render ((Variable.mk x p.calls).dot q) d = some (r, d) ∧
            resolve render (p.dot q) d = some (r, d) ∧ ∀ w, r = .ok w ↔ v.along? (pathNames q) = some w) ∧
    ∀ path r d, resolve render (.called path) c = some (r, d) ↔
      (c.get? (Variable.called path).segments.1 = none ∧
        r = .error (.ofCause (.unboundName (Variable.called path).segments.1)) ∧ d = c) ∨
      ∃ s stations, (s.receiver = .none ∧
        c.get? (Variable.called path).segments.1 = some s.read ∧ s.before = c) ∧
        Visits render (s :: stations) (Variable.called path).segments.2 r d := by
  refine ⟨fun hc p => ⟨resolve_dot_of_withoutFunctions render hc p, ?_⟩, fun path r d =>
    resolve_iff_visits path c⟩
  intro x v b d hx hp hb hv hfirst
  exact resolve_alias render hc hp hx hb hv hfirst

/-- The length of a string in a map by way of its path and of a name for it, and a function that counts. -/
theorem length_of_named_string :
    let c : Context Procedure := .withGlobals [("a", .map [("s", .string "xyz")])]
    let render : Renderer Procedure := fun _ => exhausted
    let d := c.set "x" (.string "xyz")
    let counted : Context Procedure := c.set "f" (.function (.given 0) (.host (.count "n")))
    c.WithoutFunctions ∧ resolve render (.called "a.s") c = some (.ok (.string "xyz"), c) ∧
      (∃ r, resolve render ((Variable.called "x").dot "length") d = some (r, d) ∧
        resolve render ((Variable.called "a.s").dot "length") d = some (r, d) ∧
          ∀ w, r = .ok w ↔ w = .integer 3) ∧
      ∃ (s : Station Procedure) (stations : List (Station Procedure)), s.receiver = .none ∧
        s.before = counted ∧
        Visits render (s :: stations) [] (.ok (.integer 1)) (counted.set "n" (.integer 1)) := by
  intro c render d counted
  have hc : c.WithoutFunctions := by
    refine Context.withoutFunctions_of_frames
      (List.forall_mem_singleton.mpr (List.forall_mem_singleton.mpr ?_))
    exact Value.admits_map.mpr (List.forall_mem_singleton.mpr (Value.admits_string _))
  have hp : resolve render (.called "a.s") c = some (.ok (.string "xyz"), c) := by rfl
  obtain ⟨hpaths, -⟩ := paths_compose_and_names_stand_for_them render c
  have hnames := (hpaths hc (.called "a.s")).2 "x" (.string "xyz") _ d (by decide +kernel)
    hp (.set _ _) rfl (by rfl)
  obtain ⟨r, hname, hpath, hvalue⟩ := hnames "length"
  refine ⟨hc, hp, ⟨r, hname, hpath, fun w => (hvalue w).trans ?_⟩, ?_⟩
  · have hlength : Value.along? (.string "xyz" : Val Procedure) (pathNames "length") =
        some (.integer 3) := by rfl
    rw [hlength, Option.some_inj, eq_comm]
  obtain ⟨-, hvisits⟩ := paths_compose_and_names_stand_for_them render counted
  have hcall : resolve render (.called "f") counted =
      some (.ok (.integer 1), counted.set "n" (.integer 1)) := by rfl
  obtain ⟨-, h, -⟩ | ⟨s, stations, ⟨hreceiver, -, hbefore⟩, h⟩ := (hvisits "f" _ _).mp hcall
  · cases h
  · exact ⟨s, stations, hreceiver, hbefore, h⟩

/-- The length of a string by a name for it and by a path: a loop binds the front of the path or the
name to its state, and an inclusion leaves the front of the path behind. -/
theorem paths_are_lost_behind_names :
    let named : Template Empty := ⟨"named", none, [.var (.called "x.length")], [], rfl⟩
    let spelled : Template Empty := ⟨"spelled", none, [.var (.called "a.length")], [], rfl⟩
    let engine := (Engine.html.add named).add spelled
    let c : Context Empty := .withGlobals
      [("a", .string "s"), ("forloop", .map [("a", .string "s")]), ("xs", .list [.string "s"])]
    let looped (x path : String) : Node Empty := .loop [x] (.called "xs") [.var (.called path)] []
    let included (name : String) : Node Empty := .inclusion (.name name) [("x", .var (.called "a"))] true
    let text (n : Node Empty) : Option (Option String) :=
      (engine.renderOne n c).map fun o => o.1.toOption.bind fun v => v.text.toOption
    c.WithoutFunctions ∧ text (.var (.called "a")) = some (some "s") ∧
      text (.var (.called "forloop.a")) = some (some "s") ∧ text (looped "x" "x") = some (some "s") ∧
        text (looped "x" "x.length") = some (some "1") ∧ text (looped "x" "forloop.a.length") = some none ∧
          text (looped "forloop" "forloop.length") = some none ∧
          text (looped "forloop" "a.length") = some (some "1") ∧
            text (included "named") = some (some "1") ∧ text (included "spelled") = some none := by
  intro named spelled engine c looped included text
  have hc : c.WithoutFunctions := by
    refine Context.withoutFunctions_of_frames
      (List.forall_mem_singleton.mpr (List.forall_mem_cons.mpr ⟨by simp, ?_⟩))
    exact List.forall_mem_cons.mpr ⟨by simp, List.forall_mem_singleton.mpr (by simp)⟩
  exact ⟨hc, by decide +kernel⟩

end TemplateTree
