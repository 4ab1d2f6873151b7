import Mathlib.Data.List.Basic
import TemplateTree.Proofs.Rendering
import TemplateTree.Proofs.Scopes

/-!
# Frames with their history

A context does not keep who bound a variable when. Beside it stands the history of each frame: the
bindings that it was pushed with, and those made in it since. Any operations on the frames of a context
keep the two together, so a lookup finds the last binding of a name in the topmost frame that has one,
and a pop gives back what its push began.
-/

namespace TemplateTree

open RenderM

variable {η : Type}

/-- What the host and the nodes do to the frames of a context. -/
inductive FrameOp (η : Type) where
  | push (frame : Dict (Val η))
  | set (name : String) (value : Val η)
  | setAll (names : List String) (values : List (Val η))
  | pop

def FrameOp.step : FrameOp η → RenderM η Unit
  | .push frame => pushFrame frame
  | .set name value => bindVar name value
  | .setAll names values => update (·.setAll names values)
  | .pop => discard popFrame

/-- The context behind some operations, whether they fail or not. -/
def Context.run (c : Context η) (ops : List (FrameOp η)) : Option (Context η) :=
  ops.foldlM (fun c op => (op.step c).map (·.2)) c

/-! ## Histories -/

/-- A frame that has not been popped, with its history. -/
structure LiveFrame (η : Type) where
  pushed : Dict (Val η)
  /-- The bindings made in the frame while it was on top, in their order. -/
  written : List (String × Val η)

namespace LiveFrame

/-- The last binding of a name. -/
def last? (f : LiveFrame η) (name : String) : Option (Val η) :=
  (f.written.reverse.lookup name).or (f.pushed.get? name)

def contents (f : LiveFrame η) : Dict (Val η) :=
  f.pushed.insertAll f.written

end LiveFrame

/-- What an operation makes of the live frames, the top one first. The last of them is never popped. -/
def FrameOp.record : List (LiveFrame η) → FrameOp η → List (LiveFrame η)
  | frames, .push frame => ⟨frame, []⟩ :: frames
  | f :: frames, .set name value => ⟨f.pushed, f.written ++ [(name, value)]⟩ :: frames
  | f :: frames, .setAll names values => ⟨f.pushed, f.written ++ names.zip values⟩ :: frames
  | _ :: f :: frames, .pop => f :: frames
  | frames, _ => frames

/-- The live frames after some operations. -/
def liveFrames (start : Context η) (ops : List (FrameOp η)) : List (LiveFrame η) :=
  ops.foldl FrameOp.record (start.frames.map (⟨·, []⟩))

/-- Operations in which every push is followed by its pop and every pop belongs to a push, with the
bindings that are made in none of the frames pushed here. -/
inductive Balanced : List (FrameOp η) → List (String × Val η) → Prop
  | nil : Balanced [] []
  | set {ops : List (FrameOp η)} {ws : List (String × Val η)} (h : Balanced ops ws)
      (name : String) (value : Val η) :
    Balanced (ops ++ [.set name value]) (ws ++ [(name, value)])
  | setAll {ops : List (FrameOp η)} {ws : List (String × Val η)} (h : Balanced ops ws) (names : List String)
    (values : List (Val η)) : Balanced (ops ++ [.setAll names values]) (ws ++ names.zip values)
  | nested {ops inner : List (FrameOp η)} {ws vs : List (String × Val η)}
      (h : Balanced ops ws) (frame : Dict (Val η))
    (hinner : Balanced inner vs) : Balanced (ops ++ .push frame :: inner ++ [.pop]) ws

/-! ## Runs -/

namespace Context

theorem run_append (c : Context η) (ops ops' : List (FrameOp η)) :
    c.run (ops ++ ops') = (c.run ops).bind fun d => d.run ops' :=
  List.foldlM_append

theorem run_cons (c : Context η) (op : FrameOp η) (ops : List (FrameOp η)) :
    c.run (op :: ops) = ((op.step c).map (·.2)).bind fun d => d.run ops :=
  rfl

theorem run_push (c : Context η) (frame : Dict (Val η)) (ops : List (FrameOp η)) :
    c.run (.push frame :: ops) = (c.push frame).run ops :=
  rfl

theorem run_set (c : Context η) (name : String) (value : Val η) (ops : List (FrameOp η)) :
    c.run (.set name value :: ops) = (c.mapTop (·.insertAll [(name, value)])).run ops :=
  rfl

theorem run_setAll (c : Context η) (names : List String) (values : List (Val η)) (ops : List (FrameOp η)) :
    c.run (.setAll names values :: ops) = (c.mapTop (·.insertAll (names.zip values))).run ops :=
  rfl

theorem mapTop_insertAll (c : Context η) (ws vs : List (String × Val η)) :
    (c.mapTop (·.insertAll ws)).mapTop (·.insertAll vs) = c.mapTop (·.insertAll (ws ++ vs)) := by
  rw [mapTop_mapTop]
  congr 1
  funext d
  exact List.foldl_append.symm

/-- Operations that are balanced make their own bindings in the top frame and change nothing else. -/
theorem run_balanced {ops : List (FrameOp η)} {ws : List (String × Val η)}
    (h : Balanced ops ws) (c : Context η) : c.run ops = some (c.mapTop (·.insertAll ws)) := by
  induction h generalizing c with
  | nil => exact congrArg some c.mapTop_id.symm
  | @set ops ws h name value ih =>
    rw [run_append, ih, Option.bind_some, run_set, mapTop_insertAll]
    rfl
  | @setAll ops ws h names values ih =>
    rw [run_append, ih, Option.bind_some, run_setAll, mapTop_insertAll]
    rfl
  | @nested ops inner ws vs h frame hinner ih ihinner =>
    rw [List.append_assoc, run_append, ih, Option.bind_some, List.cons_append, run_push, run_append, ihinner]
    rfl

theorem run_unbound {ops : List (FrameOp η)} (h : Balanced ops []) (c : Context η) : c.run ops = some c := by
  rw [run_balanced h]
  exact congrArg some c.mapTop_id

/-- Behind a push and balanced operations there is the pushed frame with their bindings, and below it
what was there. -/
theorem run_pushed {c d : Context η} {before inner : List (FrameOp η)} {ws : List (String × Val η)}
    (h : Balanced inner ws) (hrun : c.run before = some d) (frame : Dict (Val η)) :
    c.run (before ++ .push frame :: inner) = some (d.push (frame.insertAll ws)) := by
  rw [run_append, hrun, Option.bind_some, run_push, run_balanced h]
  rfl

theorem popFrame_of_stack_nil {c : Context η} (h : c.stack = []) :
    popFrame c = some (.error (.ofCause .noFrame), c) := by
  unfold popFrame pop?
  rw [h]

theorem popFrame_push (c : Context η) (frame : Dict (Val η)) :
    popFrame (c.push frame) = some (.ok frame, c) :=
  rfl

end Context

/-! ## Histories and contexts -/

theorem Dict.get?_insertAll_eq_lookup {α : Type} (d : Dict α) (ws : List (String × α)) (name : String) :
    (d.insertAll ws).get? name = (ws.reverse.lookup name).or (d.get? name) := by
  induction ws generalizing d with
  | nil => rfl
  | cons w ws ih =>
    obtain ⟨key, value⟩ := w
    have hcons : d.insertAll ((key, value) :: ws) = (d.insert key value).insertAll ws := rfl
    rw [hcons, ih, Dict.get?_insert, List.reverse_cons, List.lookup_append, List.lookup_cons, List.lookup_nil]
    by_cases hkey : key = name
    · simp [hkey]
    · have hne : (name == key) = false := beq_false_of_ne (Ne.symm hkey)
      simp [hkey, hne]

theorem LiveFrame.get?_contents (f : LiveFrame η) (name : String) : f.contents.get? name = f.last? name :=
  Dict.get?_insertAll_eq_lookup f.pushed f.written name

theorem step_pop {c d : Context η} {r : Except Error (Dict (Val η))} (h : popFrame c = some (r, d)) :
    (FrameOp.pop.step c).map (·.2) = some d := by
  show ((popFrame c).bind _).map _ = _
  rw [h]
  cases r <;> rfl

/-- The live frames hold what the frames of the context hold. -/
def Shows (c : Context η) (fs : List (LiveFrame η)) : Prop :=
  c.frames = fs.map (·.contents)

namespace Shows

variable {c : Context η} {f : LiveFrame η} {fs : List (LiveFrame η)}

theorem mapTop (h : Shows c (f :: fs)) (ws : List (String × Val η)) :
    Shows (c.mapTop (·.insertAll ws)) (⟨f.pushed, f.written ++ ws⟩ :: fs) := by
  have hcontents : f.contents.insertAll ws = LiveFrame.contents ⟨f.pushed, f.written ++ ws⟩ :=
    List.foldl_append.symm
  obtain ⟨globals, stack, render, saved, depth, made⟩ := c
  cases stack with
  | nil =>
    obtain ⟨rfl, hfs⟩ := List.cons.inj h
    exact List.cons_eq_cons.mpr ⟨hcontents, hfs⟩
  | cons frame stack =>
    obtain ⟨rfl, hfs⟩ := List.cons.inj h
    exact List.cons_eq_cons.mpr ⟨hcontents, hfs⟩

theorem pop {g : LiveFrame η} (h : Shows c (f :: g :: fs)) :
    ∃ d, popFrame c = some (.ok f.contents, d) ∧ Shows d (g :: fs) := by
  obtain ⟨globals, stack, render, saved, depth, made⟩ := c
  cases stack with
  | nil =>
    have hlength := congrArg List.length h
    simp [Context.frames] at hlength
  | cons frame stack =>
    obtain ⟨rfl, hfs⟩ := List.cons.inj h
    exact ⟨_, rfl, hfs⟩

theorem refuse (h : Shows c [f]) : popFrame c = some (.error (.ofCause .noFrame), c) := by
  have hlength : (c.stack ++ [c.globals]).length = 1 := congrArg List.length h
  have hstack : c.stack = [] := by simpa using hlength
  exact Context.popFrame_of_stack_nil hstack

theorem get?_eq (h : Shows c fs) (name : String) : c.get? name = fs.findSome? (·.last? name) := by
  rw [Context.get?, h, List.findSome?_map]
  congr 1
  funext f
  exact f.get?_contents name

/-- Every operation ends, and the record of it shows the context behind it. -/
theorem step (h : Shows c (f :: fs)) (op : FrameOp η) : ∃ d g gs, (op.step c).map (·.2) = some d ∧
    FrameOp.record (f :: fs) op = g :: gs ∧ Shows d (g :: gs) := by
  cases op with
  | push frame => exact ⟨c.push frame, ⟨frame, []⟩, f :: fs, rfl, rfl, congrArg (frame :: ·) h⟩
  | set name value => exact ⟨c.set name value, _, fs, rfl, rfl, h.mapTop [(name, value)]⟩
  | setAll names values => exact ⟨c.setAll names values, _, fs, rfl, rfl, h.mapTop (names.zip values)⟩
  | pop =>
    cases fs with
    | nil => exact ⟨c, f, [], step_pop h.refuse, rfl, h⟩
    | cons g fs =>
      obtain ⟨d, hpop, hd⟩ := h.pop
      exact ⟨d, g, fs, step_pop hpop, rfl, hd⟩

theorem run (h : Shows c (f :: fs)) (ops : List (FrameOp η)) :
    ∃ d g gs, c.run ops = some d ∧ ops.foldl FrameOp.record (f :: fs) = g :: gs ∧ Shows d (g :: gs) := by
  induction ops generalizing c f fs with
  | nil => exact ⟨c, f, fs, rfl, rfl, h⟩
  | cons op ops ih =>
    obtain ⟨d, g, gs, hstep, hrecord, hd⟩ := h.step op
    obtain ⟨d', g', gs', hrun, hrecords, hd'⟩ := ih hd
    refine ⟨d', g', gs', ?_, ?_, hd'⟩
    · rw [Context.run_cons, hstep, Option.bind_some, hrun]
    · rw [List.foldl_cons, hrecord, hrecords]

end Shows

theorem shows_start (c : Context η) : Shows c (c.frames.map (⟨·, []⟩)) := by
  unfold Shows
  rw [List.map_map]
  exact (List.map_id _).symm

/-- The live frames after some operations show the context behind them. -/
theorem shows_liveFrames (start : Context η) (ops : List (FrameOp η)) :
    ∃ c f fs, start.run ops = some c ∧ liveFrames start ops = f :: fs ∧ Shows c (f :: fs) := by
  have hne : start.frames ≠ [] := by simp [Context.frames]
  have hstart := shows_start start
  unfold liveFrames
  obtain ⟨frame, frames, hframes⟩ := List.exists_cons_of_ne_nil hne
  rw [hframes, List.map_cons] at hstart ⊢
  exact hstart.run ops

theorem record_balanced {ops : List (FrameOp η)} {ws : List (String × Val η)}
    (h : Balanced ops ws) (f : LiveFrame η) (fs : List (LiveFrame η)) :
    ops.foldl FrameOp.record (f :: fs) = ⟨f.pushed, f.written ++ ws⟩ :: fs := by
  induction h generalizing f fs with
  | nil => simp
  | set h name value ih => simp [ih, FrameOp.record]
  | setAll h names values ih => simp [ih, FrameOp.record]
  | nested h frame hinner ih ihinner => simp [ih, ihinner, FrameOp.record]

/-- The frame of a push is live, with the bindings made in it, until its pop. -/
theorem liveFrames_pushed (start : Context η) (before : List (FrameOp η)) (frame : Dict (Val η))
    {inner : List (FrameOp η)} {ws : List (String × Val η)} (h : Balanced inner ws) :
    liveFrames start (before ++ .push frame :: inner) = ⟨frame, ws⟩ :: liveFrames start before := by
  unfold liveFrames
  rw [List.foldl_append, List.foldl_cons]
  exact record_balanced h _ _

/-! ## Pops and their pushes -/

/-- A pop that comes next belongs to a push among the operations. -/
def HasPush (ops : List (FrameOp η)) : Prop :=
  ∃ before frame inner ws, ops = before ++ .push frame :: inner ∧ Balanced inner ws

theorem HasPush.pop {before inner : List (FrameOp η)} {ws : List (String × Val η)} (h : HasPush before)
    (frame : Dict (Val η)) (hinner : Balanced inner ws) :
    HasPush (before ++ .push frame :: inner ++ [.pop]) := by
  obtain ⟨before, outer, ops, vs, rfl, hops⟩ := h
  exact ⟨before, outer, ops ++ .push frame :: inner ++ [.pop], vs, by simp, hops.nested frame hinner⟩

theorem HasPush.write {ops : List (FrameOp η)} {op : FrameOp η} (h : HasPush ops)
    (hop : ∀ inner ws, Balanced inner ws → ∃ vs, Balanced (inner ++ [op]) vs) : HasPush (ops ++ [op]) := by
  obtain ⟨before, frame, inner, ws, rfl, hinner⟩ := h
  obtain ⟨vs, hvs⟩ := hop inner ws hinner
  exact ⟨before, frame, inner ++ [op], vs, by simp, hvs⟩

theorem Context.length_mapTop (c : Context η) (g : Dict (Val η) → Dict (Val η)) :
    (c.mapTop g).stack.length = c.stack.length := by
  obtain ⟨globals, stack, render, saved, depth, made⟩ := c
  cases stack <;> rfl

theorem exists_of_run_append {c e : Context η} {ops ops' : List (FrameOp η)}
    (h : c.run (ops ++ ops') = some e) : ∃ d, c.run ops = some d ∧ d.run ops' = some e := by
  rw [Context.run_append] at h
  exact Option.bind_eq_some_iff.mp h

theorem exists_of_run_snoc {c e : Context η} {ops : List (FrameOp η)} {op : FrameOp η}
    (h : c.run (ops ++ [op]) = some e) : ∃ d, c.run ops = some d ∧ (op.step d).map (·.2) = some e := by
  obtain ⟨d, hd, h⟩ := exists_of_run_append h
  refine ⟨d, hd, ?_⟩
  rw [Context.run_cons] at h
  simpa [Context.run] using h

/-- Behind a pop there is the context that its push came to. -/
theorem run_of_closed {c e : Context η} {before inner : List (FrameOp η)} {frame : Dict (Val η)}
    {ws : List (String × Val η)} (h : Balanced inner ws)
    (hrun : c.run (before ++ .push frame :: inner ++ [.pop]) = some e) : c.run before = some e := by
  rw [List.append_assoc] at hrun
  obtain ⟨d, hd, hrun⟩ := exists_of_run_append hrun
  have hclosed : d.run (.push frame :: inner ++ [.pop]) = some d :=
    Context.run_unbound (Balanced.nil.nested frame h) d
  obtain rfl := Option.some.inj (hclosed.symm.trans hrun)
  exact hd

theorem length_le_of_step_pop {c d : Context η} (h : (FrameOp.pop.step c).map (·.2) = some d) :
    d.stack.length ≤ c.stack.length := by
  obtain ⟨globals, stack, render, saved, depth, made⟩ := c
  cases stack with
  | nil =>
    obtain rfl := Option.some.inj h
    exact Nat.le_refl _
  | cons frame stack =>
    obtain rfl := Option.some.inj h
    exact Nat.le_succ _

/-- After operations without a push for the next pop there are no more frames than at the start. -/
theorem hasPush_or_length_le (start : Context η) : ∀ (n : Nat) (ops : List (FrameOp η)) (c : Context η),
    ops.length ≤ n → start.run ops = some c → HasPush ops ∨ c.stack.length ≤ start.stack.length := by
  intro n
  induction n with
  | zero =>
    intro ops c hn hrun
    obtain rfl := List.length_eq_zero_iff.mp (Nat.le_zero.mp hn)
    obtain rfl := Option.some.inj hrun
    exact .inr (Nat.le_refl _)
  | succ n ih =>
    intro ops c hn hrun
    rcases List.eq_nil_or_concat' ops with rfl | ⟨ops, op, rfl⟩
    · obtain rfl := Option.some.inj hrun
      exact .inr (Nat.le_refl _)
    · rw [List.length_append, List.length_singleton] at hn
      obtain ⟨d, hd, hstep⟩ := exists_of_run_snoc hrun
      have hops := ih ops d (by omega) hd
      cases op with
      | push frame => exact .inl ⟨ops, frame, [], [], rfl, .nil⟩
      | set name value =>
        obtain rfl : d.set name value = c := Option.some.inj hstep
        refine hops.imp (fun h => h.write fun _ _ hinner => ⟨_, hinner.set name value⟩) fun h => ?_
        rwa [Context.set, Context.length_mapTop]
      | setAll names values =>
        obtain rfl : d.setAll names values = c := Option.some.inj hstep
        refine hops.imp (fun h => h.write fun _ _ hinner => ⟨_, hinner.setAll names values⟩) fun h => ?_
        rwa [Context.setAll, Context.length_mapTop]
      | pop =>
        rcases hops with ⟨before, frame, inner, ws, rfl, hinner⟩ | hlength
        · -- this pop closes its push, so the next one is up to the operations before that
          rw [List.length_append, List.length_cons] at hn
          have hbefore := run_of_closed hinner hrun
          exact (ih before c (by omega) hbefore).imp_left fun h => h.pop frame hinner
        · exact .inr (Nat.le_trans (length_le_of_step_pop hstep) hlength)

theorem Context.has_eq (c : Context η) (name : String) : c.has name = (c.get? name).isSome := by
  unfold Context.has Context.get?
  rw [List.isSome_findSome?]
  rfl

/-- A context is a stack of frames. Behind any operations a lookup finds the last binding of the name in
the topmost live frame that has one, and a pop returns the topmost live frame with all that was bound in
it. The frame of a push is live up to its own pop, which restores the context before the push; balanced
operations that bind nothing of their own change nothing; and a pop fails and changes nothing where only
the initial frame is live, as it is without a push. -/
theorem context_is_stack_of_scopes (start : Context η) (ops : List (FrameOp η)) :
    ∃ c, start.run ops = some c ∧
      (∀ name, c.get? name = (liveFrames start ops).findSome? (·.last? name)) ∧
      (∀ name, c.has name = (c.get? name).isSome) ∧
      (∀ f g fs, liveFrames start ops = f :: g :: fs →
        ∃ d, popFrame c = some (.ok f.contents, d) ∧ start.run (ops ++ [.pop]) = some d) ∧
      (∀ before frame inner ws, ops = before ++ .push frame :: inner → Balanced inner ws →
        liveFrames start ops = ⟨frame, ws⟩ :: liveFrames start before ∧
          ∃ d, start.run before = some d ∧ popFrame c = some (.ok (frame.insertAll ws), d)) ∧
      (∀ inner, Balanced inner [] → c.run inner = some c) ∧
      (∀ f, liveFrames start ops = [f] → ∃ e, popFrame c = some (.error e, c) ∧ e.kind = .contextPop) ∧
      (start.stack = [] → ¬ HasPush ops → ∃ f, liveFrames start ops = [f]) := by
  obtain ⟨c, f, fs, hrun, hlive, hc⟩ := shows_liveFrames start ops
  rw [hlive]
  refine ⟨c, hrun, hc.get?_eq, c.has_eq, ?pop, ?matched, fun inner hinner =>
    Context.run_unbound hinner c, ?refused, ?initial⟩
  case pop =>
    intro f' g fs' heq
    obtain ⟨rfl, rfl⟩ := List.cons.inj heq
    obtain ⟨d, hpop, -⟩ := hc.pop
    refine ⟨d, hpop, ?_⟩
    rw [Context.run_append, hrun, Option.bind_some, Context.run_cons, step_pop hpop]
    rfl
  case matched =>
    rintro before frame inner ws rfl hinner
    refine ⟨hlive.symm.trans (liveFrames_pushed start before frame hinner), ?_⟩
    obtain ⟨d, hd, -⟩ := exists_of_run_append hrun
    obtain rfl := Option.some.inj ((Context.run_pushed hinner hd frame).symm.trans hrun)
    exact ⟨d, hd, Context.popFrame_push d _⟩
  case refused =>
    intro f' heq
    obtain ⟨rfl, rfl⟩ := List.cons.inj heq
    exact ⟨_, hc.refuse, rfl⟩
  case initial =>
    intro hstack hnone
    have hle := (hasPush_or_length_le start ops.length ops c (Nat.le_refl _) hrun).resolve_left hnone
    have hlength : (c.stack ++ [c.globals]).length = (f :: fs).length := by
      rw [← List.length_map LiveFrame.contents]
      exact congrArg List.length hc
    have hempty : c.stack = [] := by simpa [hstack] using hle
    have hfs : fs = [] := by simpa [hempty] using hlength
    exact ⟨f, by rw [hfs]⟩

theorem none_hides_outer_value :
    let start : Context Empty := .withGlobals [("a", .bool true)]
    let inner : List (FrameOp Empty) := [.setAll ["c", "c"] [.bool false, .bool true], .push [], .pop]
    ∃ c d, start.run ([.set "b" .none] ++ .push [("a", .none)] :: inner) = some c ∧ c.get? "a" = some .none ∧
      c.get? "c" = some (.bool true) ∧ popFrame c = some (.ok [("a", .none), ("c", .bool true)], d) ∧
      d.get? "a" = some (.bool true) ∧ ∃ e, popFrame d = some (.error e, d) ∧ e.kind = .contextPop := by
  intro start inner
  have hinner : Balanced inner [("c", .bool false), ("c", .bool true)] :=
    (Balanced.nil.setAll ["c", "c"] [.bool false, .bool true]).nested [] .nil
  have hnone : ¬ HasPush [(.set "b" .none : FrameOp Empty)] := by
    rintro ⟨before, frame, inner, ws, h, -⟩
    rcases before with _ | ⟨op, before⟩ <;> simp at h
  obtain ⟨c, hrun, hget, -, -, hmatched, -⟩ :=
    context_is_stack_of_scopes start ([.set "b" .none] ++ .push [("a", .none)] :: inner)
  obtain ⟨d, hbefore, hget', -, -, -, -, hrefused, hinitial⟩ :=
    context_is_stack_of_scopes start [.set "b" .none]
  obtain ⟨-, d', hd', hpop⟩ := hmatched _ _ _ _ rfl hinner
  obtain rfl := Option.some.inj (hd'.symm.trans hbefore)
  obtain ⟨f, hf⟩ := hinitial rfl hnone
  exact ⟨c, d', hrun, hget "a", hget "c", hpop, hget' "a", hrefused f hf⟩

end TemplateTree
