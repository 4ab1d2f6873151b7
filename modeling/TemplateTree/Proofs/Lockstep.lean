import TemplateTree.Proofs.Occurrence
import TemplateTree.Render.Node

/-!
# Steps in lockstep

Two steps go in lockstep under a relation on contexts if from related contexts both end in the same way and in
related contexts again, or neither ends. A step in lockstep with itself, under a relation that holds of
equal contexts alone, keeps an invariant. No step in lockstep reports a frame that is not there: this
is part of the relation because whoever takes off a frame has put it there.
-/

namespace TemplateTree

variable {η α β γ : Type}

/-- Outcomes with one result that meets `P`, or with one error, in related contexts. Both may be missing
if `T`. -/
inductive Alike (T : Prop) (R : Context η → Context η → Prop) (P : α → Prop) :
    Option (Except Error α × Context η) → Option (Except Error α × Context η) → Prop
  | exhausted (hT : T) : Alike T R P none none
  | result {a : α} {c d : Context η} (ha : P a) (hcd : R c d) :
      Alike T R P (some (.ok a, c)) (some (.ok a, d))
  | error {e : Error} {c d : Context η} (he : e.kind ≠ .contextPop) (hcd : R c d) :
    Alike T R P (some (.error e, c)) (some (.error e, d))

def Lockstep (T : Prop) (R : Context η → Context η → Prop) (P : α → Prop) (x y : RenderM η α) : Prop :=
  ∀ c d, R c d → Alike T R P (x c) (y d)

/-- The relation that an invariant is: contexts that meet it are related to themselves. -/
def Invariantly (I : Context η → Prop) (c d : Context η) : Prop :=
  c = d ∧ I c

def Keeps (I : Context η → Prop) (P : α → Prop) (x : RenderM η α) : Prop :=
  Lockstep True (Invariantly I) P x x

def Settled (P : α → Prop) : Except Error α → Prop
  | .ok a => P a
  | .error e => e.kind ≠ .contextPop

theorem Alike.outcome {T : Prop} {I : Context η → Prop} {P : α → Prop}
    {o p : Option (Except Error α × Context η)} (h : Alike T (Invariantly I) P o p) {r : Except Error α}
    {c : Context η} (ho : o = some (r, c)) : Settled P r ∧ I c := by
  rw [ho] at h
  cases h with
  | result ha hcd => exact ⟨ha, hcd.2⟩
  | error he hcd => exact ⟨he, hcd.2⟩

theorem Keeps.outcome {I : Context η → Prop} {P : α → Prop} {x : RenderM η α} (h : Keeps I P x)
    {c c' : Context η} {r : Except Error α} (hc : I c) (hx : x c = some (r, c')) : Settled P r ∧ I c' :=
  (h c c ⟨rfl, hc⟩).outcome hx

theorem keeps_of_outcome {I : Context η → Prop} {P : α → Prop} {x : RenderM η α}
    (h : ∀ c r c', I c → x c = some (r, c') → Settled P r ∧ I c') : Keeps I P x := by
  intro c _ hcd
  obtain ⟨rfl, hc⟩ := hcd
  cases hx : x c with
  | none => exact .exhausted trivial
  | some o =>
    obtain ⟨r, c'⟩ := o
    obtain ⟨hr, hc'⟩ := h c r c' hc hx
    cases r with
    | ok a => exact .result hr ⟨rfl, hc'⟩
    | error e => exact .error hr ⟨rfl, hc'⟩

theorem Keeps.result {I : Context η → Prop} {P Q : α → Prop} {x : RenderM η α} (h : Keeps I P x)
    (hQ : Keeps (fun _ => True) Q x) : Keeps I Q x :=
  keeps_of_outcome fun _ _ _ hc hx => ⟨(hQ.outcome trivial hx).1, (h.outcome hc hx).2⟩

theorem eq_of_alike {P : α → Prop} {o p : Option (Except Error α × Context η)}
    (h : Alike True Eq P o p) : o = p := by
  cases h with
  | exhausted _ => rfl
  | result _ hcd => rw [hcd]
  | error _ hcd => rw [hcd]

theorem map_of_alike {T : Prop} {P : α → Prop} {f : Context η → Context η}
    {o p : Option (Except Error α × Context η)} (h : Alike T (fun c d => d = f c) P o p) :
    p = o.map fun r => (r.1, f r.2) := by
  cases h with
  | exhausted _ => rfl
  | result _ hcd => rw [hcd]; rfl
  | error _ hcd => rw [hcd]; rfl

section
variable {T : Prop} {R S : Context η → Context η → Prop} {P Q : α → Prop}

theorem Alike.mono {o p : Option (Except Error α × Context η)} (h : Alike T R P o p)
    (hR : ∀ c d, R c d → S c d) (hP : ∀ a, P a → Q a) : Alike T S Q o p := by
  cases h with
  | exhausted hT => exact .exhausted hT
  | result ha hcd => exact .result (hP _ ha) (hR _ _ hcd)
  | error he hcd => exact .error he (hR _ _ hcd)

theorem Alike.eq {I : Context η → Prop} {o p : Option (Except Error α × Context η)}
    (h : Alike True (Invariantly I) P o p) : o = p :=
  eq_of_alike (h.mono (fun _ _ hcd => hcd.1) fun _ => id)

theorem Alike.and {I : Context η → Prop} {o p : Option (Except Error α × Context η)} (h : Alike T R P o p)
    (hI : ∀ r c, o = some (r, c) → I c) : Alike T (fun c d => R c d ∧ I c) P o p := by
  cases h with
  | exhausted hT => exact .exhausted hT
  | result ha hcd => exact .result ha ⟨hcd, hI _ _ rfl⟩
  | error he hcd => exact .error he ⟨hcd, hI _ _ rfl⟩

theorem Lockstep.weaken {x y : RenderM η α} (h : Lockstep T R P x y)
    (hP : ∀ a, P a → Q a) : Lockstep T R Q x y :=
  fun c d hcd => (h c d hcd).mono (fun _ _ => id) hP

/-! ## Sequences -/

theorem RenderM.bind_apply (x : RenderM η α) (f : α → RenderM η β) (c : Context η) :
    (x >>= f) c = match x c with
      | none => none
      | some (.ok a, c) => f a c
      | some (.error e, c) => some (.error e, c) := by
  show (x c).bind _ = _
  cases x c with
  | none => rfl
  | some o => obtain ⟨_ | _, _⟩ := o <;> rfl

theorem RenderM.bind_congr_apply {x : RenderM η α} {f g : α → RenderM η β} {c : Context η}
    (h : ∀ a c', x c = some (.ok a, c') → f a c' = g a c') : (x >>= f) c = (x >>= g) c := by
  rw [bind_apply, bind_apply]
  cases hx : x c with
  | none => rfl
  | some o =>
    obtain ⟨r, c'⟩ := o
    cases r with
    | ok a => exact h a c' hx
    | error e => rfl

theorem RenderM.map_apply_congr {x y : RenderM η α} {c : Context η} (f : α → β) (h : x c = y c) :
    (do return f (← x) : RenderM η β) c = (do return f (← y) : RenderM η β) c := by
  rw [bind_apply, h, ← bind_apply]

theorem RenderM.get_bind_apply (f : Context η → RenderM η α) (c : Context η) : (get >>= f) c = f c c :=
  rfl

theorem Lockstep.pure {a : α} (ha : P a) : Lockstep T R P (pure a) (pure a) :=
  fun _ _ hcd => .result ha hcd

theorem Alike.bind {P : α → Prop} {Q : β → Prop} {x y : RenderM η α} {f g : α → RenderM η β} {c d : Context η}
    (hx : Alike T R P (x c) (y d)) (hf : ∀ a, P a → Lockstep T R Q (f a) (g a)) :
    Alike T R Q ((x >>= f) c) ((y >>= g) d) := by
  rw [RenderM.bind_apply, RenderM.bind_apply]
  generalize x c = o at hx ⊢
  generalize y d = p at hx ⊢
  cases hx with
  | exhausted hT => exact .exhausted hT
  | result ha hcd => exact hf _ ha _ _ hcd
  | error he hcd => exact .error he hcd

/-- The contexts between two steps may be related more closely than those at the end. -/
theorem Alike.bind_of {P : α → Prop} {Q : β → Prop} {x y : RenderM η α}
    {f g : α → RenderM η β} {c d : Context η} (hx : Alike T S P (x c) (y d)) (herror : ∀ c d, S c d → R c d)
    (hf : ∀ a c d, P a → S c d → Alike T R Q (f a c) (g a d)) : Alike T R Q ((x >>= f) c) ((y >>= g) d) := by
  rw [RenderM.bind_apply, RenderM.bind_apply]
  generalize x c = o at hx ⊢
  generalize y d = p at hx ⊢
  cases hx with
  | exhausted hT => exact .exhausted hT
  | result ha hcd => exact hf _ _ _ ha hcd
  | error he hcd => exact .error he (herror _ _ hcd)

theorem Lockstep.bind {P : α → Prop} {Q : β → Prop} {x y : RenderM η α} {f g : α → RenderM η β}
    (hx : Lockstep T R P x y) (hf : ∀ a, P a → Lockstep T R Q (f a) (g a)) :
    Lockstep T R Q (x >>= f) (y >>= g) :=
  fun c d hcd => (hx c d hcd).bind hf

theorem Lockstep.map {P : α → Prop} {Q : β → Prop} {x y : RenderM η α} (f : α → β) (hx : Lockstep T R P x y)
    (hf : ∀ a, P a → Q (f a)) : Lockstep T R Q (do return f (← x)) (do return f (← y)) :=
  hx.bind fun a ha => .pure (hf a ha)

/-- What is read from the context may differ as long as what follows goes in lockstep. -/
theorem Lockstep.get_bind {Q : β → Prop} {f g : Context η → RenderM η β}
    (h : ∀ c d, R c d → Alike T R Q (f c c) (g d d)) : Lockstep T R Q (get >>= f) (get >>= g) :=
  fun c d hcd => h c d hcd

theorem Lockstep.ofResult {r : Except Error α} (hr : Settled P r) :
    Lockstep T R P (RenderM.ofResult r) (RenderM.ofResult r) := by
  intro c d hcd
  cases r with
  | ok a => exact .result hr hcd
  | error e => exact .error hr hcd

theorem Lockstep.fail {cause : Cause} (h : cause.kind ≠ .contextPop) :
    Lockstep T R P (RenderM.fail cause) (RenderM.fail cause) :=
  .ofResult h

theorem Lockstep.ofFault {r : Except RenderFault α} (hr : ∀ a, r = .ok a → P a) :
    Lockstep T R P (RenderM.ofFault r) (RenderM.ofFault r) := by
  cases r with
  | ok a => exact .pure (hr a rfl)
  | error fault => exact .fail nofun

theorem Lockstep.attempt {x y : RenderM η α} (h : Lockstep T R P x y) :
    Lockstep T R (Settled P) (RenderM.attempt x) (RenderM.attempt y) := by
  intro c d hcd
  have h := h c d hcd
  show Alike T R (Settled P) ((x c).map _) ((y d).map _)
  generalize x c = o at h ⊢
  generalize y d = p at h ⊢
  cases h with
  | exhausted hT => exact .exhausted hT
  | result ha hcd => exact .result ha hcd
  | error he hcd => exact .result he hcd

theorem Lockstep.update {f g : Context η → Context η} (h : ∀ c d, R c d → R (f c) (g d)) :
    Lockstep T R (fun _ => True) (RenderM.update f) (RenderM.update g) :=
  fun c d hcd => .result trivial (h c d hcd)

theorem RenderM.bracket_apply {before : RenderM η β} {c c₁ : Context η} {b : β}
    (h : before c = some (.ok b, c₁)) (after : β → RenderM η Unit) (x : RenderM η α) :
    RenderM.bracket before after x c = match x c₁ with
      | none => none
      | some (r, c₂) => (do after b; RenderM.ofResult r) c₂ := by
  simp only [RenderM.bracket, RenderM.bind_apply, h, RenderM.attempt]
  cases x c₁ with
  | none => rfl
  | some o => rfl

/-- Steps in brackets end alike if the inner ones do and the closing ones lead back from wherever those
end. -/
theorem Alike.bracket {before before' : RenderM η β} {after after' : β → RenderM η Unit} {x y : RenderM η α}
    {c d c₁ d₁ : Context η} {b b' : β} (hb : before c = some (.ok b, c₁))
    (hb' : before' d = some (.ok b', d₁)) (hx : Alike T S P (x c₁) (y d₁))
    (hafter : ∀ c₂ d₂, S c₂ d₂ →
      ∃ c₃ d₃, after b c₂ = some (.ok (), c₃) ∧ after' b' d₂ = some (.ok (), d₃) ∧ R c₃ d₃) :
    Alike T R P (RenderM.bracket before after x c) (RenderM.bracket before' after' y d) := by
  rw [RenderM.bracket_apply hb, RenderM.bracket_apply hb']
  generalize x c₁ = o at hx ⊢
  generalize y d₁ = p at hx ⊢
  cases hx with
  | exhausted hT => exact .exhausted hT
  | result ha hS =>
    obtain ⟨c₃, d₃, hc, hd, hR⟩ := hafter _ _ hS
    simp only [RenderM.bind_apply, hc, hd]
    exact .result ha hR
  | error he hS =>
    obtain ⟨c₃, d₃, hc, hd, hR⟩ := hafter _ _ hS
    simp only [RenderM.bind_apply, hc, hd]
    exact .error he hR

/-- A step in brackets ends like one without them if what the brackets change does not matter. -/
theorem Alike.bracket_left {before : RenderM η β} {after : β → RenderM η Unit} {x y : RenderM η α}
    {c d c₁ : Context η} {b : β} (hb : before c = some (.ok b, c₁)) (hx : Alike T S P (x c₁) (y d))
    (hafter : ∀ c₂ d₂, S c₂ d₂ → ∃ c₃, after b c₂ = some (.ok (), c₃) ∧ R c₃ d₂) :
    Alike T R P (RenderM.bracket before after x c) (y d) := by
  rw [RenderM.bracket_apply hb]
  generalize x c₁ = o at hx ⊢
  generalize y d = p at hx ⊢
  cases hx with
  | exhausted hT => exact .exhausted hT
  | result ha hS =>
    obtain ⟨c₃, hc, hR⟩ := hafter _ _ hS
    simp only [RenderM.bind_apply, hc]
    exact .result ha hR
  | error he hS =>
    obtain ⟨c₃, hc, hR⟩ := hafter _ _ hS
    simp only [RenderM.bind_apply, hc]
    exact .error he hR

end

end TemplateTree
