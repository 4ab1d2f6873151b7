import Mathlib.Data.List.TakeWhile
import TemplateTree.Decimal.Reading

/-!
# Decimal literals

A decimal literal is digits, perhaps with a point before, behind or among them, and perhaps with a power
of ten behind them. It stands for a whole number times a power of ten. Just these texts are read as
numbers without a sign, and what is read is what they stand for.
-/

namespace TemplateTree

namespace Decimal

/-! ## Signs -/

inductive Sign where
  | none
  | plus
  | minus

namespace Sign

def text : Sign → List Char
  | none => []
  | plus => ['+']
  | minus => ['-']

def apply {α : Type} [Neg α] : Sign → α → α
  | minus, x => -x
  | _, x => x

end Sign

/-- A text as its sign and what is behind that. -/
def splitSign : List Char → Sign × List Char
  | '-' :: cs => (.minus, cs)
  | '+' :: cs => (.plus, cs)
  | cs => (.none, cs)

theorem splitSign_text (cs : List Char) : (splitSign cs).1.text ++ (splitSign cs).2 = cs := by
  unfold splitSign
  split <;> rfl

theorem splitSign_of_ne {cs : List Char} (hminus : ∀ rest, cs ≠ '-' :: rest)
    (hplus : ∀ rest, cs ≠ '+' :: rest) : splitSign cs = (.none, cs) := by
  unfold splitSign
  split
  · exact absurd rfl (hminus _)
  · exact absurd rfl (hplus _)
  · rfl

theorem splitSign_append (sign : Sign) {cs : List Char} (h : ∀ c ∈ cs.head?, c ≠ '-' ∧ c ≠ '+') :
    splitSign (sign.text ++ cs) = (sign, cs) := by
  cases sign with
  | none =>
    refine splitSign_of_ne (fun rest hcs => ?_) fun rest hcs => ?_
    · exact (h '-' (congrArg List.head? hcs)).1 rfl
    · exact (h '+' (congrArg List.head? hcs)).2 rfl
  | plus => rfl
  | minus => rfl

theorem readInt?_eq (cs : List Char) :
    readInt? cs = (readNat? (splitSign cs).2).map fun n => (splitSign cs).1.apply (Int.ofNat n) := by
  unfold readInt?
  split
  · next cs =>
    show _ = (readNat? cs).map fun n => -Int.ofNat n
    cases readNat? cs <;> rfl
  · next cs =>
    show _ = (readNat? cs).map Int.ofNat
    cases readNat? cs <;> rfl
  · next hminus hplus =>
    rw [splitSign_of_ne hminus hplus]
    cases readNat? cs <;> rfl

theorem readFloat?_eq (cs : List Char) :
    readFloat? cs = (readMagnitude? ⟨Scientific.toFloat, 1 / 0, 0 / 0, fun x => -x⟩ (splitSign cs).2).map
      (splitSign cs).1.apply := by
  unfold readFloat? readAs?
  split
  · rfl
  · exact (congrFun Option.map_id _).symm
  · next hminus hplus =>
    rw [splitSign_of_ne hminus hplus]
    exact (congrFun Option.map_id _).symm

/-! ## Digits -/

theorem ne_sign_of_isDigit {c : Char} (h : c.isDigit = true) : c ≠ '-' ∧ c ≠ '+' := by
  constructor <;> (rintro rfl; exact absurd h (by decide))

theorem readNat?_iff {cs : List Char} {n : Nat} :
    readNat? cs = some n ↔ cs ≠ [] ∧ (∀ c ∈ cs, c.isDigit = true) ∧ natValue cs = n := by
  unfold readNat?
  constructor
  · intro h
    split at h
    · next hdigits => exact ⟨hdigits.1, List.all_eq_true.mp hdigits.2, Option.some.inj h⟩
    · cases h
  · rintro ⟨hne, hdigits, rfl⟩
    exact if_pos ⟨hne, List.all_eq_true.mpr hdigits⟩

section
variable {digits rest : List Char} (hdigits : ∀ c ∈ digits, c.isDigit = true)
  (hrest : ∀ c ∈ rest.head?, c.isDigit = false)
include hdigits hrest

theorem takeWhile_digits : (digits ++ rest).takeWhile Char.isDigit = digits := by
  have : rest.takeWhile Char.isDigit = [] := by
    cases rest with
    | nil => rfl
    | cons c cs => exact List.takeWhile_cons_of_neg (by simp [hrest c rfl])
  rw [List.takeWhile_append_of_pos hdigits, this, List.append_nil]

theorem dropWhile_digits : (digits ++ rest).dropWhile Char.isDigit = rest := by
  rw [List.dropWhile_append_of_pos hdigits]
  cases rest with
  | nil => rfl
  | cons c cs => exact List.dropWhile_cons_of_neg (by simp [hrest c rfl])

end

theorem isDigit_of_mem_takeWhile (cs : List Char) : ∀ c ∈ cs.takeWhile Char.isDigit, c.isDigit = true :=
  fun _ => List.mem_takeWhile_imp

/-! ## Powers of ten -/

structure Power where
  mark : Char
  sign : Sign
  digits : List Char
  isMark : mark = 'e' ∨ mark = 'E'
  nonempty : digits ≠ []
  isDigit : ∀ c ∈ digits, c.isDigit = true

namespace Power

def text : Option Power → List Char
  | none => []
  | some p => p.mark :: (p.sign.text ++ p.digits)

def value : Option Power → Int
  | none => 0
  | some p => p.sign.apply (Int.ofNat (natValue p.digits))

theorem head_text {power : Option Power} {c : Char} (h : c ∈ (text power).head?) : c = 'e' ∨ c = 'E' := by
  cases power with
  | none => cases h
  | some p =>
    rw [← Option.some.inj h]
    exact p.isMark

theorem readPower?_text (power : Option Power) : readPower? (text power) = some (value power) := by
  cases power with
  | none => rfl
  | some p =>
    have hsign : splitSign (p.sign.text ++ p.digits) = (p.sign, p.digits) :=
      splitSign_append p.sign fun c hc => ne_sign_of_isDigit (p.isDigit c (List.mem_of_mem_head? hc))
    rw [text, readPower?, if_pos p.isMark, readInt?_eq, hsign, readNat?_iff.mpr ⟨p.nonempty, p.isDigit, rfl⟩]
    rfl

theorem exists_of_readPower? {cs : List Char} {n : Int} (h : readPower? cs = some n) :
    ∃ power, text power = cs ∧ value power = n := by
  cases cs with
  | nil => exact ⟨none, rfl, Option.some.inj h⟩
  | cons c cs =>
    rw [readPower?] at h
    split at h
    · next hmark =>
      rw [readInt?_eq] at h
      obtain ⟨m, hm, hn⟩ := Option.map_eq_some_iff.mp h
      obtain ⟨hne, hdigits, rfl⟩ := readNat?_iff.mp hm
      exact ⟨some ⟨c, (splitSign cs).1, (splitSign cs).2, hmark, hne, hdigits⟩,
        congrArg (c :: ·) (splitSign_text cs), hn⟩
    · cases h

end Power

/-! ## Literals -/

structure Numeral where
  whole : List Char
  /-- The digits behind the point, if there is a point. -/
  fraction : Option (List Char)
  power : Option Power
  nonempty : whole ++ fraction.getD [] ≠ []
  isDigit : ∀ c ∈ whole ++ fraction.getD [], c.isDigit = true

namespace Numeral

def pointed : Option (List Char) → List Char
  | none => []
  | some fraction => '.' :: fraction

def text (n : Numeral) : List Char :=
  n.whole ++ (pointed n.fraction ++ Power.text n.power)

/-- The number that a literal stands for: its digits as a whole number, as many places down as are
behind the point. -/
def exact (n : Numeral) : Scientific :=
  ⟨natValue (n.whole ++ n.fraction.getD []), Power.value n.power - (n.fraction.getD []).length⟩

variable (n : Numeral)

theorem isDigit_head_power {power : Option Power} {c : Char} (h : c ∈ (Power.text power).head?) :
    c.isDigit = false := by
  rcases Power.head_text h with rfl | rfl <;> rfl

/-- The first character is a digit or the point. -/
theorem exists_text_cons : ∃ c cs, n.text = c :: cs ∧ (c.isDigit = true ∨ c = '.') := by
  obtain ⟨whole, fraction, power, hne, hdigits⟩ := n
  cases whole with
  | cons c whole => exact ⟨c, _, rfl, .inl (hdigits c (List.mem_cons_self ..))⟩
  | nil =>
    cases fraction with
    | none => exact absurd rfl hne
    | some fraction => exact ⟨'.', _, rfl, .inr rfl⟩

theorem readUnsigned?_text : readUnsigned? n.text = some n.exact := by
  obtain ⟨whole, fraction, power, hne, hdigits⟩ := n
  have hwhole : ∀ c ∈ whole, c.isDigit = true := fun c hc => hdigits c (List.mem_append_left _ hc)
  have hpower : ∀ c ∈ (Power.text power).head?, c.isDigit = false := fun _ => isDigit_head_power
  unfold readUnsigned? text
  cases fraction with
  | some fraction =>
    have hfraction : ∀ c ∈ fraction, c.isDigit = true := fun c hc => hdigits c (List.mem_append_right _ hc)
    have hpoint : ∀ c ∈ (pointed (some fraction) ++ Power.text power).head?, c.isDigit = false := by
      rintro c hc
      rw [← Option.some.inj hc]
      rfl
    dsimp only
    rw [takeWhile_digits hwhole hpoint, dropWhile_digits hwhole hpoint]
    split
    · next rest hrest =>
      obtain rfl : fraction ++ Power.text power = rest := (List.cons.inj hrest).2
      dsimp only
      rw [takeWhile_digits hfraction hpower, dropWhile_digits hfraction hpower, Power.readPower?_text]
      exact if_neg hne
    · next hpoint => exact absurd rfl (hpoint (fraction ++ Power.text power))
  | none =>
    have hpoint : ∀ rest, Power.text power ≠ '.' :: rest := by
      intro rest hrest
      have hhead : '.' ∈ (Power.text power).head? := hrest ▸ rfl
      rcases Power.head_text hhead with h | h <;> cases h
    dsimp only
    rw [pointed, List.nil_append, takeWhile_digits hwhole hpower, dropWhile_digits hwhole hpower]
    split
    · next hrest => exact absurd hrest (hpoint _)
    · rw [Power.readPower?_text]
      exact if_neg hne

theorem exists_of_readUnsigned? {cs : List Char} {x : Scientific} (h : readUnsigned? cs = some x) :
    ∃ n : Numeral, n.text = cs ∧ n.exact = x := by
  have hcs : cs.takeWhile Char.isDigit ++ cs.dropWhile Char.isDigit = cs := List.takeWhile_append_dropWhile
  have hwhole := isDigit_of_mem_takeWhile cs
  unfold readUnsigned? at h
  dsimp only at h
  generalize cs.takeWhile Char.isDigit = whole at h hcs hwhole
  generalize cs.dropWhile Char.isDigit = rest at h hcs
  subst hcs
  split at h
  · next rest =>
    have hfraction := isDigit_of_mem_takeWhile rest
    have hrest : rest.takeWhile Char.isDigit ++ rest.dropWhile Char.isDigit = rest :=
      List.takeWhile_append_dropWhile
    generalize rest.takeWhile Char.isDigit = fraction at h hrest hfraction
    generalize rest.dropWhile Char.isDigit = behind at h hrest
    subst hrest
    dsimp only at h
    split at h
    · cases h
    · next hne =>
      obtain ⟨p, hp, rfl⟩ := Option.map_eq_some_iff.mp h
      obtain ⟨power, rfl, rfl⟩ := Power.exists_of_readPower? hp
      exact ⟨⟨whole, some fraction, power, hne, List.forall_mem_append.mpr ⟨hwhole, hfraction⟩⟩, rfl, rfl⟩
  · dsimp only at h
    split at h
    · cases h
    · next hne =>
      obtain ⟨p, hp, rfl⟩ := Option.map_eq_some_iff.mp h
      obtain ⟨power, rfl, rfl⟩ := Power.exists_of_readPower? hp
      refine ⟨⟨whole, none, power, hne, ?_⟩, rfl, rfl⟩
      exact List.forall_mem_append.mpr ⟨hwhole, List.forall_mem_nil _⟩

end Numeral

/-- Decimal literals are what is read as an unsigned number, and it is read as the number that it stands
for. -/
theorem readUnsigned?_iff {cs : List Char} {x : Scientific} :
    readUnsigned? cs = some x ↔ ∃ n : Numeral, n.text = cs ∧ n.exact = x := by
  constructor
  · exact Numeral.exists_of_readUnsigned?
  · rintro ⟨n, rfl, rfl⟩
    exact n.readUnsigned?_text

end Decimal

end TemplateTree
