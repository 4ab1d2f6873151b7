import TemplateTree.Proofs.DecimalLiterals
import TemplateTree.Value.Compare

/-!
# Texts as numbers

The texts that stand for numbers are the empty one, the name of infinity, hexadecimal digits behind
their mark and decimal literals; the name and the literals may have a sign. Each of them is read as the
number that it stands for, but for hexadecimal digits from 2 ^ 64 on. No other text is read as a number,
but for hexadecimal digits with a plus sign between the mark and them.
-/

namespace TemplateTree

/-! ## Floats that are numbers -/

section
open Float.Model UnpackedFloat

variable {spec : Format} {u v : UnpackedFloat}

theorem isNaN_ite {p : Prop} [Decidable p] (hu : u.isNaN = false) (hv : v.isNaN = false) :
    (if p then u else v).isNaN = false := by
  by_cases h : p
  · rw [if_pos h]
    exact hu
  · rw [if_neg h]
    exact hv

theorem isNaN_dite {p : Prop} [Decidable p] {a : p → UnpackedFloat} {b : ¬ p → UnpackedFloat}
    (ha : ∀ h, (a h).isNaN = false) (hb : ∀ h, (b h).isNaN = false) : (dite p a b).isNaN = false := by
  by_cases h : p
  · rw [dif_pos h]
    exact ha h
  · rw [dif_neg h]
    exact hb h

theorem isNaN_unpack {b : BitVec spec.numBits} (h : unpackExponent b ≠ -1#_ ∨ unpackMantissa b = 0#_) :
    (UnpackedFloat.unpack spec b).isNaN = false := by
  unfold UnpackedFloat.unpack
  dsimp only
  by_cases hexponent : unpackExponent b = -1#_
  · rw [if_pos hexponent, if_pos (h.resolve_left (not_not_intro hexponent))]
    rfl
  · rw [if_neg hexponent]
    exact isNaN_ite (isNaN_dite (fun _ => rfl) fun _ => rfl) rfl

/-- Packing makes no number into something else. -/
theorem isNaN_unpack_pack (h : u.isNaN = false) :
    (UnpackedFloat.unpack spec (UnpackedFloat.pack spec u)).isNaN = false := by
  refine isNaN_unpack ?_
  fun_cases UnpackedFloat.pack spec u with
  | case1 => cases h
  | case2 | case3 | case4 => exact .inr unpackMantissa_packComponents
  | case5 s m e hm actualMantissaBits biasedExponent hexponent hmantissa =>
    left
    rw [unpackExponent_packComponents]
    have hlt : biasedExponent < 2 ^ spec.exponentBits - 1 := by omega
    have hmod : biasedExponent % 2 ^ spec.exponentBits ≠ 2 ^ spec.exponentBits - 1 := by
      rw [Nat.mod_eq_of_lt (by omega)]
      omega
    simp [BitVec.neg_one_eq_allOnes, ← BitVec.toNat_inj, hmod]
  | case6 =>
    left
    rw [unpackExponent_packComponents]
    simp [Nat.pos_iff_ne_zero.1 spec.he]

theorem isNaN_roundWithAccuracy (sign : UnpackedFloat.Sign) (m : Nat) (e : Int) (accuracy : Accuracy) :
    (roundWithAccuracy spec sign m e accuracy).isNaN = false :=
  isNaN_dite (fun _ => rfl) fun _ => rfl

theorem isNaN_ofNat (n : Nat) : (UnpackedFloat.ofNat spec n).isNaN = false := by
  unfold UnpackedFloat.ofNat UnpackedFloat.ofInt UnpackedFloat.normalize
  split
  · exact isNaN_roundWithAccuracy _ _ _ _
  · rfl
  · exact isNaN_roundWithAccuracy _ _ _ _

/-- A product or quotient with a finite number other than zero is a number if the other operand is one. -/
theorem isNaN_mul (hu : u.isNaN = false) (hfinite : v.isFinite = true)
    (hzero : v.beq (.zero .positive) = false) : (mul spec u v).isNaN = false := by
  cases v with
  | infinity | notANumber => cases hfinite
  | zero => cases hzero
  | finite =>
    cases u with
    | notANumber => cases hu
    | infinity | zero => rfl
    | finite => exact isNaN_roundWithAccuracy _ _ _ _

theorem isNaN_div (hu : u.isNaN = false) (hfinite : v.isFinite = true)
    (hzero : v.beq (.zero .positive) = false) : (div spec u v).isNaN = false := by
  cases v with
  | infinity | notANumber => cases hfinite
  | zero => cases hzero
  | finite =>
    cases u with
    | notANumber => cases hu
    | infinity | zero => rfl
    | finite => exact isNaN_roundWithAccuracy _ _ _ _

theorem isNaN_ofScientific (m : Nat) (e : Int) : (UnpackedFloat.ofScientific spec m e).isNaN = false := by
  unfold UnpackedFloat.ofScientific
  refine isNaN_dite (fun _ => rfl) fun _ => ?_
  exact isNaN_ite rfl (isNaN_ite rfl (isNaN_ite (isNaN_mul rfl rfl rfl) (isNaN_div rfl rfl rfl)))

theorem powerOfTen_finite : ∀ e : Fin Float.exactlyRepresentablePowersOfTen.size,
    (Float.exactlyRepresentablePowersOfTen[e]).toModel.unpack.isFinite = true ∧
      (Float.exactlyRepresentablePowersOfTen[e]).toModel.unpack.beq (.zero .positive) = false := by
  decide +kernel

theorem isNaN_nan : nan.isNaN = true := by
  decide +kernel

/-- The float nearest to a whole number. -/
def nearestFloat (n : Nat) : Float :=
  .ofModel (.ofNat n)

theorem isNaN_nearestFloat (n : Nat) : (nearestFloat n).isNaN = false :=
  isNaN_unpack_pack (isNaN_ofNat n)

theorem Scientific.isNaN_toFloat (x : Scientific) : x.toFloat.isNaN = false := by
  unfold Scientific.toFloat Float.ofScientific
  split
  · next hsmall =>
    obtain ⟨hfinite, hzero⟩ := powerOfTen_finite ⟨x.exponent.natAbs, Nat.lt_succ_of_le hsmall.2⟩
    have hnumber : x.significand.toUInt64.toFloat.toModel.unpack.isNaN = false := isNaN_nearestFloat _
    dsimp only
    split
    · exact isNaN_unpack_pack (isNaN_div hnumber hfinite hzero)
    · exact isNaN_unpack_pack (isNaN_mul hnumber hfinite hzero)
  · exact isNaN_unpack_pack (isNaN_ofScientific _ _)

theorem isNaN_neg {x : Float} (h : x.isNaN = false) : (-x).isNaN = false := by
  refine isNaN_unpack_pack ?_
  have hunpacked : x.toModel.unpack.isNaN = false := h
  generalize x.toModel.unpack = u at hunpacked
  cases u with
  | notANumber => cases hunpacked
  | infinity | zero | finite => rfl

theorem Decimal.Sign.isNaN_apply (sign : Decimal.Sign) {x : Float} (h : x.isNaN = false) :
    (sign.apply x).isNaN = false := by
  cases sign with
  | none | plus => exact h
  | minus => exact isNaN_neg h

end

/-! ## Hexadecimal digits -/

namespace Decimal

def hexDigit? (c : Char) : Option Nat :=
  if c.isDigit then some (c.toNat - '0'.toNat)
  else if 'a' ≤ c ∧ c ≤ 'f' then some (c.toNat - 'a'.toNat + 10)
  else if 'A' ≤ c ∧ c ≤ 'F' then some (c.toNat - 'A'.toNat + 10)
  else none

structure HexNumeral where
  digits : List Char
  nonempty : digits ≠ []
  isDigit : ∀ c ∈ digits, (hexDigit? c).isSome = true

def HexNumeral.value (h : HexNumeral) : Nat :=
  digitsValue 16 (h.digits.map fun c => (hexDigit? c).getD 0)

theorem mapM_hexDigit?_of_all : ∀ {cs : List Char}, (∀ c ∈ cs, (hexDigit? c).isSome = true) →
    cs.mapM hexDigit? = some (cs.map fun c => (hexDigit? c).getD 0)
  | [], _ => rfl
  | c :: cs, h => by
    obtain ⟨hc, hcs⟩ := List.forall_mem_cons.mp h
    obtain ⟨d, hd⟩ := Option.isSome_iff_exists.mp hc
    rw [List.mapM_cons, mapM_hexDigit?_of_all hcs, List.map_cons, hd]
    rfl

theorem all_of_mapM_hexDigit? : ∀ {cs : List Char} {ds : List Nat}, cs.mapM hexDigit? = some ds →
    ∀ c ∈ cs, (hexDigit? c).isSome = true
  | [], _, _ => List.forall_mem_nil _
  | c :: cs, ds, h => by
    rw [List.mapM_cons] at h
    obtain ⟨d, hd, h⟩ := Option.bind_eq_some_iff.mp h
    obtain ⟨ds', hds, -⟩ := Option.bind_eq_some_iff.mp h
    exact List.forall_mem_cons.mpr ⟨hd ▸ rfl, all_of_mapM_hexDigit? hds⟩

theorem readHex?_digits (h : HexNumeral) : readHex? h.digits = some h.value := by
  show (if h.digits = [] then none else (h.digits.mapM hexDigit?).map (digitsValue 16)) = _
  rw [if_neg h.nonempty, mapM_hexDigit?_of_all h.isDigit]
  rfl

theorem exists_of_readHex? {cs : List Char} {n : Nat} (h : readHex? cs = some n) :
    ∃ hex : HexNumeral, hex.digits = cs ∧ hex.value = n := by
  have h : (if cs = [] then none else (cs.mapM hexDigit?).map (digitsValue 16)) = some n := h
  split at h
  · cases h
  · next hne =>
    obtain ⟨ds, hds, rfl⟩ := Option.map_eq_some_iff.mp h
    have hall := all_of_mapM_hexDigit? hds
    refine ⟨⟨cs, hne, hall⟩, rfl, ?_⟩
    rw [← Option.some.inj ((mapM_hexDigit?_of_all hall).symm.trans hds)]
    rfl

theorem HexNumeral.head?_ne_plus (h : HexNumeral) : h.digits.head? ≠ some '+' := by
  intro hplus
  exact absurd (h.isDigit '+' (List.mem_of_mem_head? hplus)) (by decide)

end Decimal

/-! ## The texts -/

open Decimal

def IsHexMark (mark : Char) : Prop :=
  mark = 'x' ∨ mark = 'X'

/-- A text that stands for a number. -/
inductive NumberText where
  | empty
  | infinity (sign : Sign)
  | hex (mark : Char) (isMark : IsHexMark mark) (digits : HexNumeral)
  | decimal (sign : Sign) (literal : Numeral)

namespace NumberText

def text : NumberText → List Char
  | empty => []
  | infinity sign => sign.text ++ "Infinity".toList
  | hex mark _ h => '0' :: mark :: h.digits
  | decimal sign n => sign.text ++ n.text

def value : NumberText → Float
  | empty => 0
  | infinity sign => sign.apply (1 / 0)
  | hex _ _ h => nearestFloat h.value
  | decimal sign n => sign.apply n.exact.toFloat

/-- Hexadecimal digits have to fit a word of 64 bits. -/
def Fits : NumberText → Prop
  | hex _ _ h => h.value < UInt64.size
  | _ => True

theorem isNaN_value : ∀ n : NumberText, n.value.isNaN = false
  | empty => by decide +kernel
  | infinity sign => sign.isNaN_apply (by decide +kernel)
  | hex _ _ h => isNaN_nearestFloat h.value
  | decimal sign n => sign.isNaN_apply n.exact.isNaN_toFloat

end NumberText

/-! ## Reading -/

/-- The text behind the mark of hexadecimal digits. -/
def afterHexMark? : List Char → Option (List Char)
  | '0' :: 'x' :: hex | '0' :: 'X' :: hex => some hex
  | _ => none

/-- The number that hexadecimal digits are read as. -/
def hexNumber (hex : List Char) : Float :=
  match readHex? (if hex.head? = some '+' then hex.drop 1 else hex) with
  | some n => if n < UInt64.size then n.toUInt64.toFloat else nan
  | none => nan

/-- Whether a text starts as decimal literals do. -/
def startsDecimal (cs : List Char) : Bool :=
  cs.head?.any fun c => c.isDigit || c = '.'

/-- The number that a trimmed text is read as, with the sign taken off first. -/
def numberOf (text : List Char) : Float :=
  if text = [] then 0
  else if (splitSign text).2 = "Infinity".toList then (splitSign text).1.apply (1 / 0)
  else match afterHexMark? text with
    | some hex => hexNumber hex
    | none => if startsDecimal (splitSign text).2 then (readFloat? text).getD nan else nan

theorem afterHexMark?_cons {mark : Char} (hmark : IsHexMark mark) (hex : List Char) :
    afterHexMark? ('0' :: mark :: hex) = some hex := by
  rcases hmark with rfl | rfl <;> rfl

theorem eq_of_afterHexMark? {cs hex : List Char} (h : afterHexMark? cs = some hex) :
    ∃ mark, IsHexMark mark ∧ cs = '0' :: mark :: hex := by
  unfold afterHexMark? at h
  split at h
  · exact ⟨'x', .inl rfl, by rw [Option.some.inj h]⟩
  · exact ⟨'X', .inr rfl, by rw [Option.some.inj h]⟩
  · cases h

theorem afterHexMark?_of_ne {cs : List Char} (hlower : ∀ hex, cs ≠ '0' :: 'x' :: hex)
    (hupper : ∀ hex, cs ≠ '0' :: 'X' :: hex) : afterHexMark? cs = none := by
  unfold afterHexMark?
  split
  · exact absurd rfl (hlower _)
  · exact absurd rfl (hupper _)
  · rfl

theorem numberOfText_eq (s : String) : numberOfText s = numberOf (trimBlank s.toList) := by
  unfold numberOfText numberOf
  generalize trimBlank s.toList = cs
  cases cs with
  | nil => rfl
  | cons c cs =>
    rw [if_neg (List.cons_ne_nil c cs)]
    by_cases hminus : c = '-'
    · subst hminus
      rfl
    · by_cases hplus : c = '+'
      · subst hplus
        rfl
      · have hsign : splitSign (c :: cs) = (.none, c :: cs) :=
          splitSign_of_ne (fun rest h => hminus (List.cons.inj h).1) fun rest h => hplus (List.cons.inj h).1
        have hunsigned : ¬ (c = '-' ∨ c = '+') := not_or.mpr ⟨hminus, hplus⟩
        dsimp only
        rw [hsign, if_neg hunsigned, if_neg hminus]
        split
        · rfl
        · split
          · next hex h =>
            rw [h]
            rfl
          · next hex h =>
            rw [h]
            rfl
          · next hlower hupper =>
            rw [afterHexMark?_of_ne hlower hupper]
            rfl

/-! ### Hexadecimal digits -/

theorem hexNumber_eq {hex : List Char} {h : HexNumeral} (hhex : hex = h.digits ∨ hex = '+' :: h.digits) :
    hexNumber hex = if h.value < UInt64.size then nearestFloat h.value else nan := by
  have hstripped : (if hex.head? = some '+' then hex.drop 1 else hex) = h.digits := by
    rcases hhex with rfl | rfl
    · exact if_neg h.head?_ne_plus
    · rfl
  rw [hexNumber, hstripped, readHex?_digits]
  by_cases hsize : h.value < UInt64.size
  · have hword : h.value.toUInt64.toNat = h.value := Nat.mod_eq_of_lt hsize
    show (if h.value < UInt64.size then nearestFloat h.value.toUInt64.toNat else nan) = _
    rw [hword]
  · rw [if_neg hsize]
    exact if_neg hsize

theorem exists_of_hexNumber {hex : List Char} (h : (hexNumber hex).isNaN = false) :
    ∃ digits : HexNumeral, (hex = digits.digits ∨ hex = '+' :: digits.digits) ∧
      digits.value < UInt64.size := by
  cases hread : readHex? (if hex.head? = some '+' then hex.drop 1 else hex) with
  | none =>
    rw [hexNumber, hread, isNaN_nan] at h
    cases h
  | some n =>
    obtain ⟨digits, hdigits, rfl⟩ := exists_of_readHex? hread
    have hhex : hex = digits.digits ∨ hex = '+' :: digits.digits := by
      split at hdigits
      · next hplus =>
        obtain ⟨rest, rfl⟩ := List.head?_eq_some_iff.mp hplus
        exact .inr (congrArg ('+' :: ·) hdigits.symm)
      · exact .inl hdigits.symm
    refine ⟨digits, hhex, ?_⟩
    by_contra hsize
    rw [hexNumber_eq hhex, if_neg hsize, isNaN_nan] at h
    cases h

theorem numberOf_hex {mark : Char} (hmark : IsHexMark mark) (hex : List Char) :
    numberOf ('0' :: mark :: hex) = hexNumber hex := by
  have hname : ¬ '0' :: mark :: hex = "Infinity".toList := fun h => absurd (List.cons.inj h).1 (by decide)
  unfold numberOf
  rw [if_neg (List.cons_ne_nil _ _), afterHexMark?_cons hmark]
  exact if_neg hname

/-! ### Decimal literals -/

theorem exists_cons_of_startsDecimal {cs : List Char} (h : startsDecimal cs = true) :
    ∃ c rest, cs = c :: rest ∧ c.toNat ≤ '9'.toNat ∧ c ≠ '-' ∧ c ≠ '+' := by
  cases cs with
  | nil => cases h
  | cons c rest =>
    have h : (c.isDigit || decide (c = '.')) = true := h
    rcases Bool.or_eq_true_iff.mp h with hdigit | hpoint
    · refine ⟨c, rest, rfl, ?_, ne_sign_of_isDigit hdigit⟩
      exact (Bool.and_eq_true_iff.mp hdigit).2 |> of_decide_eq_true
    · obtain rfl := of_decide_eq_true hpoint
      exact ⟨'.', rest, rfl, by decide, by decide, by decide⟩

theorem startsDecimal_text (n : Numeral) : startsDecimal n.text = true := by
  obtain ⟨c, cs, htext, hc⟩ := n.exists_text_cons
  rw [htext]
  rcases hc with hdigit | rfl
  · show (c.isDigit || decide (c = '.')) = true
    rw [hdigit, Bool.true_or]
  · rfl

theorem toLower_of_le {c : Char} (h : c.toNat ≤ '9'.toNat) : c.toLower = c := by
  refine dif_neg fun hupper => ?_
  have : 'A'.toNat ≤ c.toNat := hupper.1
  exact absurd (this.trans h) (by decide)

/-- No name starts as decimal literals do. -/
theorem readName?_of_startsDecimal {α : Type} {r : FloatReading α} {cs : List Char}
    (h : startsDecimal cs = true) : readName? r cs = none := by
  obtain ⟨c, rest, rfl, hc, -⟩ := exists_cons_of_startsDecimal h
  have hname {name : String} {d : Char} (hd : name.toList.head? = some d) (hlt : '9'.toNat < d.toNat) :
      String.ofList ((c :: rest).map Char.toLower) ≠ name := by
    rintro rfl
    rw [String.toList_ofList, List.map_cons, toLower_of_le hc] at hd
    obtain rfl : c = d := Option.some.inj hd
    exact absurd hlt (Nat.not_lt.mpr hc)
  unfold readName?
  dsimp only
  rw [if_neg (not_or.mpr ⟨hname (d := 'i') rfl (by decide), hname (d := 'i') rfl (by decide)⟩),
    if_neg (hname (d := 'n') rfl (by decide))]

theorem readFloat?_of_startsDecimal {cs : List Char} (h : startsDecimal (splitSign cs).2 = true) :
    readFloat? cs =
      ((readUnsigned? (splitSign cs).2).map Scientific.toFloat).map (splitSign cs).1.apply := by
  rw [readFloat?_eq, readMagnitude?, readName?_of_startsDecimal h, Option.or_none]

theorem exists_of_readFloat? {cs : List Char} (hstarts : startsDecimal (splitSign cs).2 = true)
    (h : ((readFloat? cs).getD nan).isNaN = false) :
    ∃ (sign : Sign) (n : Numeral), cs = sign.text ++ n.text := by
  rw [readFloat?_of_startsDecimal hstarts] at h
  cases hread : readUnsigned? (splitSign cs).2 with
  | none =>
    rw [hread] at h
    exact absurd (isNaN_nan.symm.trans h) (by decide)
  | some x =>
    obtain ⟨n, hn, -⟩ := readUnsigned?_iff.mp hread
    exact ⟨(splitSign cs).1, n, by rw [hn, splitSign_text]⟩

theorem numberOf_decimal (sign : Sign) (n : Numeral) :
    numberOf (sign.text ++ n.text) = sign.apply n.exact.toFloat := by
  have hstarts := startsDecimal_text n
  obtain ⟨c, rest, hcons, hc, hsigns⟩ := exists_cons_of_startsDecimal hstarts
  have hsplit : splitSign (sign.text ++ n.text) = (sign, n.text) := by
    refine splitSign_append sign fun d hd => ?_
    rw [hcons] at hd
    rwa [← Option.some.inj hd]
  have hne : sign.text ++ n.text ≠ [] := by simp [hcons]
  have hname : n.text ≠ "Infinity".toList := by
    rw [hcons]
    intro h
    rw [(List.cons.inj h).1] at hc
    exact absurd hc (by decide)
  have hhex : afterHexMark? (sign.text ++ n.text) = none := by
    by_contra hsome
    obtain ⟨hex, hhex⟩ := Option.ne_none_iff_exists'.mp hsome
    obtain ⟨mark, hmark, heq⟩ := eq_of_afterHexMark? hhex
    have hunsigned : n.text = '0' :: mark :: hex := by
      have := congrArg Prod.snd hsplit
      rw [heq] at this
      exact this.symm
    have hread := n.readUnsigned?_text
    rw [hunsigned] at hread
    rcases hmark with rfl | rfl <;> cases hread
  have hread : readFloat? (sign.text ++ n.text) = _ := readFloat?_of_startsDecimal (hsplit.symm ▸ hstarts)
  unfold numberOf
  rw [if_neg hne, hsplit, if_neg hname, hhex]
  dsimp only
  rw [if_pos hstarts, hread, hsplit, n.readUnsigned?_text]
  rfl

/-! ## Exactly these texts -/

namespace NumberText

theorem numberOf_text : ∀ n : NumberText, n.Fits → numberOf n.text = n.value
  | empty, _ => rfl
  | infinity sign, _ => by cases sign <;> rfl
  | hex _ hmark h, hfits =>
    (numberOf_hex hmark h.digits).trans ((hexNumber_eq (.inl rfl)).trans (if_pos hfits))
  | decimal sign n, _ => numberOf_decimal sign n

theorem numberOf_text_of_not_fits : ∀ n : NumberText, ¬ n.Fits → numberOf n.text = nan
  | hex _ hmark h, hfits =>
    (numberOf_hex hmark h.digits).trans ((hexNumber_eq (.inl rfl)).trans (if_neg hfits))
  | empty, hfits | infinity _, hfits | decimal _ _, hfits => absurd trivial hfits

end NumberText

theorem exists_of_numberOf {text : List Char} (h : (numberOf text).isNaN = false) :
    (∃ n : NumberText, text = n.text ∧ n.Fits) ∨
      ∃ (mark : Char) (h : HexNumeral), IsHexMark mark ∧ text = '0' :: mark :: '+' :: h.digits ∧
        h.value < UInt64.size := by
  unfold numberOf at h
  split at h
  · next hempty => exact .inl ⟨.empty, hempty, trivial⟩
  · split at h
    · next hname =>
      refine .inl ⟨.infinity (splitSign text).1, ?_, trivial⟩
      rw [NumberText.text, ← hname, splitSign_text]
    · split at h
      · next hex hhex =>
        obtain ⟨mark, hmark, rfl⟩ := eq_of_afterHexMark? hhex
        obtain ⟨digits, rfl | rfl, hfits⟩ := exists_of_hexNumber h
        · exact .inl ⟨.hex mark hmark digits, rfl, hfits⟩
        · exact .inr ⟨mark, digits, hmark, rfl, hfits⟩
      · split at h
        · next hstarts =>
          obtain ⟨sign, n, htext⟩ := exists_of_readFloat? hstarts h
          exact .inl ⟨.decimal sign n, htext, trivial⟩
        · exact absurd (isNaN_nan.symm.trans h) (by decide)

/-- A text that stands for a number is read as that number, unless it is hexadecimal and does not fit 64
bits: then it is none. Beside these texts, hexadecimal digits behind a plus sign are numbers, and no
other text is one. -/
theorem numberOfText_exact (s : String) :
    (∀ n : NumberText, trimBlank s.toList = n.text → n.Fits → numberOfText s = n.value) ∧
    (∀ n : NumberText, trimBlank s.toList = n.text → ¬ n.Fits → (numberOfText s).isNaN = true) ∧
    (∀ (mark : Char) (h : HexNumeral), IsHexMark mark → trimBlank s.toList = '0' :: mark :: '+' :: h.digits →
      numberOfText s = if h.value < UInt64.size then nearestFloat h.value else nan) ∧
    ((numberOfText s).isNaN = false ↔
      (∃ n : NumberText, trimBlank s.toList = n.text ∧ n.Fits) ∨
      ∃ (mark : Char) (h : HexNumeral), IsHexMark mark ∧ trimBlank s.toList = '0' :: mark :: '+' :: h.digits ∧
        h.value < UInt64.size) := by
  rw [numberOfText_eq]
  generalize trimBlank s.toList = text
  have hplus {mark : Char} {h : HexNumeral} (hmark : IsHexMark mark) :
      numberOf ('0' :: mark :: '+' :: h.digits) =
      if h.value < UInt64.size then nearestFloat h.value else nan :=
    (numberOf_hex hmark _).trans (hexNumber_eq (.inr rfl))
  refine ⟨?_, ?_, ?_, exists_of_numberOf, ?_⟩
  · rintro n rfl hfits
    exact n.numberOf_text hfits
  · rintro n rfl hfits
    rw [n.numberOf_text_of_not_fits hfits, isNaN_nan]
  · rintro mark h hmark rfl
    exact hplus hmark
  · rintro (⟨n, rfl, hfits⟩ | ⟨mark, h, hmark, rfl, hfits⟩)
    · rw [n.numberOf_text hfits]
      exact n.isNaN_value
    · rw [hplus hmark, if_pos hfits]
      exact isNaN_nearestFloat h.value

/-- Digits behind a plus sign stand for no number, but are read as one; digits that stand for a number
from 2 ^ 64 on are read as none. -/
theorem hexadecimal_texts_misread :
    (numberOfText "0x+1f" = 31 ∧ ∀ n : NumberText, trimBlank "0x+1f".toList ≠ n.text) ∧
    ((numberOfText "0x10000000000000000").isNaN = true ∧
      ∃ n : NumberText, trimBlank "0x10000000000000000".toList = n.text ∧
        n.value = 18446744073709551616) := by
  have htrim : trimBlank "0x+1f".toList = ['0', 'x', '+', '1', 'f'] := by decide +kernel
  refine ⟨⟨by decide +kernel, fun n hn => ?_⟩, by decide +kernel, ?_⟩
  · rw [htrim] at hn
    cases n with
    | empty => cases hn
    | infinity sign => cases sign <;> cases hn
    | hex mark hmark h =>
      have hdigits : ['+', '1', 'f'] = h.digits := (List.cons.inj (List.cons.inj hn).2).2
      exact h.head?_ne_plus (hdigits ▸ rfl)
    | decimal sign n =>
      cases sign with
      | none =>
        have hread := n.readUnsigned?_text
        rw [← show _ = n.text from hn] at hread
        cases hread
      | plus | minus => cases hn
  · refine ⟨.hex 'x' (.inl rfl) ⟨'1' :: List.replicate 16 '0', List.cons_ne_nil _ _, ?_⟩, ?_, ?_⟩
    · exact List.all_eq_true.mp (by decide +kernel)
    · decide +kernel
    · decide +kernel

end TemplateTree
