import Mathlib.Data.List.TakeWhile
import TemplateTree.Decimal.Writing
import TemplateTree.Proofs.ExprGrammar

/-!
# Printing expressions

An expression is printed with parentheses around every compound operand and read back. The text is
followed through the lexer piece by piece: what a piece is cut into depends on what stands behind it
only where an operand could run on or two characters could make a longer operator.
-/

namespace TemplateTree

/-! ## The text of an expression -/

def UnaryOp.spelling : UnaryOp → List Char
  | .not => ['!']
  | .truth => ['!', '!']

def BinaryOp.spelling : BinaryOp → List Char
  | .or => ['|', '|']
  | .and => ['&', '&']
  | .eq => ['=', '=']
  | .ne => ['!', '=']
  | .strictEq => ['=', '=', '=']
  | .strictNe => ['!', '=', '=']
  | .lt => ['<']
  | .le => ['<', '=']
  | .gt => ['>']
  | .ge => ['>', '=']

/-- A backslash stands before every backslash and every double quote, and nothing else changes. -/
def Literal.escaped : List Char → List Char
  | [] => []
  | c :: cs => if c = '\\' ∨ c = '"' then '\\' :: c :: escaped cs else c :: escaped cs

def Literal.written : Literal → List Char
  | .string s => '"' :: (escaped s.toList ++ ['"'])
  | .integer i => (toString i.toInt).toList
  | .float x => (FloatFormat.plain.write x).toList

/-- Compound operands stand in parentheses. -/
def enclosed (compound : Bool) (cs : List Char) : List Char :=
  if compound then '(' :: (cs ++ [')']) else cs

namespace Expr

def isCompound : Expr → Bool
  | .literal _ | .var _ => false
  | .unary .. | .binary .. => true

def written : Expr → List Char
  | .literal l => l.written
  | .var v => v.path.toList
  | .unary op e => op.spelling ++ enclosed e.isCompound e.written
  | .binary op a b =>
    enclosed a.isCompound a.written ++ ' ' :: (op.spelling ++ ' ' :: enclosed b.isCompound b.written)

def print (e : Expr) : String :=
  String.ofList e.written

theorem height_pos (e : Expr) : 0 < e.height := by
  cases e <;> simp [height]

end Expr

/-! ## Which expressions can be printed -/

/-- Digits, or digits with a point that has a digit behind it. -/
def IsDecimal (cs : List Char) : Prop :=
  ∃ whole : List Char, (∀ c ∈ whole, c.isDigit = true) ∧
    (whole ≠ [] ∧ cs = whole ∨
      ∃ fraction : List Char, fraction ≠ [] ∧ (∀ c ∈ fraction, c.isDigit = true) ∧
        cs = whole ++ '.' :: fraction)

def IsNumeral (cs : List Char) : Prop :=
  IsDecimal cs ∨ ∃ digits, cs = '-' :: digits ∧ IsDecimal digits

def IsOperand (cs : List Char) : Prop :=
  cs ≠ [] ∧ ∀ c ∈ cs, isOperandChar c = true

/-- The literals are strings and integers, and the variables, which a source only names as called ones,
have paths that are operands and no numbers. -/
inductive Expr.Printable : Expr → Prop
  | string (s : String) : Printable (.literal (.string s))
  | integer (i : Int64) : Printable (.literal (.integer i))
  | var {path : String} (hpath : IsOperand path.toList) (hnum : ¬ IsNumeral path.toList) :
    Printable (.var (.called path))
  | unary (op : UnaryOp) {e : Expr} (he : e.Printable) : Printable (.unary op e)
  | binary (op : BinaryOp) {a b : Expr} (ha : a.Printable) (hb : b.Printable) : Printable (.binary op a b)

/-! ## Numbers -/

theorem isDecimal_of_isNumber {digits : List Char}
    (h : Literal.isNumber digits = true) : IsDecimal digits := by
  have happend := List.takeWhile_append_dropWhile (p := (· ≠ '.')) (l := digits)
  unfold Literal.isNumber at h
  dsimp only at h
  split at h
  · next hdrop =>
    rw [hdrop, List.append_nil] at happend
    rw [happend] at h
    simp only [Bool.and_eq_true, Bool.not_eq_true', List.isEmpty_eq_false_iff, List.all_eq_true] at h
    exact ⟨digits, h.2, .inl ⟨h.1, rfl⟩⟩
  · next c fraction hdrop =>
    have hpoint : c = '.' := by
      have := List.head?_dropWhile_not (· ≠ '.') digits
      rw [hdrop] at this
      simpa using this
    rw [hdrop, hpoint] at happend
    simp only [Bool.and_eq_true, Bool.not_eq_true', List.isEmpty_eq_false_iff, List.all_eq_true] at h
    exact ⟨_, h.2, .inr ⟨fraction, h.1.1, h.1.2, happend.symm⟩⟩

theorem ofOperand_of_not_isNumeral {cs : List Char} (h : ¬ IsNumeral cs) :
    ofOperand cs = .var (.called (String.ofList cs)) := by
  have hnone : Literal.ofOperand? cs = none := by
    unfold Literal.ofOperand?
    dsimp only
    refine if_neg fun hnum => h ?_
    split at hnum
    · next digits => exact .inr ⟨digits, rfl, isDecimal_of_isNumber hnum⟩
    · exact .inl (isDecimal_of_isNumber hnum)
  unfold ofOperand
  rw [hnone]

/-- Other characters than digits, points and minus signs make no number. -/
theorem not_isNumeral_of_mem {cs : List Char} {c : Char} (hmem : c ∈ cs) (hdigit : c.isDigit = false)
    (hpoint : c ≠ '.') (hminus : c ≠ '-') : ¬ IsNumeral cs := by
  have hdecimal (ds : List Char) (hc : c ∈ ds) : ¬ IsDecimal ds := by
    rintro ⟨whole, hwhole, ⟨-, rfl⟩ | ⟨fraction, -, hfraction, rfl⟩⟩
    · simp [hwhole c hc] at hdigit
    · rcases List.mem_append.mp hc with hc | hc
      · simp [hwhole c hc] at hdigit
      · rcases List.mem_cons.mp hc with hc | hc
        · exact hpoint hc
        · simp [hfraction c hc] at hdigit
  rintro (h | ⟨digits, rfl, h⟩)
  · exact hdecimal cs hmem h
  · exact hdecimal digits ((List.mem_cons.mp hmem).resolve_left hminus) h

theorem ne_of_isDigit {c d : Char} (hc : c.isDigit = true) (hd : d.isDigit = false) : c ≠ d := by
  rintro rfl
  rw [hc] at hd
  cases hd

theorem isOperandChar_of_isDigit {c : Char} (h : c.isDigit = true) : isOperandChar c = true := by
  have hblank : isBlank c = false := by
    by_contra hne
    rw [Bool.not_eq_false] at hne
    obtain ⟨r, hr, hlo, hhi⟩ := CodeRanges.holds_iff.mp hne
    have hc : 48 ≤ c.toNat ∧ c.toNat ≤ 57 := by
      simpa [Char.isDigit, UInt32.le_iff_toNat_le] using h
    simp only [blankRanges, List.mem_cons, List.not_mem_nil, or_false] at hr
    rcases hr with rfl | rfl | rfl | rfl | rfl | rfl | rfl | rfl | rfl | rfl <;> simp at hlo hhi <;> omega
  have hops : c ∉ operatorChars := by
    simp [operatorChars, ne_of_isDigit h]
  simp [isOperandChar, hblank, hops]

section
variable {digits : List Char} (hne : digits ≠ []) (hdigits : ∀ c ∈ digits, c.isDigit = true)
include hdigits

theorem not_mem_of_digits {c : Char} (hc : c.isDigit = false) : c ∉ digits :=
  fun hmem => ne_of_isDigit (hdigits c hmem) hc rfl

include hne

theorem isNumber_of_digits : Literal.isNumber digits = true := by
  have hpoint : ∀ c ∈ digits, decide (c ≠ '.') = true := fun c hc =>
    decide_eq_true (ne_of_isDigit (hdigits c hc) rfl)
  unfold Literal.isNumber
  rw [List.takeWhile_eq_self_iff.mpr hpoint, List.dropWhile_eq_nil_iff.mpr hpoint]
  simpa [hne] using hdigits

theorem readNat?_of_digits : Decimal.readNat? digits = some (Nat.ofDigitChars 10 digits 0) := by
  unfold Decimal.readNat?
  rw [if_pos ⟨hne, List.all_eq_true.mpr hdigits⟩]
  simp [Decimal.natValue, Decimal.digitsValue, Decimal.digit, Nat.ofDigitChars, List.foldl_map]

theorem readInt?_of_digits : Decimal.readInt? digits = some (Nat.ofDigitChars 10 digits 0 : Int) := by
  have hminus := not_mem_of_digits hdigits (c := '-') rfl
  have hplus := not_mem_of_digits hdigits (c := '+') rfl
  unfold Decimal.readInt?
  split
  · simp at hminus
  · simp at hplus
  · rw [readNat?_of_digits hne hdigits]
    rfl

end

@[simp] theorem integer?_toInt (i : Int64) : integer? i.toInt = some i := by
  unfold integer?
  rw [if_pos ⟨Int64.le_iff_toInt_le.mp (Int64.minValue_le i), Int64.le_iff_toInt_le.mp (Int64.le_maxValue i)⟩,
    Int64.ofInt_toInt]

theorem ofOperand?_of_digits {digits : List Char} (hne : digits ≠ [])
    (hdigits : ∀ c ∈ digits, c.isDigit = true) {i : Int64}
    (h : i.toInt = Nat.ofDigitChars 10 digits 0) : Literal.ofOperand? digits = some (.integer i) := by
  have hminus := not_mem_of_digits hdigits (c := '-') rfl
  have hpoint := not_mem_of_digits hdigits (c := '.') rfl
  unfold Literal.ofOperand?
  dsimp only
  split
  · simp at hminus
  · rw [if_pos (isNumber_of_digits hne hdigits), readInt?_of_digits hne hdigits, ← h]
    simp [hpoint]

theorem ofOperand?_of_minus {digits : List Char} (hne : digits ≠ [])
    (hdigits : ∀ c ∈ digits, c.isDigit = true) {i : Int64}
    (h : i.toInt = -(Nat.ofDigitChars 10 digits 0 : Int)) :
    Literal.ofOperand? ('-' :: digits) = some (.integer i) := by
  have hpoint := not_mem_of_digits hdigits (c := '.') rfl
  have hread : Decimal.readInt? ('-' :: digits) = some i.toInt := by
    rw [Decimal.readInt?, readNat?_of_digits hne hdigits, h]
    rfl
  unfold Literal.ofOperand?
  simp [isNumber_of_digits hne hdigits, hread, hpoint]

/-- The text of an integer is an operand that stands for the integer. -/
theorem written_integer (i : Int64) :
    IsOperand (Literal.written (.integer i)) ∧
      ofOperand (Literal.written (.integer i)) = .literal (.integer i) := by
  have hall (n : Nat) : ∀ c ∈ Nat.toDigits 10 n, c.isDigit = true := fun c hc =>
    Nat.isDigit_of_mem_toDigits (by decide) (by decide) hc
  unfold ofOperand
  cases hi : i.toInt with
  | ofNat n =>
    have hwritten : Literal.written (.integer i) = Nat.toDigits 10 n := by
      simp [Literal.written, hi, Int.toString_eq_repr, Int.repr]
    rw [hwritten]
    refine ⟨⟨Nat.toDigits_ne_nil, fun c hc => isOperandChar_of_isDigit (hall n c hc)⟩, ?_⟩
    rw [ofOperand?_of_digits Nat.toDigits_ne_nil (hall n) (i := i)]
    rw [hi, Nat.ofDigitChars_toDigits (by decide) (by decide)]
    rfl
  | negSucc n =>
    have hwritten : Literal.written (.integer i) = '-' :: Nat.toDigits 10 (n + 1) := by
      simp [Literal.written, hi, Int.toString_eq_repr, Int.repr]
    rw [hwritten]
    refine ⟨⟨List.cons_ne_nil _ _, List.forall_mem_cons.mpr ⟨by decide, fun c hc => ?_⟩⟩, ?_⟩
    · exact isOperandChar_of_isDigit (hall _ c hc)
    · rw [ofOperand?_of_minus Nat.toDigits_ne_nil (hall _) (i := i)]
      rw [hi, Nat.ofDigitChars_toDigits (by decide) (by decide)]
      rfl

/-! ## Lexing -/

/-- The text is cut into these tokens without a fault, wherever in a source it starts. -/
def Cuts (cs : List Char) (ts : List Token) : Prop :=
  ∀ start, (Lexemes.readFrom start cs).fault = none ∧ (Lexemes.readFrom start cs).list.map (·.token) = ts

/-- No operand before the text runs on into it. -/
def Ends (cs : List Char) : Prop :=
  ∀ c ∈ cs.head?, isOperandChar c = false

/-- No operator before the text becomes a longer one with its first character. -/
def Apart (cs : List Char) : Prop :=
  ∀ c ∈ cs.head?, c ≠ '=' ∧ c ≠ '!'

theorem IsOperand.apart {cs : List Char} (h : IsOperand cs) : Apart cs := by
  intro c hc
  have hchar := h.2 c (List.mem_of_mem_head? hc)
  constructor <;> (rintro rfl; revert hchar; decide)

theorem cuts_nil : Cuts [] [] := by
  intro start
  simp [Lexemes.readFrom]

section
variable {cs : List Char} {ts : List Token}

theorem cuts_blank (h : Cuts cs ts) : Cuts (' ' :: cs) ts := by
  intro start
  rw [Lexemes.readFrom, if_pos (by decide)]
  exact h _

theorem cuts_token {c : Char} {t : List Char} {token : Token} (hblank : isBlank c = false)
    (hread : readToken c (t ++ cs) = .ok (token, t.length)) (h : Cuts cs ts) :
    Cuts (c :: (t ++ cs)) (token :: ts) := by
  intro start
  rw [Lexemes.readFrom, hblank, if_neg (by decide), hread]
  dsimp only
  rw [List.drop_left]
  obtain ⟨hfault, htokens⟩ := h (start + byteLength (c :: (t ++ cs).take t.length))
  exact ⟨hfault, congrArg (token :: ·) htokens⟩

theorem cuts_openParen (h : Cuts cs ts) : Cuts ('(' :: cs) (.openParen :: ts) :=
  cuts_token (t := []) rfl rfl h

theorem cuts_closeParen (h : Cuts cs ts) : Cuts (')' :: cs) (.closeParen :: ts) :=
  cuts_token (t := []) rfl rfl h

theorem cuts_unary (op : UnaryOp) (hcs : Apart cs) (h : Cuts cs ts) :
    Cuts (op.spelling ++ cs) (.unary op :: ts) := by
  cases op with
  | not =>
    -- only a further `=` or `!` would make a longer operator
    refine cuts_token (t := []) rfl ?_ h
    cases cs with
    | nil => rfl
    | cons c cs =>
      obtain ⟨heq, hnot⟩ := hcs c rfl
      simp [readToken, Token.operators, List.isPrefixOf, heq.symm, hnot.symm]
  | truth => exact cuts_token (t := ['!']) rfl rfl h

theorem cuts_binary (op : BinaryOp) (h : Cuts cs ts) :
    Cuts (op.spelling ++ ' ' :: cs) (.binary op :: ts) := by
  have hblank := cuts_blank h
  cases op with
  | or => exact cuts_token (t := ['|']) rfl rfl hblank
  | and => exact cuts_token (t := ['&']) rfl rfl hblank
  | eq | ne | le | ge => exact cuts_token (t := ['=']) rfl rfl hblank
  | strictEq | strictNe => exact cuts_token (t := ['=', '=']) rfl rfl hblank
  | lt | gt => exact cuts_token (t := []) rfl rfl hblank

theorem operators_find?_of_isOperandChar {c : Char} (hc : isOperandChar c = true) (cs : List Char) :
    Token.operators.find? (·.1.isPrefixOf (c :: cs)) = none := by
  have hops : c ∉ operatorChars := by
    simp only [isOperandChar, Bool.and_eq_true, Bool.not_eq_true', List.contains_eq_mem,
      decide_eq_false_iff_not] at hc
    exact hc.2
  simp only [operatorChars, List.mem_cons, List.not_mem_nil, or_false, not_or, ne_comm (a := c)] at hops
  simp [Token.operators, List.isPrefixOf, hops]

theorem cuts_operand {text : List Char} (htext : IsOperand text) (hcs : Ends cs) (h : Cuts cs ts) :
    Cuts (text ++ cs) (.operand text :: ts) := by
  obtain ⟨hne, hall⟩ := htext
  cases text with
  | nil => exact absurd rfl hne
  | cons c text =>
    have hc := hall c List.mem_cons_self
    have hquote : c ≠ '"' ∧ c ≠ '\'' := by
      constructor <;> (rintro rfl; revert hc; decide)
    have hrest : (text ++ cs).takeWhile isOperandChar = text := by
      rw [List.takeWhile_append_of_pos fun d hd => hall d (List.mem_cons_of_mem _ hd)]
      cases cs with
      | nil => simp
      | cons d cs => simp [hcs d rfl]
    refine cuts_token ?blank ?read h
    case blank =>
      rw [isOperandChar, Bool.and_eq_true, Bool.not_eq_true'] at hc
      exact hc.1
    case read =>
      unfold readToken
      rw [operators_find?_of_isOperandChar hc]
      simp [hquote, hc, hrest]

end

/-! ### Strings -/

theorem unescape_escaped (cs : List Char) : Literal.unescape (Literal.escaped cs) = cs := by
  induction cs with
  | nil => rfl
  | cons c cs ih =>
    rw [Literal.escaped]
    split
    · next hc => rcases hc with rfl | rfl <;> simp [Literal.unescape, ih]
    · next hc =>
      rw [not_or] at hc
      rw [Literal.unescape, ih]
      rintro _ _ rfl
      exact absurd rfl hc.1

theorem quotedBody?_escaped (cs rest : List Char) :
    quotedBody? '"' false (Literal.escaped cs ++ '"' :: rest) = some (Literal.escaped cs) := by
  induction cs with
  | nil => rfl
  | cons c cs ih =>
    rw [Literal.escaped]
    split
    · simp [quotedBody?, ih]
    · next hc =>
      rw [not_or] at hc
      simp [quotedBody?, hc, ih]

theorem cuts_string {cs : List Char} {ts : List Token} (s : String) (h : Cuts cs ts) :
    Cuts (Literal.written (.string s) ++ cs) (.string (Literal.escaped s.toList) :: ts) := by
  have hread : readToken '"' (Literal.escaped s.toList ++ ['"'] ++ cs) =
      .ok (.string (Literal.escaped s.toList), (Literal.escaped s.toList ++ ['"']).length) := by
    have hbody := quotedBody?_escaped s.toList cs
    rw [List.append_assoc, List.singleton_append]
    simp [readToken, Token.operators, List.isPrefixOf, hbody]
  exact cuts_token rfl hread h

/-! ## Printing and reading back -/

/-- In front of text that ends operands the text is cut into these tokens. -/
def Spells (cs : List Char) (ts : List Token) : Prop :=
  ∀ rest us, Ends rest → Cuts rest us → Cuts (cs ++ rest) (ts ++ us)

/-- The text is cut into tokens that derive the expression at a level, at most `n` deep. -/
def Prints (l : Level) (cs : List Char) (e : Expr) (n : Nat) : Prop :=
  ∃ ts d, Spells cs ts ∧ Derives l ts e d ∧ d ≤ n

def Expr.writtenOperand (e : Expr) : List Char :=
  enclosed e.isCompound e.written

theorem Prints.parens {cs : List Char} {e : Expr} {n : Nat} (h : Prints .or cs e n) :
    Prints .unary ('(' :: (cs ++ [')'])) e (n + 1) := by
  obtain ⟨ts, d, hcs, hts, hd⟩ := h
  refine ⟨_, d + 1, ?_, .parens hts, by omega⟩
  intro rest us _ hrest
  have hclose := hcs (')' :: rest) (.closeParen :: us) (by simp [Ends]; decide) (cuts_closeParen hrest)
  simpa using cuts_openParen hclose

theorem Prints.prefixed (op : UnaryOp) {cs : List Char} {e : Expr} {n : Nat} (h : Prints .unary cs e n)
    (hne : cs ≠ []) (hapart : Apart cs) : Prints .unary (op.spelling ++ cs) (.unary op e) (n + 1) := by
  obtain ⟨ts, d, hcs, hts, hd⟩ := h
  refine ⟨_, d + 1, ?_, .prefixed op hts, by omega⟩
  intro rest us hends hrest
  have hop : Apart (cs ++ rest) := by
    cases cs with
    | nil => exact absurd rfl hne
    | cons c cs => exact hapart
  simpa using cuts_unary op hop (hcs rest us hends hrest)

theorem Prints.binary (op : BinaryOp) {cs ds : List Char} {a b : Expr} {m n : Nat} (ha : Prints .unary cs a m)
    (hb : Prints .unary ds b n) :
    Prints op.level (cs ++ ' ' :: (op.spelling ++ ' ' :: ds)) (.binary op a b) (1 + max m n) := by
  obtain ⟨ts, d, hcs, hts, hd⟩ := ha
  obtain ⟨us, d', hds, hus, hd'⟩ := hb
  have hlhs := hts.loosen op.level.rank_le_unary
  have hrhs := hus.loosen op.level.next.rank_le_unary
  refine ⟨_, _, ?_, .binary op hlhs hrhs, by omega⟩
  intro rest vs hends hrest
  have hright := cuts_blank (cuts_binary op (hds rest vs hends hrest))
  have hleft := hcs _ _ (by simp [Ends]; decide) hright
  simpa using hleft

namespace Expr.Printable

theorem prints_leaf {e : Expr} (he : e.isCompound = false) {ts : List Token} (hcs : Spells e.written ts)
    (hts : Derives .unary ts e 1) :
    Prints .unary e.writtenOperand e (2 * e.height) ∧ Prints .or e.written e (2 * e.height - 1) := by
  have hpos := e.height_pos
  rw [writtenOperand, he]
  exact ⟨⟨ts, 1, hcs, hts, by omega⟩, ts, 1, hcs, hts.loosen (l := .or) (by decide), by omega⟩

theorem prints_compound {e : Expr} (he : e.isCompound = true)
    (h : Prints .or e.written e (2 * e.height - 1)) : Prints .unary e.writtenOperand e (2 * e.height) ∧
    Prints .or e.written e (2 * e.height - 1) := by
  have hpos := e.height_pos
  have hparens := h.parens
  rw [writtenOperand, he]
  rw [Nat.sub_add_cancel (by omega)] at hparens
  exact ⟨hparens, h⟩

theorem prints_operand {e : Expr} (he : e.isCompound = false) (htext : IsOperand e.written)
    (h : ofOperand e.written = e) :
    Prints .unary e.writtenOperand e (2 * e.height) ∧ Prints .or e.written e (2 * e.height - 1) := by
  have hts : Derives .unary [.operand e.written] (ofOperand e.written) 1 := .operand _
  rw [h] at hts
  exact prints_leaf he (fun rest us hends hrest => cuts_operand htext hends hrest) hts

theorem writtenOperand_start {e : Expr} (h : e.Printable) :
    e.writtenOperand ≠ [] ∧ Apart e.writtenOperand := by
  have hquote : Apart ['"'] := by simp [Apart]
  cases h with
  | string s => exact ⟨List.cons_ne_nil _ _, hquote⟩
  | integer i => exact ⟨(written_integer i).1.1, (written_integer i).1.apart⟩
  | var hpath hnum => exact ⟨hpath.1, hpath.apart⟩
  | unary | binary => exact ⟨List.cons_ne_nil _ _, by simp [Apart, writtenOperand, enclosed, isCompound]⟩

/-- Parentheses and operators are at most two levels of a derivation for each level of the expression. -/
theorem prints {e : Expr} (h : e.Printable) :
    Prints .unary e.writtenOperand e (2 * e.height) ∧ Prints .or e.written e (2 * e.height - 1) := by
  induction h with
  | string s =>
    have hts : Derives .unary [.string (Literal.escaped s.toList)] (.literal (.string s)) 1 := by
      simpa [unescape_escaped] using Derives.string (Literal.escaped s.toList)
    have hcs : Spells (Literal.written (.string s)) [.string (Literal.escaped s.toList)] :=
      fun rest us _ hrest => cuts_string s hrest
    exact prints_leaf rfl hcs hts
  | integer i => exact prints_operand rfl (written_integer i).1 (written_integer i).2
  | @var path hpath hnum =>
    refine prints_operand rfl hpath ?_
    rw [written, Variable.called, ofOperand_of_not_isNumeral hnum, String.ofList_toList]
    rfl
  | @unary op e he ih =>
    obtain ⟨hne, hapart⟩ := he.writtenOperand_start
    obtain ⟨ts, d, hcs, hts, hd⟩ := ih.1.prefixed op hne hapart
    exact prints_compound rfl ⟨ts, d, hcs, hts.loosen (l := .or) (by decide), by simp [height]; omega⟩
  | @binary op a b ha hb iha ihb =>
    obtain ⟨ts, d, hcs, hts, hd⟩ := iha.1.binary op ihb.1
    exact prints_compound rfl ⟨ts, d, hcs, hts.loosen (l := .or) op.level.rank_pos, by simp [height]; omega⟩

end Expr.Printable

/-- An expression up to a height of 64 is read back from its text, since its derivation is less than
twice as deep. -/
theorem parse_print {e : Expr} (h : e.Printable) (hheight : e.height ≤ 64) : Expr.parse e.print = .ok e := by
  obtain ⟨ts, d, hspells, hderives, hd⟩ := h.prints.2
  have hcuts : Cuts e.written ts := by
    simpa using hspells [] [] (by simp [Ends]) cuts_nil
  have hlexes : Lexes e.print ts := by
    unfold Lexes Expr.print Lexemes.read
    rw [String.toList_ofList]
    exact hcuts 0
  refine (parse_of_derives hlexes hderives).resolve_right fun hdeep => ?_
  have hmax : 128 < d := hdeep.1
  omega

theorem quoted_operators_are_read_back :
    Expr.parse (Expr.print (.unary .not (.binary .le (.unary .truth (.literal (.string "\\\" || n\n")))
      (.binary .strictNe (.var (.called "user.age")) (.literal (.integer (-7))))))) =
    .ok (.unary .not (.binary .le (.unary .truth (.literal (.string "\\\" || n\n")))
      (.binary .strictNe (.var (.called "user.age")) (.literal (.integer (-7)))))) := by
  have hnum : ¬ IsNumeral "user.age".toList :=
    not_isNumeral_of_mem (c := 'u') (by decide) rfl (by decide) (by decide)
  have hvar : Expr.Printable (.var (.called "user.age")) :=
    .var ⟨by decide, List.all_eq_true.mp (by decide)⟩ hnum
  exact parse_print (.unary _ (.binary _ (.unary _ (.string _)) (.binary _ hvar (.integer _)))) (by decide)

end TemplateTree
