import TemplateTree.Proofs.ExprPrinting
import TemplateTree.Proofs.Slicing

/-!
# Tokens tile their source

The tokens of a source and the blanks between them are the whole source, or all of it before the first
place where no token starts. Each token is as long as it can be: an operator is the longest one that its
text starts with, an operand is a run of characters with no further one on either side, and a string
ends at the first of its quotes that is not escaped, which is to say that no odd number of backslashes
stands right before it.
-/

namespace TemplateTree

/-! ## Backslashes -/

/-- How many backslashes stand right before the end of a text, where `n` of them stand right before the
text. -/
def backslashesFrom (n : Nat) (cs : List Char) : Nat :=
  cs.foldl (fun n c => if c = '\\' then n + 1 else 0) n

def backslashes (cs : List Char) : Nat :=
  backslashesFrom 0 cs

/-- Every quote in the text has an odd number of backslashes right before it. -/
def Escapes (quote : Char) (n : Nat) (cs : List Char) : Prop :=
  ∀ a b, cs = a ++ quote :: b → backslashesFrom n a % 2 = 1

theorem escapes_nil (quote : Char) (n : Nat) : Escapes quote n [] := by
  intro a b h
  simp at h

theorem escapes_cons {quote c : Char} {n : Nat} {cs : List Char} (hc : c = quote → n % 2 = 1)
    (h : Escapes quote (if c = '\\' then n + 1 else 0) cs) : Escapes quote n (c :: cs) := by
  intro a b heq
  cases a with
  | nil =>
    obtain ⟨rfl, -⟩ := List.cons.inj heq
    exact hc rfl
  | cons d a =>
    obtain ⟨rfl, hcs⟩ := List.cons.inj heq
    exact h a b hcs

/-- Whether the next character is escaped is whether the number of backslashes before it is odd. -/
theorem quotedBody?_cons {quote : Char} (hquote : quote ≠ '\\') (n : Nat) (c : Char) (cs : List Char) :
    quotedBody? quote (decide (n % 2 = 1)) (c :: cs) =
      if c = quote ∧ n % 2 = 0 then some []
      else (quotedBody? quote (decide ((if c = '\\' then n + 1 else 0) % 2 = 1)) cs).map (c :: ·) := by
  rw [quotedBody?]
  by_cases hc : c = '\\'
  · have hne : c ≠ quote := fun h => hquote (h ▸ hc)
    by_cases hn : n % 2 = 1
    · have hnext : (n + 1) % 2 ≠ 1 := by omega
      simp [hc, hn, hnext]
    · have hnext : (n + 1) % 2 = 1 := by omega
      simp [hc, hn, hnext, Ne.symm hquote]
  · by_cases hn : n % 2 = 1
    · simp [hc, hn]
    · have heven : n % 2 = 0 := by omega
      simp [hc, heven]

section
variable {quote : Char} (hquote : quote ≠ '\\')
include hquote

theorem quotedBody?_sound {n : Nat} {cs body : List Char}
    (h : quotedBody? quote (decide (n % 2 = 1)) cs = some body) :
    (∃ rest, cs = body ++ quote :: rest) ∧ Escapes quote n body ∧ backslashesFrom n body % 2 = 0 := by
  induction cs generalizing n body with
  | nil => cases h
  | cons c cs ih =>
    rw [quotedBody?_cons hquote] at h
    by_cases hend : c = quote ∧ n % 2 = 0
    · rw [if_pos hend] at h
      obtain rfl := Option.some.inj h
      exact ⟨⟨cs, by simp [hend.1]⟩, escapes_nil quote n, hend.2⟩
    · rw [if_neg hend] at h
      obtain ⟨body', hbody, rfl⟩ := Option.map_eq_some_iff.mp h
      obtain ⟨⟨rest, hrest⟩, hinside, hclosed⟩ := ih hbody
      refine ⟨⟨rest, by simp [hrest]⟩, escapes_cons (fun hc => ?_) hinside, hclosed⟩
      have hodd : ¬ n % 2 = 0 := fun hn => hend ⟨hc, hn⟩
      omega

theorem escapes_of_quotedBody?_none {n : Nat} {cs : List Char}
    (h : quotedBody? quote (decide (n % 2 = 1)) cs = none) :
    Escapes quote n cs := by
  induction cs generalizing n with
  | nil => exact escapes_nil quote n
  | cons c cs ih =>
    rw [quotedBody?_cons hquote] at h
    by_cases hend : c = quote ∧ n % 2 = 0
    · rw [if_pos hend] at h
      cases h
    · rw [if_neg hend] at h
      refine escapes_cons (fun hc => ?_) (ih (Option.map_eq_none_iff.mp h))
      have hodd : ¬ n % 2 = 0 := fun hn => hend ⟨hc, hn⟩
      omega

end

/-! ## Tilings -/

def IsQuote (c : Char) : Prop :=
  c = '"' ∨ c = '\''

/-- A character that is no operator by itself, but twice. -/
def IsLone (c : Char) : Prop :=
  c = '&' ∨ c = '|' ∨ c = '='

/-- A token with its text, between the text before it and the rest behind it. -/
inductive Munch (before : List Char) : Token → List Char → List Char → Prop
  | operator {spelling rest : List Char} {token : Token} (hmem : (spelling, token) ∈ Token.operators)
    (hlongest : ∀ e ∈ Token.operators, e.1 <+: spelling ++ rest → e.1.length ≤ spelling.length) :
    Munch before token spelling rest
  | string {quote : Char} {body rest : List Char} (hquote : IsQuote quote) (hinside : Escapes quote 0 body)
    (hclosed : backslashes body % 2 = 0) : Munch before (.string body) (quote :: body ++ [quote]) rest
  | operand {text rest : List Char} (htext : IsOperand text) (hends : Ends rest)
    (hstarts : ∀ c ∈ before.getLast?, isOperandChar c = false) : Munch before (.operand text) text rest

/-- The tokens, with their places in the source, and the blanks between them are the text that stands
between the text before it and the rest behind it. -/
inductive Tiles : List Char → List Lexeme → List Char → List Char → Prop
  | nil {before rest : List Char} : Tiles before [] [] rest
  | blank {before text rest : List Char} {ls : List Lexeme} {c : Char} (hc : isBlank c = true)
    (h : Tiles (before ++ [c]) ls text rest) : Tiles before ls (c :: text) rest
  | token {before word text rest : List Char} {ls : List Lexeme} {token : Token}
    (hword : Munch before token word (text ++ rest)) (h : Tiles (before ++ word) ls text rest) :
    Tiles before (⟨token, ⟨byteLength before, byteLength before + byteLength word⟩⟩ :: ls) (word ++ text) rest

/-- Where the tokens end, with the fault there: at the end of the source, at a lone character of a
longer operator, or at a quote with no other one behind it that is not escaped. -/
inductive Stops (before : List Char) : List Char → Option (ExprFault × Span) → Prop
  | finish : Stops before [] none
  | lone {c : Char} {cs : List Char} (hc : IsLone c) (hcs : cs.head? ≠ some c) :
    Stops before (c :: cs) (some (.unexpectedCharacter, ⟨byteLength before, byteLength before + 1⟩))
  | unclosed {quote : Char} {cs : List Char} (hquote : IsQuote quote) (h : Escapes quote 0 cs) :
    Stops before (quote :: cs)
      (some (.undelimitedString, ⟨byteLength before, byteLength before + byteLength (quote :: cs)⟩))

/-! ## Tokens that are read -/

/-- The longer operators come first, so that the first one found is the longest. -/
theorem operators_sorted : Token.operators.Pairwise fun a b => b.1.length ≤ a.1.length := by
  decide

theorem length_le_of_find? {cs spelling : List Char} {token : Token}
    (h : Token.operators.find? (·.1.isPrefixOf cs) = some (spelling, token)) :
    ∀ e ∈ Token.operators, e.1 <+: cs → e.1.length ≤ spelling.length := by
  obtain ⟨-, earlier, later, hsplit, hearlier⟩ := List.find?_eq_some_iff_append.mp h
  have hsorted := operators_sorted
  rw [hsplit] at hsorted ⊢
  intro e he hstarts
  rcases List.mem_append.mp he with he | he
  · have hnot := hearlier e he
    rw [List.isPrefixOf_iff_prefix.mpr hstarts] at hnot
    cases hnot
  · rcases List.mem_cons.mp he with rfl | he
    · exact Nat.le_refl _
    · exact List.rel_of_pairwise_cons (List.pairwise_append.mp hsorted).2.1 he

/-- A text does not run on as an operand into the one behind it. -/
def Parted (before cs : List Char) : Prop :=
  ∀ c ∈ before.getLast?, isOperandChar c = true → Ends cs

theorem parted_of_last {before : List Char}
    (h : ∀ c ∈ before.getLast?, isOperandChar c = false) (cs : List Char) :
    Parted before cs := by
  intro c hc hoperand
  rw [h c hc] at hoperand
  cases hoperand

theorem parted_snoc {c : Char} (h : isOperandChar c = false) (before cs : List Char) :
    Parted (before ++ [c]) cs :=
  parted_of_last (by simpa using h) cs

theorem Parted.starts {before cs : List Char} {c : Char} (h : Parted before (c :: cs))
    (hc : isOperandChar c = true) : ∀ d ∈ before.getLast?, isOperandChar d = false := by
  intro d hd
  by_contra hoperand
  rw [Bool.not_eq_false] at hoperand
  have hends := h d hd hoperand c rfl
  rw [hc] at hends
  cases hends

theorem IsQuote.ne_backslash {c : Char} (h : IsQuote c) : c ≠ '\\' := by
  rcases h with rfl | rfl <;> decide

theorem IsQuote.not_operand {c : Char} (h : IsQuote c) : isOperandChar c = false := by
  rcases h with rfl | rfl <;> decide

namespace Munch

variable {before word rest : List Char} {token : Token}

theorem ne_nil (h : Munch before token word rest) : word ≠ [] := by
  cases h with
  | operator hmem hlongest =>
    have hall : ∀ e ∈ Token.operators, e.1 ≠ [] := by decide
    exact hall _ hmem
  | string => simp
  | operand htext => exact htext.1

theorem parted (h : Munch before token word rest) : Parted (before ++ word) rest := by
  have hne := h.ne_nil
  cases h with
  | operator hmem hlongest =>
    have hall : Token.operators.all (fun e => e.1.getLast?.all (!isOperandChar ·)) = true := by decide
    have hlast : word.getLast?.all (!isOperandChar ·) = true := List.all_eq_true.mp hall _ hmem
    obtain ⟨cs, c, rfl⟩ := (List.eq_nil_or_concat' word).resolve_left hne
    rw [← List.append_assoc]
    exact parted_snoc (by simpa using hlast) _ rest
  | @string quote body _ hquote hinside hclosed =>
    rw [← List.append_assoc]
    exact parted_snoc hquote.not_operand _ rest
  | operand htext hends => exact fun _ _ _ => hends

end Munch

/-- The ways in which a text is read as a token, or is not. -/
inductive Reads (c : Char) (cs : List Char) : Except ExprFault (Token × Nat) → Prop
  | operator {spelling : List Char} {token : Token}
    (hfind : Token.operators.find? (·.1.isPrefixOf (c :: cs)) = some (spelling, token)) :
    Reads c cs (.ok (token, spelling.length - 1))
  | string {body : List Char} (hquote : IsQuote c) (hbody : quotedBody? c false cs = some body) :
    Reads c cs (.ok (.string body, body.length + 1))
  | unclosed (hquote : IsQuote c) (hbody : quotedBody? c false cs = none) :
      Reads c cs (.error .undelimitedString)
  | operand (hoperand : isOperandChar c = true) :
    Reads c cs (.ok (.operand (c :: cs.takeWhile isOperandChar), (cs.takeWhile isOperandChar).length))
  | lone (hfind : Token.operators.find? (·.1.isPrefixOf (c :: cs)) = none) (hquote : ¬ IsQuote c)
    (hoperand : ¬ isOperandChar c = true) : Reads c cs (.error .unexpectedCharacter)

theorem reads_readToken (c : Char) (cs : List Char) : Reads c cs (readToken c cs) := by
  unfold readToken
  cases hfind : Token.operators.find? (·.1.isPrefixOf (c :: cs)) with
  | some e => exact .operator hfind
  | none =>
    by_cases hquote : c = '"' ∨ c = '\''
    · dsimp only
      rw [if_pos hquote]
      cases hbody : quotedBody? c false cs with
      | some body => exact .string hquote hbody
      | none => exact .unclosed hquote hbody
    · dsimp only
      rw [if_neg hquote]
      by_cases hoperand : isOperandChar c = true
      · rw [if_pos hoperand]
        exact .operand hoperand
      · rw [if_neg hoperand]
        exact .lone hfind hquote hoperand

/-- What is read as a token is one. -/
theorem munch_of_readToken {before cs : List Char} {c : Char} {token : Token} {n : Nat}
    (h : readToken c cs = .ok (token, n)) (hbefore : Parted before (c :: cs)) :
    Munch before token (c :: cs.take n) (cs.drop n) := by
  have hreads := reads_readToken c cs
  rw [h] at hreads
  cases hreads with
  | @operator spelling _ hfind =>
    obtain ⟨⟨rest, hrest⟩, -, hne⟩ := Checked.operators_find?_spelling hfind
    have hlongest := length_le_of_find? hfind
    cases spelling with
    | nil => exact absurd rfl hne
    | cons d spelling =>
      obtain ⟨rfl, rfl⟩ := List.cons.inj hrest
      simpa using Munch.operator (List.mem_of_find?_eq_some hfind) hlongest
  | @string body hquote hbody =>
    obtain ⟨⟨rest, rfl⟩, hinside, hclosed⟩ := quotedBody?_sound hquote.ne_backslash (n := 0) hbody
    have hword : (body ++ c :: rest).take (body.length + 1) = body ++ [c] := List.take_length_add_append 1
    have hrest : (body ++ c :: rest).drop (body.length + 1) = rest := List.drop_length_add_append 1
    rw [hword, hrest]
    exact .string hquote hinside hclosed
  | operand hoperand =>
    have hword : cs.take (cs.takeWhile isOperandChar).length = cs.takeWhile isOperandChar :=
      (List.prefix_iff_eq_take.mp (List.takeWhile_prefix _)).symm
    have hrest : cs.drop (cs.takeWhile isOperandChar).length = cs.dropWhile isOperandChar := by
      have happend : cs.takeWhile isOperandChar ++ cs.drop (cs.takeWhile isOperandChar).length =
          cs.takeWhile isOperandChar ++ cs.dropWhile isOperandChar := by
        rw [List.takeWhile_append_dropWhile]
        nth_rewrite 1 [← hword]
        exact List.take_append_drop _ cs
      exact List.append_cancel_left happend
    rw [hword, hrest]
    refine .operand ⟨List.cons_ne_nil _ _, ?_⟩ ?_ (hbefore.starts hoperand)
    · exact List.forall_mem_cons.mpr ⟨hoperand, fun d hd => List.mem_takeWhile_imp hd⟩
    · intro d hd
      have hnot := List.head?_dropWhile_not isOperandChar cs
      rw [hd] at hnot
      exact hnot

theorem lone_of_find? {c : Char} {cs : List Char}
    (hfind : Token.operators.find? (·.1.isPrefixOf (c :: cs)) = none)
    (hblank : isBlank c = false) (hoperand : ¬ isOperandChar c = true) (hquote : ¬ IsQuote c) :
    IsLone c ∧ cs.head? ≠ some c := by
  have hnone := List.find?_eq_none.mp hfind
  have hchar : c ∈ operatorChars := by
    simpa [isOperandChar, hblank] using hoperand
  have hshort {t : Token} (hmem : ([c], t) ∈ Token.operators) : False :=
    hnone _ hmem (by simp [List.isPrefixOf])
  have hlong {t : Token} (hmem : ([c, c], t) ∈ Token.operators) : cs.head? ≠ some c := by
    intro hhead
    obtain ⟨tail, rfl⟩ := List.head?_eq_some_iff.mp hhead
    exact hnone _ hmem (by simp [List.isPrefixOf])
  simp only [operatorChars, List.mem_cons, List.not_mem_nil, or_false] at hchar
  -- the other characters of operators are operators by themselves, and quotes start strings
  rcases hchar with rfl | rfl | rfl | rfl | rfl | rfl | rfl | rfl | rfl | rfl
  · exact (hshort (t := .openParen) (by decide)).elim
  · exact (hshort (t := .closeParen) (by decide)).elim
  · exact ⟨.inl rfl, hlong (t := .binary .and) (by decide)⟩
  · exact ⟨.inr (.inl rfl), hlong (t := .binary .or) (by decide)⟩
  · exact ⟨.inr (.inr rfl), hlong (t := .binary .eq) (by decide)⟩
  · exact (hshort (t := .unary .not) (by decide)).elim
  · exact (hshort (t := .binary .lt) (by decide)).elim
  · exact (hshort (t := .binary .gt) (by decide)).elim
  · exact absurd (.inl rfl) hquote
  · exact absurd (.inr rfl) hquote

/-- Where no token can be read, the tokens end. -/
theorem stops_of_readToken (before : List Char) {cs : List Char} {c : Char} {fault : ExprFault}
    (hblank : isBlank c = false) (h : readToken c cs = .error fault) :
    Stops before (c :: cs) (some (fault, Lexemes.faultSpan fault (byteLength before) c cs)) := by
  have hreads := reads_readToken c cs
  rw [h] at hreads
  cases hreads with
  | unclosed hquote hbody =>
    exact .unclosed hquote (escapes_of_quotedBody?_none hquote.ne_backslash (n := 0) hbody)
  | lone hfind hquote hoperand =>
    obtain ⟨hc, hcs⟩ := lone_of_find? hfind hblank hoperand hquote
    have hsize : c.utf8Size = 1 := by
      rcases hc with rfl | rfl | rfl <;> rfl
    rw [Lexemes.faultSpan, hsize]
    · exact .lone hc hcs
    · nofun

/-! ## Sources -/

theorem readFrom_tiles : ∀ (n : Nat) (before cs : List Char), cs.length ≤ n → Parted before cs →
    ∃ text rest, cs = text ++ rest ∧ Tiles before (Lexemes.readFrom (byteLength before) cs).list text rest ∧
      Stops (before ++ text) rest (Lexemes.readFrom (byteLength before) cs).fault
  | _, before, [], _, _ => by
    rw [Lexemes.readFrom]
    refine ⟨[], [], rfl, .nil, ?_⟩
    rw [List.append_nil]
    exact .finish
  | 0, _, _ :: _, h, _ => absurd h (Nat.not_succ_le_zero _)
  | n + 1, before, c :: cs, h, hbefore => by
    rw [List.length_cons] at h
    rw [Lexemes.readFrom]
    cases hblank : isBlank c with
    | true =>
      have hnot : isOperandChar c = false := by simp [isOperandChar, hblank]
      obtain ⟨text, rest, rfl, htiles, hstops⟩ :=
        readFrom_tiles n (before ++ [c]) cs (by omega) (parted_snoc hnot before cs)
      rw [if_pos rfl]
      have hstart : byteLength (before ++ [c]) = byteLength before + c.utf8Size := by simp [byteLength]
      rw [hstart] at htiles hstops
      rw [List.append_assoc, List.singleton_append] at hstops
      exact ⟨c :: text, rest, rfl, .blank hblank htiles, hstops⟩
    | false =>
      rw [if_neg (by decide)]
      cases hread : readToken c cs with
      | error fault =>
        refine ⟨[], c :: cs, rfl, .nil, ?_⟩
        rw [List.append_nil]
        exact stops_of_readToken before hblank hread
      | ok read =>
        obtain ⟨token, k⟩ := read
        have hmunch := munch_of_readToken hread hbefore
        have hlength : (cs.drop k).length ≤ n := by
          rw [List.length_drop]
          omega
        obtain ⟨text, rest, hrest, htiles, hstops⟩ :=
          readFrom_tiles n (before ++ (c :: cs.take k)) (cs.drop k) hlength hmunch.parted
        rw [byteLength_append] at htiles hstops
        rw [List.append_assoc] at hstops
        rw [hrest] at hmunch
        refine ⟨c :: cs.take k ++ text, rest, ?_, .token hmunch htiles, hstops⟩
        rw [List.append_assoc, ← hrest, List.cons_append, List.take_append_drop]

theorem Tiles.spans {before text rest : List Char} {ls : List Lexeme} (h : Tiles before ls text rest) :
    (∀ l ∈ ls, byteLength before ≤ l.span.start ∧ l.span.start < l.span.stop) ∧
      ls.Pairwise fun l m => l.span.stop ≤ m.span.start := by
  induction h with
  | nil => simp
  | blank hc h ih =>
    refine ⟨fun l hl => ?_, ih.2⟩
    obtain ⟨hstart, hlt⟩ := ih.1 l hl
    rw [byteLength_append] at hstart
    exact ⟨by omega, hlt⟩
  | token hword h ih =>
    have hpos := byteLength_pos hword.ne_nil
    simp only [byteLength_append] at ih
    refine ⟨List.forall_mem_cons.mpr ⟨⟨Nat.le_refl _, by simpa using hpos⟩, fun l hl => ?_⟩, ?_⟩
    · obtain ⟨hstart, hlt⟩ := ih.1 l hl
      exact ⟨by omega, hlt⟩
    · exact List.pairwise_cons.mpr ⟨fun l hl => (ih.1 l hl).1, ih.2⟩

theorem doubled_of_munch {before word after cs : List Char} {token : Token} {c : Char}
    (h : Munch before token word after) (hword : word ++ after = c :: cs) (hlone : IsLone c) :
    cs.head? = some c := by
  obtain ⟨d, w, rfl⟩ := List.exists_cons_of_ne_nil h.ne_nil
  obtain ⟨rfl, rfl⟩ := List.cons.inj hword
  cases h with
  | operator hmem hlongest =>
    have hall : ∀ e ∈ Token.operators, (e.1.head? = some '&' ∨ e.1.head? = some '|' ∨ e.1.head? = some '=') →
        e.1.tail.head? = e.1.head? := by decide
    have hsecond : w.head? = some d := hall _ hmem (by simpa [IsLone] using hlone)
    simp [hsecond]
  | string hquote => rcases hlone with rfl | rfl | rfl <;> simp [IsQuote] at hquote
  | operand htext =>
    have hoperand := htext.2 d List.mem_cons_self
    rcases hlone with rfl | rfl | rfl <;> simp [isOperandChar, operatorChars] at hoperand

theorem not_escapes_of_munch {before word after cs : List Char} {token : Token} {c : Char}
    (h : Munch before token word after) (hword : word ++ after = c :: cs) (hquote : IsQuote c) :
    ¬ Escapes c 0 cs := by
  intro hescapes
  obtain ⟨d, w, rfl⟩ := List.exists_cons_of_ne_nil h.ne_nil
  obtain ⟨rfl, rfl⟩ := List.cons.inj hword
  cases h with
  | operator hmem hlongest =>
    have hall : ∀ e ∈ Token.operators, e.1.head? ≠ some '"' ∧ e.1.head? ≠ some '\'' := by decide
    have hne := hall _ hmem
    rcases hquote with rfl | rfl <;> simp at hne
  | @string _ body _ _ hinside hclosed =>
    have hodd : backslashes body % 2 = 1 := hescapes body after (by simp)
    omega
  | operand htext =>
    have hoperand := htext.2 d List.mem_cons_self
    rw [hquote.not_operand] at hoperand
    cases hoperand

/-- No token stands where the tokens end. -/
theorem Stops.no_munch {before rest word after : List Char}
    {fault : Option (ExprFault × Span)} {token : Token} (h : Stops before rest fault)
    (hrest : rest = word ++ after) : ¬ Munch before token word after := by
  intro hmunch
  cases h with
  | finish => exact hmunch.ne_nil (List.append_eq_nil_iff.mp hrest.symm).1
  | lone hc hcs => exact hcs (doubled_of_munch hmunch hrest.symm hc)
  | unclosed hquote h => exact not_escapes_of_munch hmunch hrest.symm hquote h

/-- The tokens that are read tile the source up to its end or to its fault, which is where no token
starts. With a cursor they are read in at most one round for each character and one more. -/
theorem tokens_tile_source (source : List Char) :
    Checked.lex? source = some (Lexemes.read source) ∧
      (∀ l ∈ (Lexemes.read source).list, l.span.start < l.span.stop) ∧
      ((Lexemes.read source).list.Pairwise fun l m => l.span.stop ≤ m.span.start) ∧
      ∃ text rest, source = text ++ rest ∧ Tiles [] (Lexemes.read source).list text rest ∧
        Stops text rest (Lexemes.read source).fault ∧
        ∀ token word after, rest = word ++ after → ¬ Munch text token word after := by
  have hparted : Parted [] source := by simp [Parted]
  obtain ⟨text, rest, hsource, htiles, hstops⟩ :=
    readFrom_tiles source.length [] source (Nat.le_refl _) hparted
  have hspans := htiles.spans
  exact ⟨Checked.lex?_eq source, fun l hl => (hspans.1 l hl).2, hspans.2, text, rest, hsource, htiles, hstops,
    fun token word after => hstops.no_munch⟩

theorem lone_ampersand_ends_tokens : ∃ text rest, "a!=='\\'' & b".toList = text ++ rest ∧
    Tiles [] [⟨.operand ['a'], ⟨0, 1⟩⟩, ⟨.binary .strictNe, ⟨1, 4⟩⟩,
      ⟨.string ['\\', '\''], ⟨4, 8⟩⟩] text rest ∧
    Stops text rest (some (.unexpectedCharacter, ⟨9, 10⟩)) := by
  have hread : Lexemes.read "a!=='\\'' & b".toList =
      ⟨[⟨.operand ['a'], ⟨0, 1⟩⟩, ⟨.binary .strictNe, ⟨1, 4⟩⟩, ⟨.string ['\\', '\''], ⟨4, 8⟩⟩],
        some (.unexpectedCharacter, ⟨9, 10⟩)⟩ := by
    decide +kernel
  obtain ⟨-, -, -, text, rest, hsource, htiles, hstops, -⟩ := tokens_tile_source "a!=='\\'' & b".toList
  rw [hread] at htiles hstops
  exact ⟨text, rest, hsource, htiles, hstops⟩

end TemplateTree
