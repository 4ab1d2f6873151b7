import Mathlib.Data.List.Basic
import TemplateTree.Expr.Parser
import TemplateTree.Proofs.Occurrence

/-!
# The grammar of expressions

Expressions have five levels: operands of `||`, of `&&`, of equalities, of relations, and last what
prefixes and parentheses bind. The stack of the reader stands for a derivation that is not done. What
has been read before an operand fills the places to the left of it, and completing the stack fills the
place of the operand.
-/

namespace TemplateTree

/-! ## The grammar -/

inductive Level where
  | or
  | and
  | equality
  | relation
  | unary
deriving DecidableEq

/-- The level of the operands on the right of the operators of a level. -/
def Level.next : Level → Level
  | .or => .and
  | .and => .equality
  | .equality => .relation
  | .relation | .unary => .unary

def BinaryOp.level : BinaryOp → Level
  | .or => .or
  | .and => .and
  | .eq | .ne | .strictEq | .strictNe => .equality
  | .lt | .le | .gt | .ge => .relation

/-- Tokens that derive an expression at a level. The number counts the operators, the parentheses and
the leaf on the longest path of the derivation. -/
inductive Derives : Level → List Token → Expr → Nat → Prop
  | string (body : List Char) :
    Derives .unary [.string body] (.literal (.string (String.ofList (Literal.unescape body)))) 1
  | operand (text : List Char) : Derives .unary [.operand text] (ofOperand text) 1
  | prefixed (op : UnaryOp) {ts : List Token} {e : Expr} {d : Nat} (h : Derives .unary ts e d) :
    Derives .unary (.unary op :: ts) (.unary op e) (d + 1)
  | parens {ts : List Token} {e : Expr} {d : Nat} (h : Derives .or ts e d) :
    Derives .unary (.openParen :: ts ++ [.closeParen]) e (d + 1)
  | binary (op : BinaryOp) {ts us : List Token} {a b : Expr} {m n : Nat} (ha : Derives op.level ts a m)
    (hb : Derives op.level.next us b n) :
    Derives op.level (ts ++ .binary op :: us) (.binary op a b) (1 + max m n)
  | tighter {level : Level} {ts : List Token} {e : Expr} {d : Nat} (h : Derives level.next ts e d) :
    Derives level ts e d

/-- The source has no fault and consists of these tokens. -/
def Lexes (source : String) (ts : List Token) : Prop :=
  (Lexemes.read source.toList).fault = none ∧ (Lexemes.read source.toList).list.map (·.token) = ts

namespace Level

/-- The least precedence of operators that stand at a level without parentheses. -/
def rank : Level → Nat
  | .or => 1
  | .and => 2
  | .equality => 3
  | .relation => 4
  | .unary => 5

theorem rank_pos (l : Level) : 0 < l.rank := by
  cases l <;> decide

theorem rank_le_next (l : Level) : l.rank ≤ l.next.rank := by
  cases l <;> decide

theorem rank_le_unary (l : Level) : l.rank ≤ Level.unary.rank := by
  cases l <;> decide

end Level

@[simp] theorem rank_level (op : BinaryOp) : op.level.rank = op.precedence := by
  cases op <;> rfl

@[simp] theorem rank_next_level (op : BinaryOp) : op.level.next.rank = op.precedence + 1 := by
  cases op <;> rfl

theorem level_ne_unary (op : BinaryOp) : op.level ≠ .unary := by
  cases op <;> decide

theorem Derives.loosen {l k : Level} {ts : List Token} {e : Expr} {d : Nat} (h : Derives k ts e d)
    (hlk : l.rank ≤ k.rank) : Derives l ts e d := by
  have hor : l = k ∨ l.next.rank ≤ k.rank ∧ l.rank < l.next.rank := by
    revert hlk
    cases l <;> cases k <;> decide
  rcases hor with rfl | ⟨hnext, hlt⟩
  · exact h
  · exact .tighter (h.loosen hnext)
termination_by k.rank - l.rank

theorem Derives.under {us : List Token} :
    ∀ {ops : List UnaryOp} {e : Nested}, Derives .unary us e.expr e.depth →
    Derives .unary (ops.reverse.map .unary ++ us) (e.under ops).expr (e.under ops).depth
  | [], _, h => h
  | op :: ops, e, h => by
    have ih : Derives .unary (ops.reverse.map .unary ++ .unary op :: us)
        (Nested.under ⟨.unary op e.expr, e.depth + 1⟩ ops).expr _ := .under (.prefixed op h)
    simpa [Nested.under] using ih

/-! ## What is read is derived -/

/-- Tokens that have led to waiting operators, so that the operand of a level is due. -/
inductive Awaits : Level → List Token → List Waiting → Prop
  | nil : Awaits .or [] []
  | cons {l : Level} {ts us : List Token} {w : Waiting} {ws : List Waiting} (hws : Awaits l ts ws)
    (hw : Derives w.op.level us w.lhs.expr w.lhs.depth) (hl : l.rank ≤ w.op.level.rank) :
    Awaits w.op.level.next (ts ++ us ++ [.binary w.op]) (w :: ws)

/-- Tokens that have led to open parentheses, up to the innermost one. -/
inductive Opens : List Token → List Opened → Prop
  | nil : Opens [] []
  | cons {l : Level} {before ts : List Token} {o : Opened} {os : List Opened} (hos : Opens before os)
    (hws : Awaits l ts o.waiting) :
    Opens (before ++ ts ++ o.prefixes.reverse.map .unary ++ [.openParen]) (o :: os)

/-- Operators of a precedence are completed by what has been read behind them, and no others. -/
theorem complete_sound {p : Nat} :
    ∀ {ws ws' : List Waiting} {e e' : Nested} {l k : Level} {ts us : List Token},
    complete p ws e = .ok (ws', e') → Awaits l ts ws → Derives k us e.expr e.depth →
    l.rank ≤ k.rank → p ≤ k.rank →
      ∃ l' k' ts' us', Awaits l' ts' ws' ∧ Derives k' us' e'.expr e'.depth ∧ ts ++ us = ts' ++ us' ∧
        l'.rank ≤ k'.rank ∧ p ≤ k'.rank ∧ l'.rank ≤ max p 1
  | [], ws', e, e', l, k, ts, us, hc, hws, he, hl, hp => by
    obtain ⟨rfl, rfl⟩ := Prod.mk.inj (Except.ok.inj hc)
    cases hws
    exact ⟨.or, k, [], us, .nil, he, rfl, hl, hp, Nat.le_max_right ..⟩
  | w :: ws, ws', e, e', l, k, ts, us, hc, hws, he, hl, hp => by
    cases hws with
    | @cons l ts vs _ _ hws hw hlw =>
    rw [complete] at hc
    by_cases h : p ≤ w.op.precedence
    · rw [if_pos h] at hc
      dsimp only at hc
      split at hc
      · cases hc
      · have hbinary : Derives w.op.level (vs ++ .binary w.op :: us) (.binary w.op w.lhs.expr e.expr)
            (1 + max w.lhs.depth e.depth) := .binary w.op hw (he.loosen hl)
        have hlevel : p ≤ w.op.level.rank := by simpa using h
        obtain ⟨l', k', ts', us', hws', he', heq, hrest⟩ := complete_sound hc hws hbinary hlw hlevel
        exact ⟨l', k', ts', us', hws', he', by simpa using heq, hrest⟩
    · rw [if_neg h] at hc
      obtain ⟨rfl, rfl⟩ := Prod.mk.inj (Except.ok.inj hc)
      refine ⟨_, k, _, us, .cons hws hw hlw, he, rfl, hl, hp, ?_⟩
      rw [rank_next_level]
      omega

theorem complete_zero_sound {ws ws' : List Waiting} {e e' : Nested} {l k : Level} {ts us : List Token}
    (hc : complete 0 ws e = .ok (ws', e')) (hws : Awaits l ts ws) (he : Derives k us e.expr e.depth)
    (hl : l.rank ≤ k.rank) : Derives .or (ts ++ us) e'.expr e'.depth := by
  obtain ⟨l', k', ts', us', hws', he', heq, -, -, hend⟩ := complete_sound hc hws he hl (Nat.zero_le _)
  cases hws' with
  | nil =>
    rw [heq]
    exact he'.loosen (l := .or) k'.rank_pos
  | @cons _ _ _ w _ _ _ _ =>
    have hpos := w.op.level.rank_pos
    rw [rank_next_level] at hend
    rw [rank_level] at hpos
    omega

mutual

theorem readOperand_sound {ending : Ending} {l : Level} {before ts : List Token} {opened : List Opened}
    {waiting : List Waiting} {prefixes : List UnaryOp} {ls : List Lexeme} {r : Expr}
    (h : readOperand ending opened waiting prefixes ls = .ok r) (hopened : Opens before opened)
    (hwaiting : Awaits l ts waiting) : ending.fault = none ∧
      ∃ d, Derives .or (before ++ ts ++ prefixes.reverse.map .unary ++ ls.map (·.token)) r d := by
  match ls with
  | [] => cases h
  | x :: ls =>
    rw [readOperand] at h
    split at h
    · cases h
    · split at h
      · next op htoken =>
        obtain ⟨hfault, d, hd⟩ := readOperand_sound h hopened hwaiting
        exact ⟨hfault, d, by simpa [htoken] using hd⟩
      · next htoken =>
        obtain ⟨hfault, d, hd⟩ := readOperand_sound h (.cons hopened hwaiting) .nil
        exact ⟨hfault, d, by simpa [htoken] using hd⟩
      · next body htoken =>
        obtain ⟨hfault, d, hd⟩ := readOperator_sound h hopened hwaiting (.under (.string body))
        exact ⟨hfault, d, by simpa [htoken] using hd⟩
      · next text htoken =>
        obtain ⟨hfault, d, hd⟩ := readOperator_sound h hopened hwaiting (.under (.operand text))
        exact ⟨hfault, d, by simpa [htoken] using hd⟩
      · cases h

theorem readOperator_sound {ending : Ending} {l : Level} {before ts us : List Token} {opened : List Opened}
    {waiting : List Waiting} {e : Nested} {ls : List Lexeme} {r : Expr}
    (h : readOperator ending opened waiting e ls = .ok r) (hopened : Opens before opened)
    (hwaiting : Awaits l ts waiting) (he : Derives .unary us e.expr e.depth) : ending.fault = none ∧
      ∃ d, Derives .or (before ++ ts ++ us ++ ls.map (·.token)) r d := by
  match ls with
  | [] =>
    rw [readOperator] at h
    split at h
    · cases h
    · next hfault =>
      obtain ⟨⟨ws', e'⟩, hc, h⟩ := Except.ok_of_bind h
      cases hopened with
      | cons hos hws => cases h
      | nil =>
        obtain rfl := Except.ok.inj h
        exact ⟨hfault, e'.depth, by simpa using complete_zero_sound hc hwaiting he l.rank_le_unary⟩
  | x :: ls =>
    rw [readOperator] at h
    split at h
    · next op htoken =>
      obtain ⟨⟨ws', e'⟩, hc, h⟩ := Except.ok_of_bind h
      have hop : op.precedence ≤ Level.unary.rank := by
        rw [← rank_level]
        exact op.level.rank_le_unary
      have hpos := op.level.rank_pos
      rw [rank_level] at hpos
      obtain ⟨l', k', ts', us', hws', he', heq, -, hk', hend⟩ :=
        complete_sound hc hwaiting he l.rank_le_unary hop
      have hlhs : Derives op.level us' e'.expr e'.depth := he'.loosen (by rwa [rank_level])
      have hl' : l'.rank ≤ op.level.rank := by
        rw [rank_level]
        omega
      obtain ⟨hfault, d, hd⟩ :=
        readOperand_sound h hopened (Awaits.cons (w := ⟨e', op, x.span⟩) hws' hlhs hl')
      refine ⟨hfault, d, ?_⟩
      have htokens : before ++ ts ++ us = before ++ ts' ++ us' := by
        rw [List.append_assoc, heq, List.append_assoc]
      rw [htokens]
      simpa [htoken] using hd
    · next token hbinary =>
      obtain ⟨⟨ws', e'⟩, hc, h⟩ := Except.ok_of_bind h
      have hinner := complete_zero_sound hc hwaiting he l.rank_le_unary
      cases hopened with
      | nil => cases htoken : x.token <;> rw [htoken] at h <;> cases h
      | @cons l' before' ts' o os hos hws =>
        cases htoken : x.token with
        | closeParen =>
          rw [htoken] at h
          have hparens : Derives .unary (.openParen :: (ts ++ us) ++ [.closeParen])
              e'.inParens.expr e'.inParens.depth :=
            .parens hinner
          obtain ⟨hfault, d, hd⟩ := readOperator_sound h hos hws hparens.under
          exact ⟨hfault, d, by simpa [htoken] using hd⟩
        | _ =>
          rw [htoken] at h
          cases h

end

/-! ## What is derived is read -/

/-- The first result is the second one, unless it is a fault of nesting and something is nested `n` deep. -/
def Leads {α : Type} (n : Nat) (x y : ExprResult α) : Prop :=
  x = y ∨ (∃ span, x = .error (.tooDeep, span)) ∧ maxDepth < n

namespace Leads

variable {α β : Type} {m n : Nat} {x y z : ExprResult α}

theorem refl (x : ExprResult α) : Leads n x x :=
  .inl rfl

theorem mono (h : Leads m x y) (hmn : m ≤ n) : Leads n x y :=
  h.imp_right fun h => ⟨h.1, by omega⟩

theorem trans (hxy : Leads n x y) (hyz : Leads n y z) : Leads n x z := by
  rcases hxy with rfl | hxy
  · exact hyz
  · exact .inr hxy

theorem bind (h : Leads n x y) (f : α → ExprResult β) : Leads n (x >>= f) (y >>= f) := by
  rcases h with rfl | ⟨⟨span, rfl⟩, hn⟩
  · exact .refl _
  · exact .inr ⟨⟨span, rfl⟩, hn⟩

end Leads

theorem levels_eq (opened : List Opened) (prefixes : List UnaryOp) :
    levels opened prefixes = levels opened [] + prefixes.length := by
  unfold levels
  induction opened with
  | nil => simp
  | cons o opened ih => rw [List.foldr_cons, List.foldr_cons, ih]; simp [Nat.add_assoc]

theorem levels_cons_op (opened : List Opened) (prefixes : List UnaryOp) (op : UnaryOp) :
    levels opened (op :: prefixes) = levels opened prefixes + 1 := by
  rw [levels_eq, levels_eq opened prefixes, List.length_cons, Nat.add_assoc]

theorem levels_cons_opened (opened : List Opened) (o : Opened) :
    levels (o :: opened) [] = levels opened o.prefixes + 1 := by
  rw [levels_eq opened o.prefixes]
  simp [levels]
  omega

/-- Whatever waits below and at most the operators of a level are completed, the waiting operators
become one operand. -/
def Stands (l : Level) (ws : List Waiting) (e r : Nested) : Prop :=
  ∀ (p : Nat) (below : List Waiting), p ≤ l.rank →
    Leads r.depth (complete p (ws ++ below) e) (complete p below r)

/-- All operators that wait bind less tightly than those of a level. -/
def Below (l : Level) (ws : List Waiting) : Prop :=
  ∀ w ∈ ws.head?, w.op.precedence < l.rank

theorem complete_of_below {op : BinaryOp} {ws : List Waiting} (h : Below op.level ws) (e : Nested) :
    complete op.precedence ws e = .ok (ws, e) := by
  cases ws with
  | nil => rfl
  | cons w ws =>
    have hw : w.op.precedence < op.level.rank := h w rfl
    rw [rank_level] at hw
    rw [complete, if_neg (by omega)]

theorem stands_self {l : Level} (e : Nested) : Stands l [] e e :=
  fun _ _ _ => .refl _

theorem stands_binary {op : BinaryOp} {ws : List Waiting} {a b e : Nested} {span : Span}
    (h : Stands op.level.next ws e b) :
    Stands op.level (ws ++ [⟨a, op, span⟩]) e ⟨.binary op a.expr b.expr, 1 + max a.depth b.depth⟩ := by
  intro p below hp
  rw [rank_level] at hp
  rw [List.append_assoc]
  have hb := h p (⟨a, op, span⟩ :: below) (by rw [rank_next_level]; omega)
  refine (hb.mono ?_).trans ?_
  · show b.depth ≤ 1 + max a.depth b.depth
    omega
  · rw [complete, if_pos hp]
    dsimp only
    split
    · next hdeep => exact .inr ⟨⟨span, rfl⟩, hdeep⟩
    · exact .refl _

/-- The token at the start of an operand is looked at unless there are too many levels around it. -/
theorem readOperand_leads {ending : Ending} {opened : List Opened} {below : List Waiting}
    {prefixes : List UnaryOp} {x : Lexeme} {rest : List Lexeme} {y : ExprResult Expr} {n : Nat}
    (hn : levels opened prefixes < n) (h : ¬ maxDepth < levels opened prefixes →
      Leads n (readOperand ending opened below prefixes (x :: rest)) y) :
    Leads n (readOperand ending opened below prefixes (x :: rest)) y := by
  by_cases hdeep : maxDepth < levels opened prefixes
  · rw [readOperand, if_pos hdeep]
    exact .inr ⟨⟨_, rfl⟩, by omega⟩
  · exact h hdeep

/-- The tokens of a derivation are read, wherever its level is due, as waiting operators and a last
operand that stand for its expression. Behind prefixes only the tightest level is due. -/
theorem reads_of_derives (ending : Ending) {l : Level} {ts : List Token} {e : Expr} {d : Nat}
    (h : Derives l ts e d) :
    ∀ {ls : List Lexeme} (opened : List Opened) (below : List Waiting) (prefixes : List UnaryOp)
      (rest : List Lexeme), ls.map (·.token) = ts → l = .unary ∨ prefixes = [] → Below l below →
        ∃ ws e', Stands l ws e' (Nested.under ⟨e, d⟩ prefixes) ∧
          Leads (levels opened prefixes + d) (readOperand ending opened below prefixes (ls ++ rest))
            (readOperator ending opened (ws ++ below) e' rest) := by
  -- `below` and `opened` are general: an operand on the right is read above its operator, and one in
  -- parentheses above them
  induction h with
  | string body =>
    intro ls opened below prefixes rest hls _ _
    obtain ⟨x, rfl, hx⟩ := List.map_eq_singleton_iff.mp hls
    refine ⟨[], _, stands_self _, readOperand_leads (by omega) fun hdeep => ?_⟩
    rw [readOperand, if_neg hdeep, hx]
    exact .refl _
  | operand text =>
    intro ls opened below prefixes rest hls _ _
    obtain ⟨x, rfl, hx⟩ := List.map_eq_singleton_iff.mp hls
    refine ⟨[], _, stands_self _, readOperand_leads (by omega) fun hdeep => ?_⟩
    rw [readOperand, if_neg hdeep, hx]
    exact .refl _
  | @prefixed op ts e d h ih =>
    intro ls opened below prefixes rest hls _ hbelow
    obtain ⟨x, tail, rfl, hx, htail⟩ := List.map_eq_cons_iff.mp hls
    obtain ⟨ws, e', hstands, hreads⟩ := ih opened below (op :: prefixes) rest htail (.inl rfl) hbelow
    refine ⟨ws, e', hstands, readOperand_leads (by omega) fun hdeep => ?_⟩
    rw [levels_cons_op] at hreads
    show Leads _ (readOperand ending opened below prefixes (x :: (tail ++ rest))) _
    rw [readOperand, if_neg hdeep, hx]
    exact hreads.mono (by omega)
  | @parens ts e d h ih =>
    intro ls opened below prefixes rest hls _ _
    obtain ⟨x, tail, rfl, hx, htail⟩ := List.map_eq_cons_iff.mp hls
    obtain ⟨inner, closing, rfl, hinner, hclosing⟩ := List.map_eq_append_iff.mp htail
    obtain ⟨y, rfl, hy⟩ := List.map_eq_singleton_iff.mp hclosing
    let o : Opened := ⟨below, prefixes, x.span⟩
    obtain ⟨ws, e', hstands, hreads⟩ := ih (o :: opened) [] [] (y :: rest) hinner (.inr rfl) nofun
    rw [levels_cons_opened] at hreads
    refine ⟨[], _, stands_self _, readOperand_leads (by omega) fun hdeep => ?_⟩
    show Leads _ (readOperand ending opened below prefixes (x :: (inner ++ [y] ++ rest))) _
    rw [List.append_assoc, readOperand, if_neg hdeep, hx]
    refine (hreads.mono (by show levels opened prefixes + 1 + d ≤ _; omega)).trans ?_
    rw [readOperator, hy]
    have hcomplete := (hstands 0 [] (Nat.zero_le _)).mono (show d ≤ levels opened prefixes + (d + 1) by omega)
    exact hcomplete.bind _
  | @binary op ts us a b m n ha hb iha ihb =>
    intro ls opened below prefixes rest hls hprefixes hbelow
    obtain rfl := hprefixes.resolve_left (level_ne_unary op)
    obtain ⟨left, tail, rfl, hleft, htail⟩ := List.map_eq_append_iff.mp hls
    obtain ⟨x, right, rfl, hx, hright⟩ := List.map_eq_cons_iff.mp htail
    obtain ⟨ws, e', hstands, hreads⟩ := iha opened below [] (x :: (right ++ rest)) hleft (.inr rfl) hbelow
    let w : Waiting := ⟨⟨a, m⟩, op, x.span⟩
    have habove : Below op.level.next (w :: below) := by
      intro w' hw'
      obtain rfl := Option.some.inj hw'
      rw [rank_next_level]
      exact Nat.lt_succ_self _
    -- where the right operand starts, the operator waits with all of the left one
    obtain ⟨ws', e'', hstands', hreads'⟩ := ihb opened (w :: below) [] rest hright (.inr rfl) habove
    refine ⟨ws' ++ [w], e'', stands_binary hstands', ?_⟩
    rw [List.append_assoc, List.append_assoc]
    refine (hreads.mono (by omega)).trans ?_
    rw [readOperator, hx]
    have hcomplete := hstands op.precedence below (Nat.le_of_eq (rank_level op).symm)
    rw [complete_of_below hbelow] at hcomplete
    refine ((hcomplete.mono ?_).bind _).trans (hreads'.mono (by omega))
    show m ≤ _
    omega
  | @tighter l ts e d h ih =>
    intro ls opened below prefixes rest hls hprefixes hbelow
    have hnext : Below l.next below := fun w hw => Nat.lt_of_lt_of_le (hbelow w hw) l.rank_le_next
    have hprefixes : l.next = .unary ∨ prefixes = [] := hprefixes.imp_left fun h => by rw [h]; rfl
    obtain ⟨ws, e', hstands, hreads⟩ := ih opened below prefixes rest hls hprefixes hnext
    exact ⟨ws, e', fun p below hp => hstands p below (Nat.le_trans hp l.rank_le_next), hreads⟩

theorem readOperand_of_derives {ending : Ending} (hfault : ending.fault = none)
    {ls : List Lexeme} {e : Expr} {d : Nat} (h : Derives .or (ls.map (·.token)) e d) :
    Leads d (readOperand ending [] [] [] ls) (.ok e) := by
  obtain ⟨ws, e', hstands, hreads⟩ := reads_of_derives ending h [] [] [] [] rfl (.inr rfl) nofun
  rw [List.append_nil] at hreads
  have hcomplete := hstands 0 [] (Nat.zero_le _)
  refine (hreads.mono (by simp [levels])).trans ?_
  rw [readOperator, hfault]
  exact hcomplete.bind fun r => .ok r.2.expr

/-! ## The parser -/

@[simp] theorem Error.kind_ofExpr (fault : ExprFault) (source : String) (span : Span) :
    (Error.ofExpr fault source span).kind = .templateSyntax :=
  rfl

@[simp] theorem Error.message_ofExpr_tooDeep (source : String) (span : Span) :
    (Error.ofExpr .tooDeep source span).message = "expression nested too deeply" :=
  rfl

theorem derives_of_parse {source : String} {e : Expr} (h : Expr.parse source = .ok e) :
    ∃ ts d, Lexes source ts ∧ Derives .or ts e d := by
  unfold Expr.parse at h
  dsimp only at h
  split at h
  · next hread =>
    obtain rfl := Except.ok.inj h
    obtain ⟨hfault, d, hd⟩ := readOperand_sound hread .nil .nil
    exact ⟨_, d, ⟨hfault, rfl⟩, by simpa using hd⟩
  · cases h

theorem parse_of_derives {source : String} {ts : List Token} {e : Expr} {d : Nat} (hlexes : Lexes source ts)
    (h : Derives .or ts e d) : Expr.parse source = .ok e ∨
      maxDepth < d ∧ ∃ span, Expr.parse source = .error (.ofExpr .tooDeep source span) := by
  obtain ⟨hfault, rfl⟩ := hlexes
  unfold Expr.parse
  dsimp only
  let ending : Ending := ⟨(Lexemes.read source.toList).fault, byteLength source.toList⟩
  have hleads : Leads d (readOperand ending [] [] [] _) (.ok e) := readOperand_of_derives hfault h
  rcases hleads with hread | ⟨⟨span, hread⟩, hd⟩
  · exact .inl (by rw [hread])
  · exact .inr ⟨hd, span, by rw [hread]⟩

theorem parse_error_kind {source : String} {err : Error} (h : Expr.parse source = .error err) :
    err.kind = .templateSyntax := by
  unfold Expr.parse at h
  dsimp only at h
  split at h
  · cases h
  · obtain rfl := Except.error.inj h
    rfl

/-- A source is read as the expression that it derives, and only sources that derive one are read. What
is derived but not read is nested too deeply, and every refusal is a fault of syntax. -/
theorem parse_iff_derives (source : String) :
    (∀ e, Expr.parse source = .ok e → ∃ ts d, Lexes source ts ∧ Derives .or ts e d) ∧
      (∀ ts e d, Lexes source ts → Derives .or ts e d → d ≤ 128 → Expr.parse source = .ok e) ∧
      ((∀ ts e d, Lexes source ts → ¬ Derives .or ts e d) →
        ∃ err, Expr.parse source = .error err ∧ err.kind = .templateSyntax) ∧
      ∀ ts e d err, Lexes source ts → Derives .or ts e d → Expr.parse source = .error err →
        err.kind = .templateSyntax ∧ err.message = "expression nested too deeply" := by
  refine ⟨fun e => derives_of_parse, ?accepted, ?underived, ?rejected⟩
  case accepted =>
    intro ts e d hlexes h hd
    refine (parse_of_derives hlexes h).resolve_right fun hdeep => ?_
    exact absurd hdeep.1 (Nat.not_lt.mpr hd)
  case underived =>
    intro hnone
    cases hparse : Expr.parse source with
    | ok e =>
      obtain ⟨ts, d, hlexes, h⟩ := derives_of_parse hparse
      exact absurd h (hnone ts e d hlexes)
    | error err => exact ⟨err, rfl, parse_error_kind hparse⟩
  case rejected =>
    intro ts e d err hlexes h hparse
    rcases parse_of_derives hlexes h with hok | ⟨-, span, herror⟩
    · rw [hok] at hparse
      cases hparse
    · obtain rfl := Except.error.inj (herror.symm.trans hparse)
      simp

theorem negated_relation_is_parsed : Expr.parse "!(a < 'x') && !!b" = .ok (.binary .and
    (.unary .not (.binary .lt (.var (.called "a")) (.literal (.string "x"))))
    (.unary .truth (.var (.called "b")))) := by
  have hlexes : Lexes "!(a < 'x') && !!b"
      [.unary .not, .openParen, .operand ['a'], .binary .lt, .string ['x'],
      .closeParen, .binary .and, .unary .truth, .operand ['b']] := by
    constructor <;> decide +kernel
  have hrelation : Derives .relation [.operand ['a'], .binary .lt, .string ['x']]
      (.binary .lt (.var (.called "a")) (.literal (.string "x"))) 2 :=
    .binary .lt (.tighter (.operand ['a'])) (.string ['x'])
  have hnot : Derives .unary
      [.unary .not, .openParen, .operand ['a'], .binary .lt, .string ['x'], .closeParen]
      (.unary .not (.binary .lt (.var (.called "a")) (.literal (.string "x")))) 4 :=
    .prefixed .not (.parens (hrelation.loosen (by decide)))
  have htruth : Derives .unary [.unary .truth, .operand ['b']] (.unary .truth (.var (.called "b"))) 2 :=
    .prefixed .truth (.operand ['b'])
  have hand := Derives.binary .and (hnot.loosen (l := .and) (by decide))
    (htruth.loosen (l := .equality) (by decide))
  exact (parse_iff_derives _).2.1 _ _ _ hlexes (hand.loosen (by decide)) (by decide)

end TemplateTree
