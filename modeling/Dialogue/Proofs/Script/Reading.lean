import Dialogue.Proofs.Script.Reaching

namespace Dialogue.Script

open Dialogue.Script.Parser

/-!
# Printed expressions are read back

* `Expr.begins`: what the tokens of an expression begin with.
* `Expr.Readable`: an expression is read at every place, in parentheses where the place asks for
  them.
* `Expr.readable`: every expression is.
-/

/-! ### What expressions begin with -/

/-- Tokens begin with one that has a property. -/
def Begins (P : Token → Prop) (ts : List Token) : Prop := ∃ t rest, ts = t :: rest ∧ P t

namespace Begins

variable {P Q : Token → Prop} {ts : List Token}

/-- What comes behind does not change how a list begins. -/
theorem append (h : Begins P ts) (ts' : List Token) : Begins P (ts ++ ts') := by
  obtain ⟨t, rest, rfl, ht⟩ := h
  exact ⟨t, rest ++ ts', rfl, ht⟩

/-- A list begins with what a weaker condition allows. -/
theorem mono (h : Begins P ts) (hPQ : ∀ t, P t → Q t) : Begins Q ts := by
  obtain ⟨t, rest, rfl, ht⟩ := h
  exact ⟨t, rest, rfl, hPQ t ht⟩

/-- Tokens in parentheses begin with the parenthesis. -/
theorem enclosed {needed : Bool} (hopen : P .openParen) (h : needed = false → Begins P ts) :
    Begins P (enclosed needed ts) := by
  cases needed with
  | true => exact ⟨_, _, rfl, hopen⟩
  | false => exact h rfl

end Begins

/-- Whether an expression can begin with a token. -/
def Token.opens : Token → Bool
  | ident _ | text _ | number _ | trueWord | falseWord | nullWord | undefinedWord => true
  | openParen | not | minus | plus => true
  | _ => false

/-- A token may be the first one of an expression of a rank: what binds tightest begins with no
operator. -/
def Token.Heads (r : Nat) (t : Token) : Prop := t.opens ∧ (r = 8 → unaryOp? t = none)

/-- The ranks of the binary operators lie between 3 and 6. -/
theorem BinaryOp.rank_bounds (op : BinaryOp) : 3 ≤ op.rank ∧ op.rank ≤ 6 := by
  cases op <;> decide

namespace Expr

/-- No rank is above 8. -/
theorem rank_le (e : Expr) : e.rank ≤ 8 := by
  cases e with
  | binary op _ _ => exact op.rank_bounds.2.trans (by decide)
  | _ => simp [rank]

variable {e : Expr} {r : Nat}

/-- An expression of the rank asked for, or a tighter one, needs no parentheses. -/
theorem tokensAt_of_le (h : r ≤ e.rank) : e.tokensAt r = e.tokens := by
  simp [tokensAt, enclosed, h]

/-- Nor does it need a level. -/
theorem nestingAt_of_le (h : r ≤ e.rank) : e.nestingAt r = e.nesting := by
  simp [nestingAt, raised, h]

/-- An expression of a looser rank stands in parentheses. -/
theorem tokensAt_of_lt (h : e.rank < r) : e.tokensAt r = enclosed true e.tokens := by
  simp [tokensAt, h]

/-- They take a level. -/
theorem nestingAt_of_lt (h : e.rank < r) : e.nestingAt r = raised true e.nesting := by
  simp [nestingAt, h]

/-- A place that asks for a rank needs as many levels as the expression, or more. -/
theorem nesting_le_nestingAt (e : Expr) (r : Nat) : e.nesting ≤ e.nestingAt r := by
  unfold nestingAt raised
  split
  · exact Nat.le_succ _
  · exact Nat.le_refl _

/-- It needs one level more at most. -/
theorem nestingAt_le (e : Expr) (r : Nat) : e.nestingAt r ≤ e.nesting + 1 := by
  unfold nestingAt raised
  split
  · exact Nat.le_refl _
  · exact Nat.le_succ _

/-- Asking for a tighter rank never needs fewer levels. -/
theorem nestingAt_mono (e : Expr) {r r' : Nat} (h : r ≤ r') : e.nestingAt r ≤ e.nestingAt r' := by
  rcases Nat.lt_or_ge e.rank r with hr | hr
  · rw [nestingAt_of_lt hr, nestingAt_of_lt (hr.trans_le h)]
  · rw [nestingAt_of_le hr]
    exact e.nesting_le_nestingAt r'

/-- What holds of how an expression begins holds of it in parentheses too. -/
theorem begins_at (h : Begins (Token.Heads e.rank) e.tokens) (r : Nat) :
    Begins (Token.Heads r) (e.tokensAt r) := by
  refine .enclosed ⟨rfl, fun _ => rfl⟩ fun hneeded => h.mono fun t ht => ⟨ht.1, fun hr => ht.2 ?_⟩
  have := of_decide_eq_false hneeded
  have := e.rank_le
  omega

/-- What an expression begins with. -/
theorem begins (e : Expr) : Begins (Token.Heads e.rank) e.tokens := by
  match e with
  | .literal value =>
    cases value with
    | bool value => cases value <;> exact ⟨_, _, rfl, rfl, fun _ => rfl⟩
    | _ => exact ⟨_, _, rfl, rfl, fun _ => rfl⟩
  | .name _ => exact ⟨_, _, rfl, rfl, fun _ => rfl⟩
  | .unary op _ => cases op <;> exact ⟨_, _, rfl, rfl, fun h => by cases h⟩
  | .member object _ => exact (begins_at object.begins 8).append _
  | .index object _ => exact (begins_at object.begins 8).append _
  | .call callee _ => exact (begins_at callee.begins 8).append _
  -- An operator of rank 8 would be an access; the binary ones are looser than that.
  | .binary op left _ =>
    refine ((begins_at left.begins op.rank).append _).mono fun t ht => ⟨ht.1, fun h => ?_⟩
    have : op.rank = 8 := h
    have := op.rank_bounds
    omega
  | .and left _ =>
    exact ((begins_at left.begins 2).append _).mono fun t ht => ⟨ht.1, fun h => by cases h⟩
  | .or left _ =>
    exact ((begins_at left.begins 1).append _).mono fun t ht => ⟨ht.1, fun h => by cases h⟩
  | .conditional condition _ _ =>
    exact ((begins_at condition.begins 1).append _).mono fun t ht => ⟨ht.1, fun h => by cases h⟩

/-! ### Reading at every place -/

/-- An expression is read at every place: by itself, before members, indices and calls, and between
operators of each rank. -/
structure Readable (e : Expr) : Prop where
  alone : ∀ n, ReadsAlone n e.tokens (e.nesting + 1) e
  access : ∀ n, ReadsAccess n (e.tokensAt 8) (e.nestingAt 8) e
  tier : ∀ n r, 1 ≤ r → r ≤ 7 → ReadsTier n r (e.tokensAt r) (e.nestingAt r) e
  chain : ∀ n r, 1 ≤ r → r ≤ 6 → ReadsChain n r (e.tokensAt r) (e.nestingAt r) e

namespace Readable

/-- What is read at its own rank and the looser ones is read at the tighter ones too, where it
stands in parentheses. -/
theorem of_own (hwhole : ∀ n, ReadsWhole n e.tokens e.nesting e)
    (haccess : e.rank = 8 → ∀ n, ReadsAccess n e.tokens e.nesting e)
    (htier : ∀ n r, 1 ≤ r → r ≤ 7 → r ≤ e.rank → ReadsTier n r e.tokens e.nesting e)
    (hchain : ∀ n, 1 ≤ e.rank → e.rank ≤ 6 → ReadsChain n e.rank e.tokens e.nesting e) :
    e.Readable := by
  -- At each place the expression is either of the rank asked for or in parentheses.
  have halone : ∀ n, ReadsAlone n e.tokens (e.nesting + 1) e := by
    obtain ⟨t, rest, hts, -⟩ := e.begins
    rw [hts] at hwhole ⊢
    exact readsAlone_of_whole hwhole
  have henclosed : ∀ n r, 1 ≤ r → r ≤ 7 →
      ReadsTier n r (enclosed true e.tokens) (raised true e.nesting) e := fun n r hr hr' =>
    ((halone n).enclosed.tier rfl).mono hr hr' (Nat.le_refl 7)
  refine ⟨halone, fun n => ?_, fun n r hr hr' => ?_, fun n r hr hr' => ?_⟩
  · rcases Nat.lt_or_ge e.rank 8 with h | h
    · rw [tokensAt_of_lt h, nestingAt_of_lt h]
      exact (halone n).enclosed
    · rw [tokensAt_of_le h, nestingAt_of_le h]
      exact haccess (Nat.le_antisymm e.rank_le h) n
  · rcases Nat.lt_or_ge e.rank r with h | h
    · rw [tokensAt_of_lt h, nestingAt_of_lt h]
      exact henclosed n r hr hr'
    · rw [tokensAt_of_le h, nestingAt_of_le h]
      exact htier n r hr hr' h
  -- A chain of the very rank is the expression's own; the other two are chains that have ended.
  · rcases Nat.lt_trichotomy e.rank r with h | rfl | h
    · rw [tokensAt_of_lt h, nestingAt_of_lt h]
      exact (henclosed n (r + 1) (by omega) (by omega)).chain hr hr'
    · rw [tokensAt_of_le (Nat.le_refl _), nestingAt_of_le (Nat.le_refl _)]
      exact hchain n hr hr'
    · rw [tokensAt_of_le h.le, nestingAt_of_le h.le]
      exact (htier n (r + 1) (by omega) (by omega) h).chain hr hr'

/-- An access is read everywhere if it is read as an access. -/
theorem of_access (hrank : e.rank = 8) (h : ∀ n, ReadsAccess n e.tokens e.nesting e) :
    e.Readable := by
  have htop : ∀ n, ReadsTier n 7 e.tokens e.nesting e := by
    obtain ⟨t, rest, hts, ht⟩ := e.begins
    rw [hts] at h ⊢
    exact fun n => (h n).tier (ht.2 hrank)
  have htier : ∀ n r, 1 ≤ r → r ≤ 7 → ReadsTier n r e.tokens e.nesting e := fun n r hr hr' =>
    (htop n).mono hr hr' (Nat.le_refl 7)
  exact of_own (fun n => (htier n 1 (by decide) (by decide)).whole) (fun _ => h)
    (fun n r hr hr' _ => htier n r hr hr') (fun n _ hr' => by omega)

/-- A prefix operator is read everywhere if it is read as an operand. -/
theorem of_operand (hrank : e.rank = 7) (h : ∀ n, ReadsTier n 7 e.tokens e.nesting e) :
    e.Readable := by
  have htier : ∀ n r, 1 ≤ r → r ≤ 7 → ReadsTier n r e.tokens e.nesting e := fun n r hr hr' =>
    (h n).mono hr hr' (Nat.le_refl 7)
  exact of_own (fun n => (htier n 1 (by decide) (by decide)).whole) (fun h => by omega)
    (fun n r hr hr' _ => htier n r hr hr') (fun n _ hr' => by omega)

/-- A chain is read everywhere if it is read as a chain. -/
theorem of_chain (hr : 1 ≤ e.rank) (hr' : e.rank ≤ 6)
    (h : ∀ n, ReadsChain n e.rank e.tokens e.nesting e) : e.Readable := by
  have htier : ∀ n k, 1 ≤ k → k ≤ e.rank → ReadsTier n k e.tokens e.nesting e := fun n k hk hk' =>
    ((h n).tier hr hr').mono hk hk' (by omega)
  exact of_own (fun n => (htier n 1 (by decide) hr).whole) (fun h => by omega)
    (fun n k hk _ hk' => htier n k hk hk') (fun n _ _ => h n)

/-- A conditional is read everywhere if it is read where one may stand. -/
theorem of_whole (hrank : e.rank = 0) (h : ∀ n, ReadsWhole n e.tokens e.nesting e) :
    e.Readable :=
  of_own h (fun h => by omega) (fun n r hr _ h => by omega) (fun n hr => by omega)

end Readable

end Expr

/-! ### Members, indices and calls -/

namespace Parser

variable {n line last need need' : Nat} {ts ts' : List Token} {rest : List Located} {t : Token}
  {e e' : Expr}

/-- Fuel for some tokens and what follows them lasts for one step more than for what follows. -/
theorem exists_fuel {fuel : List Located} (hne : ts' ≠ [])
    (h : (onLine line ts' ++ rest).length ≤ fuel.length) :
    ∃ skipped fuel', fuel = skipped :: fuel' ∧ rest.length ≤ fuel'.length := by
  -- The tokens are not empty, so there is a token of fuel for them.
  have hpos := List.length_pos_iff.2 hne
  rw [List.length_append, length_onLine] at h
  cases fuel with
  | nil =>
    rw [List.length_nil] at h
    omega
  | cons skipped fuel =>
    rw [List.length_cons] at h
    exact ⟨skipped, fuel, rfl, by omega⟩

/-- Behind an expression one more member, index or call is read. -/
theorem ReadsAccess.extend (h : ReadsAccess n ts need e) (hne : ts' ≠ [])
    (hstep : ∀ line rest skipped fuel, Reaches n line line ts' rest need'
      (accessFrom (expression n) (skipped :: fuel) e) (accessFrom (expression n) fuel e')) :
    ReadsAccess n (ts ++ ts') (max need need') e' := by
  intro line last rest
  obtain ⟨fuel, hfuel, hreach⟩ := h line last (onLine line ts' ++ rest)
  obtain ⟨skipped, fuel, rfl, hleft⟩ := exists_fuel hne hfuel
  exact ⟨fuel, hleft, hreach.trans (hstep line rest skipped fuel)⟩

/-- A member: its dot and its name. -/
theorem accessFrom_member (property : String) (line : Nat) (rest : List Located)
    (skipped : Located) (fuel : List Located) :
    Reaches n line line [.dot, .ident property] rest 0
      (accessFrom (expression n) (skipped :: fuel) e)
      (accessFrom (expression n) fuel (.member e property)) :=
  .step (takeName .expectedPropertyName >>= fun property =>
    accessFrom (expression n) fuel (.member e property)) rfl (.takes rfl)

/-- An index: its brackets, and an expression that stands by itself. -/
theorem accessFrom_index {i : Expr} (hi : i.Readable) (line : Nat) (rest : List Located)
    (skipped : Located) (fuel : List Located) :
    Reaches n line line (.openBracket :: (i.tokens ++ [.closeBracket])) rest (i.nesting + 1)
      (accessFrom (expression n) (skipped :: fuel) e)
      (accessFrom (expression n) fuel (.index e i)) := by
  have hclose : Stops 0 (onLine line [.closeBracket] ++ rest) := stops_of_none rfl
  have hread := (hi.alone n line line _ hclose).bind fun i =>
    expect .closeBracket "']'" >>= fun _ => accessFrom (expression n) fuel (.index e i)
  exact (Reaches.step _ rfl (hread.trans (.takes rfl))).cast rfl (by simp)

/-- Behind an argument there is a comma or the closing parenthesis. -/
theorem stops_moreTokens (line : Nat) (rest : List Located) (args : List Expr) :
    Stops 0 (onLine line (Expr.moreTokens args ++ [.closeParen]) ++ rest) := by
  cases args <;> exact stops_of_none rfl

/-- The arguments behind the first are read up to the closing parenthesis. -/
theorem argumentsFrom_reaches {args : List Expr} (hargs : ∀ a ∈ args, a.Readable)
    {fuel : List Located} (hfuel : (Expr.moreTokens args).length < fuel.length) :
    Reaches n line last (Expr.moreTokens args ++ [.closeParen]) rest (Expr.listNesting args)
      (argumentsFrom (expression n) fuel) (pure args) := by
  -- Each argument takes at least its comma off, so the fuel lasts as long as there are arguments.
  induction args generalizing fuel last with
  | nil =>
    cases fuel with
    | nil => exact absurd hfuel (Nat.not_lt_zero _)
    | cons skipped fuel => exact .takes rfl
  | cons a args ih =>
    obtain ⟨ha, hargs⟩ := List.forall_mem_cons.1 hargs
    cases fuel with
    | nil => exact absurd hfuel (Nat.not_lt_zero _)
    | cons skipped fuel =>
      have hlength : (Expr.moreTokens args).length < fuel.length := by
        simp only [Expr.moreTokens, List.length_cons, List.length_append] at hfuel
        omega
      have hread := (ha.alone n line line _ (stops_moreTokens line rest args)).bind fun next =>
        argumentsFrom (expression n) fuel >>= fun more => pure (next :: more)
      refine (Reaches.step _ ?_ (hread.trans ((ih hargs hlength).bind _))).cast
        (by rw [Expr.moreTokens, List.cons_append, List.append_assoc]) Iff.rfl
      rfl

/-- All arguments are read up to the closing parenthesis. -/
theorem arguments_reaches {args : List Expr} (hargs : ∀ a ∈ args, a.Readable) :
    Reaches n line last (Expr.listTokens args ++ [.closeParen]) rest (Expr.listNesting args)
      (arguments (expression n)) (pure args) := by
  cases args with
  | nil => exact .takes rfl
  | cons a args =>
    obtain ⟨ha, hargs⟩ := List.forall_mem_cons.1 hargs
    have hfuel : (Expr.moreTokens args).length <
        (onLine line (Expr.moreTokens args ++ [.closeParen]) ++ rest).length := by
      simp only [List.length_append, length_onLine, List.length_cons]
      omega
    have hmore : Reaches n line line (Expr.moreTokens args ++ [.closeParen]) rest
        (Expr.listNesting args) (argumentsFrom (expression n) _) (pure args) :=
      argumentsFrom_reaches hargs hfuel
    have hread := (ha.alone n line last _ (stops_moreTokens line rest args)).bind fun first =>
      remaining >>= fun fuel => argumentsFrom (expression n) fuel >>= fun more =>
        pure (first :: more)
    refine (Reaches.looks ?_ (hread.trans (.looks rfl (hmore.bind fun more =>
      pure (a :: more))))).cast (by rw [Expr.listTokens, List.append_assoc]) Iff.rfl
    -- What an argument begins with is no closing parenthesis.
    obtain ⟨t, ts, hts, ht, -⟩ := a.begins
    rw [hts]
    refine eat_bind_of_ne (fun h => ?_) _
    cases h
    cases ht

/-- A call: its parentheses and its arguments. -/
theorem accessFrom_call {args : List Expr} (hargs : ∀ a ∈ args, a.Readable) (line : Nat)
    (rest : List Located) (skipped : Located) (fuel : List Located) :
    Reaches n line line (.openParen :: (Expr.listTokens args ++ [.closeParen])) rest
      (Expr.listNesting args) (accessFrom (expression n) (skipped :: fuel) e)
      (accessFrom (expression n) fuel (.call e args)) :=
  .step (arguments (expression n) >>= fun args => accessFrom (expression n) fuel (.call e args)) rfl
    ((arguments_reaches hargs).bind _)

/-! ### Operators -/

/-- Behind an expression one more operator of a rank is read. -/
theorem ReadsChain.extend {r : Nat} {combine : Combine} {left right : Expr}
    (h : ReadsChain n r ts need left) (ht : levelOf r t = some combine) (hr : 1 ≤ r) (hr' : r ≤ 6)
    (hright : ReadsTier n (r + 1) ts' need' right) :
    ReadsChain n r (ts ++ t :: ts') (max need need') (combine left right) := by
  intro line last rest hrest
  -- The left side ends at the operator, as the operator binds no tighter than its own rank.
  have hstops : Stops (r + 1) (onLine line (t :: ts') ++ rest) := stops_cons fun k hk => by
    rw [rankBehind?_of_levelOf hr hr' ht] at hk
    cases hk
    omega
  obtain ⟨fuel, hfuel, hreach⟩ := h line last _ hstops
  obtain ⟨skipped, fuel, rfl, hleft⟩ := exists_fuel (List.cons_ne_nil t ts') hfuel
  exact ⟨fuel, hleft,
    hreach.trans (chainFrom_operator ht left skipped fuel (hright line line rest hrest))⟩

/-- A prefix operator takes a level of its own, and its operand stands at rank 7. -/
theorem readsTier_unary (op : UnaryOp) (he : e.Readable) (n : Nat) :
    ReadsTier n 7 (op.token :: e.tokensAt 7) (e.nestingAt 7 + 1) (.unary op e) := by
  intro line last rest hrest
  have htoken : ∀ (below inner : Parser Expr) (c : List Located),
      operandOver below inner ⟨⟨op.token, line⟩ :: c, last⟩ =
        (below >>= fun e => pure (Expr.unary op e)) ⟨c, line⟩ := by
    intro below inner c
    cases op <;> rfl
  -- Without a level left both sides stop; with one, the operand is read at the level below.
  cases n with
  | zero =>
    obtain ⟨t, ts, hts, -⟩ := Expr.begins_at e.begins 7
    rw [hts]
    exact .step _ (htoken tooDeep tooDeep _) ((Reaches.tooDeep (Nat.not_succ_le_zero _)).bind _)
  | succ n =>
    have hread := (he.tier n 7 (by decide) (by decide) line line rest hrest).succ.bind fun e =>
      pure (Expr.unary op e)
    exact .step _ (htoken (operand n) (expression (n + 1)) _) hread

end Parser

namespace Expr

/-! ### Every expression is read -/

/-- What an operator makes of two operands is read, if it is written between them. -/
theorem readable_operator {r : Nat} {t : Token} {combine : Combine} {left right : Expr}
    (hpos : 1 ≤ r) (hhigh : r ≤ 6) (ht : levelOf r t = some combine)
    (hrank : (combine left right).rank = r)
    (htokens : (combine left right).tokens = left.tokensAt r ++ t :: right.tokensAt (r + 1))
    (hnesting : (combine left right).nesting =
      max (left.nestingAt r) (right.nestingAt (r + 1)))
    (hl : left.Readable) (hr : right.Readable) : (combine left right).Readable := by
  subst hrank
  refine .of_chain hpos hhigh fun n => ?_
  rw [htokens, hnesting]
  -- The left operand stands at the rank itself, the right one a rank tighter.
  exact (hl.chain n _ hpos hhigh).extend ht hpos hhigh
    (hr.tier n _ (Nat.le_succ_of_le hpos) (Nat.succ_le_succ hhigh))

/-- A binary operator joins two readable operands. -/
theorem readable_binary (op : BinaryOp) {left right : Expr} (hl : left.Readable)
    (hr : right.Readable) : (binary op left right).Readable := by
  obtain ⟨hlow, hhigh⟩ := op.rank_bounds
  exact readable_operator (hlow.trans' (by decide)) hhigh (levelOf_token op) rfl rfl rfl hl hr

/-- So does a conjunction. -/
theorem readable_and {left right : Expr} (hl : left.Readable) (hr : right.Readable) :
    (and left right).Readable :=
  readable_operator (r := 2) (t := .and) (by decide) (by decide) rfl rfl rfl rfl hl hr

/-- So does a disjunction. -/
theorem readable_or {left right : Expr} (hl : left.Readable) (hr : right.Readable) :
    (or left right).Readable :=
  readable_operator (r := 1) (t := .or) (by decide) (by decide) rfl rfl rfl rfl hl hr

/-- A conditional: its condition is a tier, its branches stand by themselves. -/
theorem readable_conditional {condition yes no : Expr} (hc : condition.Readable)
    (hy : yes.Readable) (hn : no.Readable) : (conditional condition yes no).Readable := by
  refine .of_whole rfl fun n line last rest hrest => ?_
  have hquestion :
      Stops 1 (onLine line (.question :: (yes.tokens ++ .colon :: no.tokens)) ++ rest) :=
    stops_cons fun k hk => by cases hk; decide
  have hcolon : Stops 0 (onLine line (.colon :: no.tokens) ++ rest) :=
    stops_of_none rfl
  -- From the right to the left, as each part is followed by what stands behind it.
  have hno := (hn.alone n line line rest hrest).bind fun no =>
    pure (conditional condition yes no)
  have hyes := (hy.alone n line line _ hcolon).bind fun yes =>
    expect .colon "':' in conditional expression" >>= fun _ =>
      expression n >>= fun no => pure (conditional condition yes no)
  have hcondition := (hc.tier n 1 (by decide) (by decide) line last _ hquestion).bind fun c => do
    if ← eat .question then
      let yes ← expression n
      expect .colon "':' in conditional expression"
      let no ← expression n
      return conditional c yes no
    else return c
  exact hcondition.trans (.step _ rfl (hyes.trans (.step _ rfl hno)))

mutual

/-- Every expression is read at every place. -/
theorem readable (e : Expr) : e.Readable := by
  match e with
  | .literal value =>
    refine .of_access rfl fun n => readsAccess_of_primary fun line last rest => .takes ?_
    cases value with
    | bool value => cases value <;> rfl
    | _ => rfl
  | .name _ =>
    exact .of_access rfl fun n => readsAccess_of_primary fun line last rest => .takes rfl
  | .member object property =>
    refine .of_access rfl fun n => ?_
    have h := (object.readable.access n).extend (by simp)
      (fun line rest => accessFrom_member property line rest)
    rwa [Nat.max_zero] at h
  | .index object i =>
    exact .of_access rfl fun n => (object.readable.access n).extend (by simp)
      fun line rest => accessFrom_index i.readable line rest
  | .call callee args =>
    exact .of_access rfl fun n => (callee.readable.access n).extend (by simp)
      fun line rest => accessFrom_call (allReadable args) line rest
  | .unary op operand => exact .of_operand rfl (readsTier_unary op operand.readable)
  | .binary op left right => exact readable_binary op left.readable right.readable
  | .and left right => exact readable_and left.readable right.readable
  | .or left right => exact readable_or left.readable right.readable
  | .conditional condition yes no =>
    exact readable_conditional condition.readable yes.readable no.readable

/-- All expressions of a list are read at every place. -/
theorem allReadable (es : List Expr) : ∀ e ∈ es, e.Readable := by
  match es with
  | [] => exact List.forall_mem_nil _
  | e :: rest => exact List.forall_mem_cons.2 ⟨e.readable, allReadable rest⟩

end

end Expr

end Dialogue.Script
