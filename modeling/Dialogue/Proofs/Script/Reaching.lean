import Dialogue.Proofs.Script.Printed
import Mathlib.Tactic.IntervalCases

namespace Dialogue.Script

/-!
# Reading at a rank

What an expression is read as hangs on the token that follows it, for operators, members, indices
and calls go on with what stands before them. So what is said of an expression is where its parser
has come to behind it: into the loop of the operators of its rank, with the expression as what has
been read so far.

* `Parser.Reaches`: what a parser does in front of tokens, by what another one does behind them.
* `Parser.Stops`: what follows goes on with no expression of a rank.
* `Parser.ReadsAlone`, `ReadsTier`, `ReadsChain`, `ReadsAccess`: tokens are read as an expression
  by itself, between operators, before operators, and before members, indices and calls.
-/

namespace Parser

variable {α β : Type}

/-! ### Tokens on one line -/

/-- Tokens that all stand on one line. -/
def onLine (line : Nat) (ts : List Token) : List Located := ts.map fun t => ⟨t, line⟩

@[simp] theorem onLine_cons (line : Nat) (t : Token) (ts : List Token) :
    onLine line (t :: ts) = ⟨t, line⟩ :: onLine line ts := rfl

@[simp] theorem onLine_append (line : Nat) (ts ts' : List Token) :
    onLine line (ts ++ ts') = onLine line ts ++ onLine line ts' := List.map_append

@[simp] theorem length_onLine (line : Nat) (ts : List Token) :
    (onLine line ts).length = ts.length := List.length_map _

/-- A parser runs on from where the first one stopped. -/
theorem bind_apply (p : Parser α) (f : α → Parser β) (c : Cursor) :
    (p >>= f) c = (p c).bind fun r => f r.1 r.2 := rfl

theorem peek_bind (f : Option Token → Parser β) (c : Cursor) :
    (peek >>= f) c = f c.token? c := rfl

/-- A token that does not stand here is not eaten. -/
theorem eat_bind_of_ne {t : Token} {c : Cursor} (h : c.token? ≠ some t) (f : Bool → Parser β) :
    (eat t >>= f) c = f false c := by
  rw [bind_apply, eat, if_neg h]
  rfl

/-- In front of tokens on one line the first parser comes to what the second one does behind them,
if the levels that it needs are left; otherwise it fails for nesting. -/
def Reaches (n line last : Nat) (ts : List Token) (rest : List Located) (need : Nat)
    (p q : Parser α) : Prop :=
  p ⟨onLine line ts ++ rest, last⟩ =
    if need ≤ n then q ⟨rest, line⟩ else .error ⟨line, .nestedTooDeeply⟩

namespace Reaches

variable {n line last need need' : Nat} {ts ts' : List Token} {rest : List Located} {t : Token}
  {a : α} {p : Parser α} {q q' q'' : Parser β}

/-- Parsers that reach each other one after the other need the larger number of levels. -/
theorem trans (h : Reaches n line last ts (onLine line ts' ++ rest) need q q')
    (h' : Reaches n line line ts' rest need' q' q'') :
    Reaches n line last (ts ++ ts') rest (max need need') q q'' := by
  unfold Reaches at h h' ⊢
  rw [onLine_append, List.append_assoc, h, h']
  by_cases hneed : need ≤ n
  · have hmax : max need need' ≤ n ↔ need' ≤ n := by omega
    simp only [hneed, hmax, if_true]
  · have hmax : ¬max need need' ≤ n := by omega
    rw [if_neg hneed, if_neg hmax]

/-- What is done with the result is done behind the tokens. -/
theorem bind (h : Reaches n line last ts rest need p (pure a)) (f : α → Parser β) :
    Reaches n line last ts rest need (p >>= f) (f a) := by
  unfold Reaches at h ⊢
  rw [bind_apply, h]
  split <;> rfl

/-- The second parser starts where the first one came to. -/
theorem andThen (h : Reaches n line last ts (onLine line ts' ++ rest) need p (pure a))
    (f : α → Parser β) (h' : Reaches n line line ts' rest need' (f a) q) :
    Reaches n line last (ts ++ ts') rest (max need need') (p >>= f) q := (h.bind f).trans h'

/-- A result may be turned into another behind the tokens. -/
theorem map (h : Reaches n line last ts rest need p (pure a)) (f : α → β) :
    Reaches n line last ts rest need (f <$> p) (pure (f a)) := by
  unfold Reaches at h ⊢
  show (p _).bind (fun r => .ok (f r.1, r.2)) = _
  rw [h]
  split <;> rfl

/-- Only the tokens and the comparison of levels matter. -/
theorem cast (h : Reaches n line last ts rest need q q') (hts : ts' = ts)
    (hneed : need' ≤ n ↔ need ≤ n) : Reaches n line last ts' rest need' q q' := by
  unfold Reaches at h ⊢
  rw [hts, h]
  simp only [hneed]

/-- The parser begins like another one, and no token is taken off. -/
theorem looks (h : q ⟨onLine line ts ++ rest, last⟩ = q' ⟨onLine line ts ++ rest, last⟩)
    (h' : Reaches n line last ts rest need q' q'') : Reaches n line last ts rest need q q'' :=
  Eq.trans h h'

/-- The parser ends like another one, and no token is taken off. -/
theorem rests (h : Reaches n line last ts rest need q q')
    (h' : q' ⟨rest, line⟩ = q'' ⟨rest, line⟩) : Reaches n line last ts rest need q q'' := by
  unfold Reaches at h ⊢
  rw [h, h']

/-- The parser takes tokens off and goes on like another one. -/
theorem takes (h : q ⟨onLine line ts ++ rest, last⟩ = q' ⟨rest, line⟩) :
    Reaches n line last ts rest 0 q q' := by
  unfold Reaches
  rw [if_pos (Nat.zero_le n)]
  exact h

/-- The parser takes the first token off and goes on like another one. -/
theorem step (next : Parser β)
    (h : q ⟨⟨t, line⟩ :: (onLine line ts ++ rest), last⟩ = next ⟨onLine line ts ++ rest, line⟩)
    (h' : Reaches n line line ts rest need next q') :
    Reaches n line last (t :: ts) rest need q q' := h.trans h'

/-- The parser takes the first tokens off and goes on like another one. -/
theorem steps (ts' : List Token) (next : Parser β)
    (h : q ⟨onLine line ts' ++ (onLine line ts ++ rest), last⟩ =
      next ⟨onLine line ts ++ rest, line⟩)
    (h' : Reaches n line line ts rest need next q') :
    Reaches n line last (ts' ++ ts) rest need q q' := by
  unfold Reaches
  rw [onLine_append, List.append_assoc]
  exact h.trans h'

/-- Where no level is left, the parser stops with the fault. -/
theorem tooDeep (h : ¬need ≤ n) : Reaches n line last (t :: ts) rest need Parser.tooDeep q := by
  unfold Reaches
  rw [if_neg h]
  rfl

/-- With one more level left, one more is needed. -/
theorem succ (h : Reaches n line last ts rest need q q') :
    Reaches (n + 1) line last ts rest (need + 1) q q' := by
  unfold Reaches at h ⊢
  rw [h]
  simp only [Nat.add_le_add_iff_right]

end Reaches

/-! ### What goes on with an expression -/

/-- The rank of what a token makes of the expression that stands before it, if it goes on with
it. -/
def rankBehind? : Token → Option Nat
  | .question => some 0
  | .or => some 1
  | .and => some 2
  | .equal | .notEqual | .strictEqual | .strictNotEqual => some 3
  | .less | .greater | .lessEqual | .greaterEqual => some 4
  | .plus | .minus => some 5
  | .star | .slash | .percent => some 6
  | .dot | .openBracket | .openParen => some 8
  | _ => none

/-- What follows goes on with no expression of a rank, nor of a higher one. -/
def Stops (r : Nat) (rest : List Located) : Prop :=
  ∀ t, rest.head?.map Located.token = some t → ∀ k, rankBehind? t = some k → k < r

/-- What stops at a rank stops at every tighter one. -/
theorem Stops.mono {r r' : Nat} {rest : List Located} (h : Stops r rest) (hr : r ≤ r') :
    Stops r' rest := fun t ht k hk => (h t ht k hk).trans_le hr

/-- A token stops if it binds more loosely than the rank. -/
theorem stops_cons {r line : Nat} {t : Token} {rest : List Located}
    (h : ∀ k, rankBehind? t = some k → k < r) : Stops r (⟨t, line⟩ :: rest) := by
  intro t' ht
  cases ht
  exact h

/-- Some tokens go on with no expression. -/
theorem stops_of_none {r line : Nat} {t : Token} {rest : List Located} (h : rankBehind? t = none) :
    Stops r (⟨t, line⟩ :: rest) := by
  refine stops_cons fun k hk => ?_
  rw [h] at hk
  cases hk

/-- The operators of a rank. -/
def levelOf (r : Nat) : Level := binaryLevels[r - 1]?.getD fun _ => none

/-- Operands with operators between them that bind at least as tightly as a rank. -/
def tier (r : Nat) (operand : Parser Expr) : Parser Expr :=
  (binaryLevels.drop (r - 1)).foldr chain operand

/-- The tiers below the operands are chains. -/
theorem tier_eq {r : Nat} (operand : Parser Expr) (h : 1 ≤ r) (h' : r ≤ 6) :
    tier r operand = chain (levelOf r) (tier (r + 1) operand) := by
  interval_cases r <;> rfl

/-- An operator of a level has the rank of the level behind an expression. -/
theorem rankBehind?_of_levelOf {r : Nat} (h : 1 ≤ r) (h' : r ≤ 6) {t : Token} {combine : Combine}
    (ht : levelOf r t = some combine) : rankBehind? t = some r := by
  interval_cases r <;> cases t <;> first | rfl | cases ht

/-- Each binary operator is found at the level of its rank. -/
theorem levelOf_token (op : BinaryOp) : levelOf op.rank op.token = some (.binary op) := by
  cases op <;> rfl

/-- The operands of all levels are read alike, over some parser for what is behind a prefix
operator. -/
theorem operand_eq (n : Nat) : ∃ below, operand n = operandOver below (expression n) := by
  cases n with
  | zero => exact ⟨tooDeep, rfl⟩
  | succ n => exact ⟨operand n, rfl⟩

/-! ### Loops -/

variable {n line last need need' : Nat} {ts ts' : List Token} {rest : List Located} {t : Token}
  {e e' : Expr}

/-- A chain ends at a token that binds more loosely. -/
theorem chainFrom_stops {r : Nat} (h : 1 ≤ r) (h' : r ≤ 6) (hrest : Stops r rest)
    (operand : Parser Expr) (fuel : List Located) (e : Expr) :
    chainFrom (levelOf r) operand fuel e ⟨rest, line⟩ = .ok (e, ⟨rest, line⟩) := by
  cases fuel with
  | nil => rfl
  | cons _ fuel =>
    have hnone : (rest.head?.map Located.token).bind (levelOf r) = none := by
      cases ht : rest.head?.map Located.token with
      | none => rfl
      | some t =>
        refine Option.eq_none_iff_forall_ne_some.2 fun combine hcombine => ?_
        have := hrest t ht r (rankBehind?_of_levelOf h h' hcombine)
        omega
    rw [chainFrom, peek_bind, Cursor.token?, hnone]
    rfl

/-- A chain goes on over an operator and its right operand. -/
theorem chainFrom_operator {level : Level} {combine : Combine} {operand : Parser Expr}
    {right : Expr} (ht : level t = some combine) (left : Expr) (skipped : Located)
    (fuel : List Located) (h : Reaches n line line ts rest need operand (pure right)) :
    Reaches n line last (t :: ts) rest need (chainFrom level operand (skipped :: fuel) left)
      (chainFrom level operand fuel (combine left right)) := by
  refine .step _ ?_ (h.bind fun right => chainFrom level operand fuel (combine left right))
  have hsome : (⟨⟨t, line⟩ :: (onLine line ts ++ rest), last⟩ : Cursor).token?.bind level =
      some combine := ht
  rw [chainFrom, peek_bind, hsome]
  rfl

/-- The accesses end at a token that is no dot, bracket or parenthesis. -/
theorem accessFrom_stops {inner : Parser Expr} (hrest : Stops 8 rest) (fuel : List Located)
    (e : Expr) : accessFrom inner fuel e ⟨rest, line⟩ = .ok (e, ⟨rest, line⟩) := by
  match fuel, rest with
  | [], _ => rfl
  | _ :: _, [] => rfl
  | _ :: _, ⟨t, _⟩ :: _ =>
    have hlt : ∀ k, rankBehind? t = some k → k < 8 := hrest t rfl
    cases t with
    | dot | openBracket | openParen => exact absurd (hlt 8 rfl) (by decide)
    | _ => rfl

/-! ### Reading at a rank

In all of these the tokens are those of the expression, in parentheses or not, and `need` is the
number of levels that they take. -/

/-- The expression is read where one stands by itself. -/
def ReadsAlone (n : Nat) (ts : List Token) (need : Nat) (e : Expr) : Prop :=
  ∀ line last rest, Stops 0 rest → Reaches n line last ts rest need (expression n) (pure e)

/-- The expression is read where a conditional may stand. -/
def ReadsWhole (n : Nat) (ts : List Token) (need : Nat) (e : Expr) : Prop :=
  ∀ line last rest, Stops 0 rest →
    Reaches n line last ts rest need (conditional (operand n) (expression n)) (pure e)

/-- The expression is read between operators that bind more loosely than a rank. -/
def ReadsTier (n r : Nat) (ts : List Token) (need : Nat) (e : Expr) : Prop :=
  ∀ line last rest, Stops r rest → Reaches n line last ts rest need (tier r (operand n)) (pure e)

/-- The expression is read up to where operators of a rank may follow. -/
def ReadsChain (n r : Nat) (ts : List Token) (need : Nat) (e : Expr) : Prop :=
  ∀ line last rest, Stops (r + 1) rest → ∃ fuel : List Located, rest.length ≤ fuel.length ∧
    Reaches n line last ts rest need (tier r (operand n))
      (chainFrom (levelOf r) (tier (r + 1) (operand n)) fuel e)

/-- The expression is read up to where members, indices and calls may follow. -/
def ReadsAccess (n : Nat) (ts : List Token) (need : Nat) (e : Expr) : Prop :=
  ∀ line last rest, ∃ fuel : List Located, rest.length ≤ fuel.length ∧
    Reaches n line last ts rest need (access (expression n)) (accessFrom (expression n) fuel e)

/-- A primary expression is read up to what may be accessed of it. -/
theorem readsAccess_of_primary
    (h : ∀ line last rest, Reaches n line last ts rest need (primary (expression n)) (pure e)) :
    ReadsAccess n ts need e := fun line last rest =>
  ⟨rest, Nat.le_refl _, (h line last rest).bind _⟩

/-- An access is an operand, unless it begins like a prefix operator. -/
theorem ReadsAccess.tier (h : ReadsAccess n (t :: ts) need e) (ht : unaryOp? t = none) :
    ReadsTier n 7 (t :: ts) need e := by
  intro line last rest hrest
  obtain ⟨fuel, -, hreach⟩ := h line last rest
  obtain ⟨below, hbelow⟩ := operand_eq n
  show Reaches n line last (t :: ts) rest need (operand n) (pure e)
  rw [hbelow]
  -- The first token is no prefix operator, so the operand is read as an access.
  refine .looks ?_ (hreach.rests (accessFrom_stops (hrest.mono (by decide)) fuel e))
  have hnone : (⟨⟨t, line⟩ :: (onLine line ts ++ rest), last⟩ : Cursor).token?.bind unaryOp? =
      none := ht
  rw [onLine_cons, List.cons_append, operandOver, peek_bind, hnone]

/-- What a tier reads begins a chain one rank looser. -/
theorem ReadsTier.chain {r : Nat} (h : ReadsTier n (r + 1) ts need e) (hr : 1 ≤ r) (hr' : r ≤ 6) :
    ReadsChain n r ts need e := by
  intro line last rest hrest
  refine ⟨rest, Nat.le_refl _, ?_⟩
  rw [tier_eq _ hr hr']
  exact (h line last rest hrest).bind _

/-- A chain whose operators are used up is the whole tier. -/
theorem ReadsChain.tier {r : Nat} (h : ReadsChain n r ts need e) (hr : 1 ≤ r) (hr' : r ≤ 6) :
    ReadsTier n r ts need e := by
  intro line last rest hrest
  obtain ⟨fuel, -, hreach⟩ := h line last rest (hrest.mono (Nat.le_succ r))
  exact hreach.rests (chainFrom_stops hr hr' hrest _ fuel e)

/-- What is read at a rank is read at every looser one. -/
theorem ReadsTier.mono {r r' : Nat} (h : ReadsTier n r' ts need e) (hr : 1 ≤ r) (hr' : r ≤ r')
    (htop : r' ≤ 7) : ReadsTier n r ts need e := by
  induction r', hr' using Nat.le_induction with
  | base => exact h
  | succ k hk ih =>
    have hpos : 1 ≤ k := hr.trans hk
    have hlow : k ≤ 6 := by omega
    exact ih ((h.chain hpos hlow).tier hpos hlow) (by omega)

/-- A tier of rank 1 that no question mark follows is a conditional. -/
theorem ReadsTier.whole (h : ReadsTier n 1 ts need e) : ReadsWhole n ts need e := by
  intro line last rest hrest
  refine ((h line last rest (hrest.mono (by decide))).bind _).rests ?_
  have hquestion : (⟨rest, line⟩ : Cursor).token? ≠ some .question := by
    intro hhead
    exact absurd (hrest .question hhead 0 rfl) (by decide)
  exact eat_bind_of_ne hquestion _

/-- Standing by itself takes one level. -/
theorem readsAlone_of_whole (h : ∀ n, ReadsWhole n (t :: ts) need e) (n : Nat) :
    ReadsAlone n (t :: ts) (need + 1) e := by
  intro line last rest hrest
  cases n with
  | zero => exact .tooDeep (Nat.not_succ_le_zero need)
  | succ n => exact (h n line last rest hrest).succ

/-- Parentheses turn what stands by itself into a primary expression. -/
theorem ReadsAlone.enclosed (h : ReadsAlone n ts (need + 1) e) :
    ReadsAccess n (enclosed true ts) (raised true need) e := by
  refine readsAccess_of_primary fun line last rest => ?_
  have hclose : Stops 0 (onLine line [.closeParen] ++ rest) := stops_of_none rfl
  have hread := (h line line _ hclose).bind fun e => expect .closeParen "')'" >>= fun _ => pure e
  exact (Reaches.step _ rfl (hread.trans (.takes rfl))).cast rfl (by simp [raised])

end Parser

end Dialogue.Script
