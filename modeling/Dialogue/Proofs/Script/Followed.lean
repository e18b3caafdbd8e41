import Dialogue.Proofs.Script.Accepted

namespace Dialogue.Script

/-!
# Expressions in front of other tokens

An expression that takes up all tokens is read in the same way if a closing parenthesis follows it,
for no expression goes on with one. How many levels are left matters only for whether it is read at
all.

* `Parser.Agrees`: two parsers, the second one in front of more tokens, come to the same result if
  they come to any.
* `Parser.expression_agrees`: parsers of expressions do, whatever levels are left to them.
-/

/-- The cursor with more tokens behind those in front of it. -/
def Cursor.before (c : Cursor) (tail : List Located) : Cursor := ⟨c.rest ++ tail, c.lastLine⟩

namespace Parser

variable {α β : Type} {c : Cursor} {tail : List Located}

/-- What follows is nothing, or begins with a closing parenthesis. -/
def Closes (tail : List Located) : Prop :=
  ∀ t, tail.head?.map Located.token = some t → t = .closeParen

/-! ### Two parsers side by side -/

/-- Two parsers succeed one after the other. -/
theorem bind_eq_ok_iff {p : Parser α} {f : α → Parser β} {r : β × Cursor} :
    (p >>= f) c = .ok r ↔ ∃ a c', p c = .ok (a, c') ∧ f a c' = .ok r := by
  rw [bind_apply]
  cases hp : p c with
  | error e => simp [Except.bind]
  | ok s =>
    constructor
    · exact fun h => ⟨s.1, s.2, rfl, h⟩
    · rintro ⟨a, c', heq, h⟩
      cases heq
      exact h

/-- If both parsers come to a result, the second one with more tokens behind those of the first,
then it is the same result, and in front of the same tokens but for those that are more. -/
def Agrees (tail : List Located) (c : Cursor) (p q : Parser α) : Prop :=
  ∀ a c₁, p c = .ok (a, c₁) → ∀ b c₂, q (c.before tail) = .ok (b, c₂) → b = a ∧ c₂ = c₁.before tail

namespace Agrees

variable {p q : Parser α} {f g : α → Parser β}

/-- Returning agrees with itself. -/
theorem pure (a : α) : Agrees tail c (Pure.pure a) (Pure.pure a) := by
  rintro _ _ ⟨⟩ _ _ ⟨⟩
  exact ⟨rfl, rfl⟩

/-- A parser that fails agrees with every other one. -/
theorem of_fails (h : ∀ a c', p c ≠ .ok (a, c')) : Agrees tail c p q :=
  fun a c₁ hp => absurd hp (h a c₁)

/-- Where the longer parser fails, nothing is asked. -/
theorem of_fails_before (h : ∀ b c', q (c.before tail) ≠ .ok (b, c')) : Agrees tail c p q :=
  fun _ _ _ b c₂ hq => absurd hq (h b c₂)

/-- What agrees may be followed by what agrees behind it. -/
theorem bind (h : Agrees tail c p q)
    (hf : ∀ a c', p c = .ok (a, c') → Agrees tail c' (f a) (g a)) :
    Agrees tail c (p >>= f) (q >>= g) := by
  intro b c₁ hp b' c₂ hq
  obtain ⟨a, c', ha, hb⟩ := bind_eq_ok_iff.1 hp
  obtain ⟨a', c'', ha', hb'⟩ := bind_eq_ok_iff.1 hq
  obtain ⟨rfl, rfl⟩ := h a c' ha a' c'' ha'
  exact hf a' c' ha b c₁ hb b' c₂ hb'

/-- Both begin like others. -/
theorem congr (p' q' : Parser α) (hp : p c = p' c) (hq : q (c.before tail) = q' (c.before tail))
    (h : Agrees tail c p' q') : Agrees tail c p q := by
  unfold Agrees at h ⊢
  rwa [hp, hq]

end Agrees

/-- Faults agree, whatever they say. -/
theorem agrees_fault (f f' : SyntaxFault) : Agrees tail c (fault f : Parser α) (fault f') :=
  .of_fails fun _ _ h => by cases h

/-- A missing token on the left agrees with anything. -/
theorem agrees_expected_left (what : String) {q : Parser α} : Agrees tail c (expected what) q :=
  .of_fails fun _ _ h => by cases h

/-- So does one on the right. -/
theorem agrees_expected_right (what : String) {p : Parser α} : Agrees tail c p (expected what) :=
  .of_fails_before fun _ _ h => by cases h

/-! ### Single tokens -/

/-- The next token is the same with more tokens behind. -/
theorem token?_before {t : Token} (h : c.token? = some t) : (c.before tail).token? = some t := by
  obtain ⟨rest, last⟩ := c
  cases rest with
  | nil => cases h
  | cons t' rest => exact h

/-- A token that has been looked at is taken off by both. -/
theorem Agrees.step {t : Token} {f g : Unit → Parser β} (ht : c.token? = some t)
    (h : Agrees tail c.next (f ()) (g ())) : Agrees tail c (advance >>= f) (advance >>= g) := by
  obtain ⟨rest, last⟩ := c
  cases rest with
  | nil => cases ht
  | cons t' rest => exact h

/-- Going on is the same with more tokens behind. -/
theorem next_before {t : Token} (h : c.token? = some t) :
    (c.before tail).next = c.next.before tail := by
  obtain ⟨rest, last⟩ := c
  cases rest with
  | nil => cases h
  | cons t' rest => rfl

/-- The token that stands here is eaten. -/
theorem eat_of_token {t : Token} (h : c.token? = some t) : eat t c = .ok (true, c.next) := by
  rw [eat, if_pos h]

/-- Any other one is not. -/
theorem eat_of_ne {t : Token} (h : c.token? ≠ some t) : eat t c = .ok (false, c) := by
  rw [eat, if_neg h]

/-- Both take the token off, or neither does, unless the first parser stands at the end and the
token is the first one that is more. -/
theorem agrees_eat {t : Token} (hend : c.token? = none → (c.before tail).token? ≠ some t) :
    Agrees tail c (eat t) (eat t) := by
  intro found c₁ hp found' c₂ hq
  -- Either the token is there for both, or it is there for neither: `hend` covers the end of the
  -- first list.
  by_cases hc : c.token? = some t
  · rw [eat_of_token hc] at hp
    rw [eat_of_token (token?_before hc), next_before hc] at hq
    cases hp
    cases hq
    exact ⟨rfl, rfl⟩
  · have hne : (c.before tail).token? ≠ some t := by
      cases htoken : c.token? with
      | none => exact hend htoken
      | some u => rwa [token?_before htoken, ← htoken]
    rw [eat_of_ne hc] at hp
    rw [eat_of_ne hne] at hq
    cases hp
    cases hq
    exact ⟨rfl, rfl⟩

/-- The token that must be there is taken. -/
theorem expect_of_token {t : Token} (h : c.token? = some t) (what : String) :
    expect t what c = .ok ((), c.next) := by
  rw [expect, bind_apply, eat_of_token h]
  rfl

/-- Any other one is missed. -/
theorem expect_of_ne {t : Token} (h : c.token? ≠ some t) (what : String) :
    expect t what c = expected what c := by
  rw [expect, eat_bind_of_ne h]
  rfl

/-- What the first parser takes off is there for both. -/
theorem agrees_expect (t : Token) (what : String) :
    Agrees tail c (expect t what) (expect t what) := by
  -- Where the token is missing, the shorter parser fails, and nothing is asked.
  by_cases hc : c.token? = some t
  · rintro ⟨⟩ c₁ hp ⟨⟩ c₂ hq
    rw [expect_of_token hc] at hp
    rw [expect_of_token (token?_before hc), next_before hc] at hq
    cases hp
    cases hq
    exact ⟨rfl, rfl⟩
  · refine .of_fails fun _ _ h => ?_
    rw [expect_of_ne hc] at h
    cases h

/-- Where there is a next token both look at it; where there is none, the first parser fails. -/
theorem Agrees.peek {f g : Option Token → Parser β}
    (hend : c.token? = none → ∀ b c', f none c ≠ .ok (b, c'))
    (h : ∀ t, c.token? = some t → Agrees tail c (f (some t)) (g (some t))) :
    Agrees tail c (Parser.peek >>= f) (Parser.peek >>= g) := by
  -- At the end of the shorter list its parser fails, by `hend`.
  cases hc : c.token? with
  | none =>
    refine .of_fails fun b c' hp => ?_
    rw [peek_bind, hc] at hp
    exact hend hc b c' hp
  | some t =>
    refine .congr (f (some t)) (g (some t)) ?_ ?_ (h t hc)
    · rw [peek_bind, hc]
    · rw [peek_bind, token?_before hc]

/-- A name is read alike. -/
theorem agrees_takeName (f : SyntaxFault) : Agrees tail c (takeName f) (takeName f) := by
  refine .peek (fun _ _ _ h => by cases h) fun t ht => ?_
  split
  · exact .step ht (.pure _)
  · exact .step ht (agrees_fault _ _)

/-! ### Operands -/

section Operands

variable {n : Nat} {inner inner' below below' operand operand' : Parser Expr}

/-- A parser leaves no more tokens than there were. -/
theorem length_le_of_yields {P : α → Nat → Prop} {p : Parser α} (h : Yields c p P) {a : α}
    {c' : Cursor} (hp : p c = .ok (a, c')) : c'.rest.length ≤ c.rest.length := by
  obtain ⟨k, hk, -⟩ := h a c' hp
  omega

/-- No expression is read where there is no token. -/
theorem fails_at_end (h : ∀ c, Yields c inner (WithinAlone n)) (hc : c.token? = none) (e : Expr)
    (c' : Cursor) : inner c ≠ .ok (e, c') := by
  intro he
  obtain ⟨k, hk, -, hdepth⟩ := h c e c' he
  obtain ⟨rest, last⟩ := c
  cases rest with
  | cons t rest => cases hc
  | nil =>
    have hpos : 1 ≤ e.depth := by cases e <;> simp [Expr.depth]
    have hzero : 0 = k + c'.rest.length := hk
    omega

/-- Primary expressions agree. -/
theorem agrees_primary (hinner : ∀ c, Agrees tail c inner inner') :
    Agrees tail c (primary inner) (primary inner') := by
  refine .peek (fun _ _ _ h => by cases h) fun t ht => ?_
  split
  case h_1 => exact agrees_fault _ _
  case h_2 =>
    exact .step ht ((hinner _).bind fun e _ _ => (agrees_expect _ _).bind fun _ _ _ => .pure e)
  case h_3 => exact .step ht (.pure _)
  case h_4 =>
    split
    · exact .step ht (.pure _)
    · exact agrees_fault _ _

/-- Arguments end with a closing parenthesis, so both parsers find the same one. -/
theorem agrees_argumentsFrom (hinner : ∀ c, Agrees tail c inner inner')
    (fuel fuel' : List Located) :
    Agrees tail c (argumentsFrom inner fuel) (argumentsFrom inner' fuel') := by
  induction fuel generalizing fuel' c with
  | nil => exact agrees_expected_left _
  | cons _ fuel ih =>
    cases fuel' with
    | nil => exact agrees_expected_right _
    | cons _ fuel' =>
      cases hc : c.token? with
      | none =>
        -- There is no parenthesis for the first parser, and no comma either.
        refine .of_fails fun _ _ h => ?_
        rw [argumentsFrom, eat_bind_of_ne (by rw [hc]; simp)] at h
        obtain ⟨_, _, hcomma, -⟩ := bind_eq_ok_iff.1 h
        rw [expect_of_ne (by rw [hc]; simp)] at hcomma
        cases hcomma
      | some t =>
        refine (agrees_eat fun h => by cases hc.symm.trans h).bind fun found c' _ => ?_
        cases found with
        | true => exact .pure []
        | false =>
          exact (agrees_expect _ _).bind fun _ _ _ => (hinner _).bind fun next _ _ =>
            (ih fuel').bind fun more _ _ => .pure (next :: more)

/-- Arguments agree: the closing parenthesis is among the tokens of both. -/
theorem agrees_arguments (hinner : ∀ c, Agrees tail c inner inner')
    (hyields : ∀ c, Yields c inner (WithinAlone n)) :
    Agrees tail c (arguments inner) (arguments inner') := by
  cases hc : c.token? with
  | none =>
    refine .of_fails fun _ _ h => ?_
    rw [arguments, eat_bind_of_ne (by rw [hc]; simp)] at h
    obtain ⟨e, c', he, -⟩ := bind_eq_ok_iff.1 h
    exact fails_at_end hyields hc e c' he
  | some t =>
    refine (agrees_eat fun h => by cases hc.symm.trans h).bind fun found c' _ => ?_
    cases found with
    | true => exact .pure []
    | false =>
      refine (hinner _).bind fun first c' _ => ?_
      refine .congr (argumentsFrom inner c'.rest >>= fun more => Pure.pure (first :: more))
        (argumentsFrom inner' (c'.before tail).rest >>= fun more => Pure.pure (first :: more))
        rfl rfl ?_
      exact (agrees_argumentsFrom hinner _ _).bind fun more _ _ => .pure (first :: more)

/-- With nothing in front of it, the first parser has read all of the expression. The second one
stops there, too. -/
theorem stops_at_end (htail : Closes tail) (r : Nat) : Stops r [] ∧ Stops r tail := by
  constructor
  · exact fun t ht => by cases ht
  · intro t ht k hk
    rw [htail t ht] at hk
    cases hk

/-- Where the tokens end, no access follows in either list. -/
theorem agrees_accessFrom_end (htail : Closes tail) (fuel fuel' : List Located) (e : Expr)
    (last : Nat) : Agrees tail ⟨[], last⟩ (accessFrom inner fuel e) (accessFrom inner' fuel' e) :=
  .congr (Pure.pure e) (Pure.pure e) (accessFrom_stops (stops_at_end htail 8).1 fuel e)
    (accessFrom_stops (stops_at_end htail 8).2 fuel' e) (.pure e)

/-- Accesses agree, given enough rounds on both sides. -/
theorem agrees_accessFrom (htail : Closes tail) (hinner : ∀ c, Agrees tail c inner inner')
    (hyields : ∀ c, Yields c inner (WithinAlone n)) {fuel fuel' : List Located}
    (hfuel : c.rest.length ≤ fuel.length) (hfuel' : c.rest.length ≤ fuel'.length) (e : Expr) :
    Agrees tail c (accessFrom inner fuel e) (accessFrom inner' fuel' e) := by
  -- On the rounds of the shorter parser; those of the other are at least as many as tokens.
  induction fuel generalizing fuel' c e with
  | nil =>
    obtain ⟨rest, last⟩ := c
    cases rest with
    | cons t rest => exact absurd hfuel (Nat.not_succ_le_zero _)
    | nil => exact agrees_accessFrom_end htail _ _ e last
  | cons skipped fuel ih =>
    obtain ⟨rest, last⟩ := c
    cases rest with
    | nil => exact agrees_accessFrom_end htail _ _ e last
    | cons t rest =>
      cases fuel' with
      | nil => exact absurd hfuel' (Nat.not_succ_le_zero _)
      | cons skipped' fuel' =>
        have hlength : rest.length ≤ fuel.length := Nat.le_of_succ_le_succ hfuel
        have hlength' : rest.length ≤ fuel'.length := Nat.le_of_succ_le_succ hfuel'
        refine .peek (fun h => by cases h) fun u hu => ?_
        split
        case h_1 =>
          refine .step hu ((agrees_takeName _).bind fun property c' hname => ?_)
          have hle := length_le_of_yields (takeName_yields _) hname
          exact ih (hle.trans hlength) (hle.trans hlength') _
        case h_2 =>
          refine .step hu ((hinner _).bind fun index c' hindex => (agrees_expect _ _).bind
            fun _ c'' hclose => ?_)
          have hle := length_le_of_yields (hyields _) hindex
          have hle' := length_le_of_yields (expect_yields _ _) hclose
          have hle'' := hle'.trans hle
          exact ih (hle''.trans hlength) (hle''.trans hlength') _
        case h_3 =>
          refine .step hu ((agrees_arguments hinner hyields).bind fun args c' hargs => ?_)
          have hle := length_le_of_yields (arguments_yields hyields) hargs
          exact ih (hle.trans hlength) (hle.trans hlength') _
        case h_4 => exact .pure e

/-- A primary expression and its accesses agree. -/
theorem agrees_access (htail : Closes tail) (hinner : ∀ c, Agrees tail c inner inner')
    (hyields : ∀ c, Yields c inner (WithinAlone n)) :
    Agrees tail c (access inner) (access inner') := by
  refine (agrees_primary hinner).bind fun e c' _ => ?_
  refine .congr (accessFrom inner c'.rest e) (accessFrom inner' (c'.before tail).rest e) rfl rfl ?_
  have hlength : c'.rest.length ≤ (c'.before tail).rest.length := by simp [Cursor.before]
  exact agrees_accessFrom htail hinner hyields (Nat.le_refl _) hlength e

/-- Prefix operators and their operands agree. -/
theorem agrees_operandOver (htail : Closes tail) (hbelow : ∀ c, Agrees tail c below below')
    (hinner : ∀ c, Agrees tail c inner inner') (hyields : ∀ c, Yields c inner (WithinAlone n)) :
    Agrees tail c (operandOver below inner) (operandOver below' inner') := by
  refine .peek (fun hc e c' h => ?_) fun t ht => ?_
  · -- At the end there is nothing that an access could begin with.
    obtain ⟨_, _, hprimary, -⟩ := bind_eq_ok_iff.1 h
    rw [primary, peek_bind, hc] at hprimary
    cases hprimary
  · rw [Option.bind_some]
    cases unaryOp? t with
    | some op => exact .step ht ((hbelow _).bind fun e _ _ => .pure (Expr.unary op e))
    | none => exact agrees_access htail hinner hyields

/-! ### Operators -/

/-- Where the tokens end, no operator of the level follows in either list. -/
theorem agrees_chainFrom_end (htail : Closes tail) {r : Nat} (hr : 1 ≤ r) (hr' : r ≤ 6)
    (fuel fuel' : List Located) (left : Expr) (last : Nat) :
    Agrees tail ⟨[], last⟩ (chainFrom (levelOf r) operand fuel left)
      (chainFrom (levelOf r) operand' fuel' left) :=
  .congr (Pure.pure left) (Pure.pure left)
    (chainFrom_stops hr hr' (stops_at_end htail r).1 operand fuel left)
    (chainFrom_stops hr hr' (stops_at_end htail r).2 operand' fuel' left) (.pure left)

/-- Chains agree, given enough rounds on both sides. -/
theorem agrees_chainFrom (htail : Closes tail) {r : Nat} (hr : 1 ≤ r) (hr' : r ≤ 6)
    (hoperand : ∀ c, Agrees tail c operand operand')
    (hyields : ∀ c, Yields c operand (Within n (r + 1))) {fuel fuel' : List Located}
    (hfuel : c.rest.length ≤ fuel.length) (hfuel' : c.rest.length ≤ fuel'.length) (left : Expr) :
    Agrees tail c (chainFrom (levelOf r) operand fuel left)
      (chainFrom (levelOf r) operand' fuel' left) := by
  -- As for the accesses.
  induction fuel generalizing fuel' c left with
  | nil =>
    obtain ⟨rest, last⟩ := c
    cases rest with
    | cons t rest => exact absurd hfuel (Nat.not_succ_le_zero _)
    | nil => exact agrees_chainFrom_end htail hr hr' _ _ left last
  | cons skipped fuel ih =>
    obtain ⟨rest, last⟩ := c
    cases rest with
    | nil => exact agrees_chainFrom_end htail hr hr' _ _ left last
    | cons t rest =>
      cases fuel' with
      | nil => exact absurd hfuel' (Nat.not_succ_le_zero _)
      | cons skipped' fuel' =>
        have hlength : rest.length ≤ fuel.length := Nat.le_of_succ_le_succ hfuel
        have hlength' : rest.length ≤ fuel'.length := Nat.le_of_succ_le_succ hfuel'
        refine .peek (fun h => by cases h) fun u hu => ?_
        rw [Option.bind_some]
        cases levelOf r u with
        | none => exact .pure left
        | some combine =>
          refine .step hu ((hoperand _).bind fun right c' hright => ?_)
          have hle := length_le_of_yields (hyields _) hright
          exact ih (hle.trans hlength) (hle.trans hlength') _

/-- Tiers agree, from the operands down to the rank asked for. -/
theorem agrees_tier (htail : Closes tail) (hoperand : ∀ c, Agrees tail c operand operand')
    (hyields : ∀ c, Yields c operand (Within n 7)) {r : Nat} (hr : 1 ≤ r) (hr' : r ≤ 7) :
    ∀ c, Agrees tail c (tier r operand) (tier r operand') := by
  refine Nat.decreasingInduction' (fun k hk hrk ih c => ?_) hr' hoperand
  have hlow : 1 ≤ k := hr.trans hrk
  have hhigh : k ≤ 6 := Nat.le_of_lt_succ hk
  rw [tier_eq operand hlow hhigh, tier_eq operand' hlow hhigh]
  refine (ih c).bind fun left c' _ => ?_
  refine .congr (chainFrom (levelOf k) (tier (k + 1) operand) c'.rest left)
    (chainFrom (levelOf k) (tier (k + 1) operand') (c'.before tail).rest left) rfl rfl ?_
  have hlength : c'.rest.length ≤ (c'.before tail).rest.length := by simp [Cursor.before]
  exact agrees_chainFrom htail hlow hhigh ih (tier_yields hyields (by omega) hk)
    (Nat.le_refl _) hlength left

/-- Conditionals agree; no question mark may follow behind the shorter list. -/
theorem agrees_conditional (htail : Closes tail) (hoperand : ∀ c, Agrees tail c operand operand')
    (hinner : ∀ c, Agrees tail c inner inner') (hyields : ∀ c, Yields c operand (Within n 7)) :
    Agrees tail c (conditional operand inner) (conditional operand' inner') := by
  refine (agrees_tier (r := 1) htail hoperand hyields (by decide) (by decide) c).bind
    fun condition c' _ => (agrees_eat fun hend => ?_).bind fun found c'' _ => ?_
  · -- No question mark follows the first parser's tokens.
    obtain ⟨rest, last⟩ := c'
    cases rest with
    | cons t rest => cases hend
    | nil => exact fun hquestion => absurd (htail _ hquestion) (by decide)
  · cases found with
    | false => exact .pure condition
    | true =>
      exact (hinner _).bind fun yes _ _ => (agrees_expect _ _).bind fun _ _ _ =>
        (hinner _).bind fun no _ _ => .pure (Expr.conditional condition yes no)

end Operands

/-! ### Levels -/

/-- Without a level left the shorter parser fails, so nothing is asked. -/
theorem agrees_tooDeep_left {q : Parser α} : Agrees tail c tooDeep q :=
  .of_fails fun _ _ h => by cases h

/-- Without a level left the longer one fails. -/
theorem agrees_tooDeep_right {p : Parser α} : Agrees tail c p tooDeep :=
  .of_fails_before fun _ _ h => by cases h

/-- Operands and expressions are read in the same way in front of nothing and in front of a closing
parenthesis, whatever levels are left in either place. -/
theorem levels_agree (htail : Closes tail) (n k : Nat) :
    (∀ c, Agrees tail c (operand n) (operand k)) ∧
      ∀ c, Agrees tail c (expression n) (expression k) := by
  -- Both have levels left, or one of them fails.
  induction n generalizing k with
  | zero =>
    refine ⟨fun c => ?_, fun c => agrees_tooDeep_left⟩
    obtain ⟨below, hbelow⟩ := operand_eq k
    rw [hbelow]
    exact agrees_operandOver htail (fun _ => agrees_tooDeep_left) (fun _ => agrees_tooDeep_left)
      (levels_yields 0).2
  | succ n ih =>
    cases k with
    | zero =>
      refine ⟨fun c => ?_, fun c => agrees_tooDeep_right⟩
      exact agrees_operandOver htail (fun _ => agrees_tooDeep_right)
        (fun _ => agrees_tooDeep_right) (levels_yields (n + 1)).2
    | succ k =>
      obtain ⟨hoperand, hinner⟩ := ih k
      have hexpression : ∀ c, Agrees tail c (expression (n + 1)) (expression (k + 1)) := fun c =>
        agrees_conditional htail hoperand hinner (levels_yields n).1
      exact ⟨fun c => agrees_operandOver htail hoperand hexpression (levels_yields (n + 1)).2,
        hexpression⟩

/-- An expression that takes up all tokens is read as the same one, if it is read at all, where a
closing parenthesis follows, or nothing. -/
theorem expression_agrees (htail : Closes tail) {n k last : Nat} {ts : List Located} {e e' : Expr}
    {c c' : Cursor} (h : expression n ⟨ts, last⟩ = .ok (e, c)) (hc : c.rest = [])
    (h' : expression k ⟨ts ++ tail, last⟩ = .ok (e', c')) : e' = e ∧ c'.rest = tail := by
  obtain ⟨rfl, rfl⟩ := (levels_agree htail n k).2 ⟨ts, last⟩ e c h e' c' h'
  refine ⟨rfl, ?_⟩
  show c.rest ++ tail = tail
  rw [hc, List.nil_append]

end Parser

end Dialogue.Script
