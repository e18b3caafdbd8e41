import Dialogue.Proofs.Script.Depth
import Dialogue.Proofs.Script.Readback

namespace Dialogue.Script

open Dialogue.Script.Parser

/-!
# What is accepted is nested within the limit

* `Parser.Yields`: what holds of the result of a parser and of the number of tokens it takes off.
* `Parser.statement_yields`: a statement is nested within the levels that are left, and no deeper
  than it is long.
* `accepted_programs_are_nested_within_the_limit`: the same for programs.
-/

namespace Parser

variable {α β : Type} {c : Cursor} {p : Parser α} {P : α → Nat → Prop} {Q : β → Nat → Prop}

/-! ### Results and the tokens they take -/

/-- If the parser comes to a result from here, then this holds of the result and of the number of
tokens that it has taken off. -/
def Yields (c : Cursor) (p : Parser α) (P : α → Nat → Prop) : Prop :=
  ∀ a c', p c = .ok (a, c') → ∃ k, c.rest.length = k + c'.rest.length ∧ P a k

namespace Yields

/-- What holds may be weakened. -/
theorem mono {P' : α → Nat → Prop} (h : Yields c p P) (hP : ∀ a k, P a k → P' a k) :
    Yields c p P' := by
  intro a c' hp
  obtain ⟨k, hk, ha⟩ := h a c' hp
  exact ⟨k, hk, hP a k ha⟩

/-- A parser that only returns takes no tokens. -/
theorem pure {b : β} (h : Q b 0) : Yields c (Pure.pure b) Q := by
  rintro _ _ ⟨⟩
  exact ⟨0, (Nat.zero_add _).symm, h⟩

/-- What two parsers take one after the other adds up. -/
theorem bind {f : α → Parser β} (hp : Yields c p P)
    (hf : ∀ a k c', P a k → Yields c' (f a) fun b j => Q b (k + j)) : Yields c (p >>= f) Q := by
  intro b c'' h
  rw [bind_apply] at h
  cases hc : p c with
  | error e =>
    rw [hc] at h
    cases h
  | ok r =>
    rw [hc] at h
    obtain ⟨k, hk, ha⟩ := hp r.1 r.2 hc
    obtain ⟨j, hj, hb⟩ := hf r.1 k r.2 ha b c'' h
    exact ⟨k + j, by omega, hb⟩

/-- A result may be turned into another. -/
theorem map {f : α → β} (hp : Yields c p fun a k => Q (f a) k) : Yields c (f <$> p) Q :=
  hp.bind (f := fun a => Pure.pure (f a)) fun _ _ _ h => .pure h

/-- Looking at the next token takes none. -/
theorem peek {f : Option Token → Parser β} (h : Yields c (f c.token?) Q) :
    Yields c (Parser.peek >>= f) Q := h

/-- Asking for the tokens that remain takes none. -/
theorem remaining {f : List Located → Parser β} (h : Yields c (f c.rest) Q) :
    Yields c (Parser.remaining >>= f) Q := h

/-- Asking for the cursor takes none. -/
theorem get {f : Cursor → Parser β} (h : Yields c (f c) Q) : Yields c (MonadState.get >>= f) Q := h

end Yields

/-- A fault is no result. -/
theorem fault_yields (f : SyntaxFault) : Yields c (fault f) P := fun _ _ h => by cases h

/-- A token that is missing is a fault. -/
theorem expected_yields (what : String) : Yields c (expected what) P := fun _ _ h => by cases h

/-- Advancing takes one token where there is one. -/
theorem advance_yields : Yields c advance fun _ k => ∀ t, c.token? = some t → k = 1 := by
  rintro _ _ ⟨⟩
  obtain ⟨rest, line⟩ := c
  cases rest with
  | nil => exact ⟨0, rfl, fun t ht => by cases ht⟩
  | cons t rest => exact ⟨1, Nat.add_comm _ _, fun _ _ => rfl⟩

/-- A token that has been looked at is taken off. -/
theorem Yields.step {t : Token} {f : Unit → Parser β} (ht : c.token? = some t)
    (hf : ∀ c', Yields c' (f ()) fun b j => Q b (1 + j)) : Yields c (advance >>= f) Q := by
  refine advance_yields.bind fun _ k c' hk => ?_
  rw [hk t ht]
  exact hf c'

/-- Eating a token takes one if the token is there. -/
theorem eat_yields (t : Token) : Yields c (eat t) fun found k => found → k = 1 := by
  intro found c' h
  unfold eat at h
  split at h
  case isTrue ht =>
    cases h
    obtain ⟨k, hk, hone⟩ := advance_yields (c := c) () c.next rfl
    exact ⟨k, hk, fun _ => hone t ht⟩
  case isFalse =>
    cases h
    exact ⟨0, (Nat.zero_add _).symm, fun h => by cases h⟩

/-- A token that must be there is one token. -/
theorem expect_yields (t : Token) (what : String) : Yields c (expect t what) fun _ k => k = 1 := by
  refine (eat_yields t).bind fun found k c' hk => ?_
  cases found with
  | true => exact .pure (hk rfl)
  | false => exact expected_yields what

/-- A name is one token. -/
theorem takeName_yields (f : SyntaxFault) : Yields c (takeName f) fun _ k => k = 1 := by
  refine .peek ?_
  split
  case h_1 h => exact .step h fun _ => .pure rfl
  case h_2 => exact advance_yields.bind fun _ _ _ _ => fault_yields f

/-! ### Expressions -/

/-- At a place that asks for a rank the expression is nested within the levels that are left, and
it is no deeper than it is long. -/
def Within (n r : Nat) (e : Expr) (k : Nat) : Prop := e.nestingAt r ≤ n ∧ e.depth ≤ k

/-- The same of an expression that stands by itself. -/
def WithinAlone (n : Nat) (e : Expr) (k : Nat) : Prop := e.nesting + 1 ≤ n ∧ e.depth ≤ k

variable {n r : Nat} {inner below operand : Parser Expr}

/-- A primary expression: what stands in parentheses is nested one level deeper. -/
theorem primary_yields (hinner : ∀ c, Yields c inner (WithinAlone n)) :
    Yields c (primary inner) (Within n 8) := by
  refine .peek ?_
  -- The cases: no token, parentheses, a name, and the literals.
  split
  case h_1 => exact fault_yields _
  case h_2 h =>
    refine .step h fun c => (hinner c).bind fun e k c he =>
      (expect_yields _ _).bind fun _ _ _ _ => .pure ⟨?_, ?_⟩
    · exact (e.nestingAt_le 8).trans he.1
    · have := he.2
      omega
  case h_3 h => exact .step h fun _ => .pure ⟨Nat.zero_le n, Nat.le_refl 1⟩
  case h_4 t _ _ h =>
    split
    case h_1 => exact .step h fun _ => .pure ⟨Nat.zero_le n, Nat.le_refl 1⟩
    case h_2 => exact fault_yields _

/-- All arguments are nested within the levels that are left. -/
def WithinAll (n : Nat) (es : List Expr) (k : Nat) : Prop :=
  Expr.listNesting es ≤ n ∧ Expr.listDepth es ≤ k

/-- One argument more adds its tokens. -/
theorem WithinAll.cons {e : Expr} {es : List Expr} {k k' : Nat} (he : WithinAlone n e k)
    (hes : WithinAll n es k') : WithinAll n (e :: es) (k + k') := by
  obtain ⟨hnesting, hdepth⟩ := he
  obtain ⟨hnestings, hdepths⟩ := hes
  simp only [WithinAll, Expr.listNesting, Expr.listDepth]
  omega

/-- More tokens allow for more depth. -/
theorem WithinAll.mono {es : List Expr} {k k' : Nat} (h : WithinAll n es k) (hk : k ≤ k') :
    WithinAll n es k' := ⟨h.1, h.2.trans hk⟩

/-- The arguments behind the first are separated by commas. -/
theorem argumentsFrom_yields (hinner : ∀ c, Yields c inner (WithinAlone n))
    (fuel : List Located) : Yields c (argumentsFrom inner fuel) (WithinAll n) := by
  induction fuel generalizing c with
  | nil => exact expected_yields _
  | cons _ fuel ih =>
    -- The list closes here, or a comma and one argument come before the rest.
    refine (eat_yields _).bind fun found _ c _ => ?_
    cases found with
    | true => exact .pure ⟨Nat.zero_le n, Nat.zero_le _⟩
    | false =>
      refine (expect_yields _ _).bind fun _ _ c _ => (hinner c).bind fun e _ c he =>
        ih.bind fun es _ _ hes => .pure ?_
      exact (WithinAll.cons he hes).mono (by omega)

/-- Arguments are none, or a first one and those behind it. -/
theorem arguments_yields (hinner : ∀ c, Yields c inner (WithinAlone n)) :
    Yields c (arguments inner) (WithinAll n) := by
  refine (eat_yields _).bind fun found _ c _ => ?_
  cases found with
  | true => exact .pure ⟨Nat.zero_le n, Nat.zero_le _⟩
  | false =>
    refine (hinner c).bind fun e _ c he => .remaining ?_
    refine (argumentsFrom_yields hinner c.rest).bind fun es _ _ hes => .pure ?_
    exact (WithinAll.cons he hes).mono (by omega)

/-- Members, indices and calls do not nest what they follow. -/
theorem accessFrom_yields (hinner : ∀ c, Yields c inner (WithinAlone n)) (fuel : List Located)
    {e : Expr} (he : e.nestingAt 8 ≤ n) : Yields c (accessFrom inner fuel e)
      fun e' k => e'.nestingAt 8 ≤ n ∧ e'.depth ≤ e.depth + k := by
  induction fuel generalizing c e with
  | nil => exact .pure ⟨he, Nat.le_refl _⟩
  | cons _ fuel ih =>
    -- The cases: a member, an index, a call, and anything else, where the expression ends.
    refine .peek ?_
    split
    case h_1 h =>
      refine .step h fun c => (takeName_yields _).bind fun property _ c hk => ?_
      refine (ih (e := .member e property) he).mono fun e' k he' => ⟨he'.1, ?_⟩
      have := he'.2
      simp only [Expr.depth] at this
      omega
    case h_2 h =>
      refine .step h fun c => (hinner c).bind fun i k c hi =>
        (expect_yields _ _).bind fun _ k c hk => ?_
      have hnesting : (Expr.index e i).nestingAt 8 ≤ n := max_le he hi.1
      refine (ih hnesting).mono fun e' k he' => ⟨he'.1, ?_⟩
      have := he'.2
      have := hi.2
      simp only [Expr.depth] at *
      omega
    case h_3 h =>
      refine .step h fun c => (arguments_yields hinner).bind fun args k c hargs => ?_
      have hnesting : (Expr.call e args).nestingAt 8 ≤ n := max_le he hargs.1
      refine (ih hnesting).mono fun e' k he' => ⟨he'.1, ?_⟩
      have := he'.2
      have := hargs.2
      simp only [Expr.depth] at *
      omega
    case h_4 => exact .pure ⟨he, Nat.le_refl _⟩

/-- A primary expression, and what is accessed of it. -/
theorem access_yields (hinner : ∀ c, Yields c inner (WithinAlone n)) :
    Yields c (access inner) (Within n 8) := by
  refine (primary_yields hinner).bind fun e k c he => .remaining ?_
  refine (accessFrom_yields hinner c.rest he.1).mono fun e' j he' => ⟨he'.1, ?_⟩
  have := he.2
  have := he'.2
  omega

/-- A prefix operator takes one of the levels that are left; without one the operand is an access.
-/
theorem operandOver_yields (hbelow : ∀ c, Yields c below fun e k => Within (n - 1) 7 e k ∧ 1 ≤ n)
    (hinner : ∀ c, Yields c inner (WithinAlone n)) :
    Yields c (operandOver below inner) (Within n 7) := by
  refine .peek ?_
  split
  case h_1 op h =>
    obtain ⟨t, ht, -⟩ := Option.bind_eq_some_iff.1 h
    refine .step ht fun c => (hbelow c).bind fun e k c he => .pure ⟨?_, ?_⟩
    · show e.nestingAt 7 + 1 ≤ n
      have := he.1.1
      have := he.2
      omega
    · have := he.1.2
      simp only [Expr.depth]
      omega
  case h_2 =>
    exact (access_yields hinner).mono fun e k he =>
      ⟨(e.nestingAt_mono (by decide)).trans he.1, he.2⟩

/-- What an operator of a rank makes of its operands. -/
theorem levelOf_combine {t : Token} {combine : Combine} (hr : 1 ≤ r) (hr' : r ≤ 6)
    (h : levelOf r t = some combine) (left right : Expr) :
    (combine left right).nestingAt r = max (left.nestingAt r) (right.nestingAt (r + 1)) ∧
      (combine left right).depth = max left.depth right.depth + 1 := by
  interval_cases r <;> cases t <;> cases h <;> exact ⟨rfl, rfl⟩

/-- Operators of one rank do not nest what they follow. -/
theorem chainFrom_yields (hr : 1 ≤ r) (hr' : r ≤ 6)
    (hoperand : ∀ c, Yields c operand (Within n (r + 1))) (fuel : List Located) {left : Expr}
    (hleft : left.nestingAt r ≤ n) : Yields c (chainFrom (levelOf r) operand fuel left)
      fun e k => e.nestingAt r ≤ n ∧ e.depth ≤ left.depth + k := by
  induction fuel generalizing c left with
  | nil => exact .pure ⟨hleft, Nat.le_refl _⟩
  | cons _ fuel ih =>
    -- Either no operator of this level follows, or its right operand joins what was read so far.
    refine .peek ?_
    split
    case h_1 => exact .pure ⟨hleft, Nat.le_refl _⟩
    case h_2 combine h =>
      obtain ⟨t, ht, hcombine⟩ := Option.bind_eq_some_iff.1 h
      refine .step ht fun c => (hoperand c).bind fun right k c hright => ?_
      obtain ⟨hnesting, hdepth⟩ := levelOf_combine hr hr' hcombine left right
      refine (ih (hnesting.trans_le (max_le hleft hright.1))).mono fun e j he => ⟨he.1, ?_⟩
      have := he.2
      have := hright.2
      omega

/-- The tiers of operators, from the tightest on. Each is a chain of the one below. -/
theorem tier_yields (hoperand : ∀ c, Yields c operand (Within n 7)) (hr : 1 ≤ r) (hr' : r ≤ 7) :
    ∀ c, Yields c (tier r operand) (Within n r) := by
  -- Downwards from the operands, which stand at rank 7, to the rank asked for.
  refine Nat.decreasingInduction' (fun k hk hrk ih c => ?_) hr' hoperand
  rw [tier_eq operand (hr.trans hrk) (Nat.le_of_lt_succ hk)]
  refine (ih c).bind fun left j c hleft => .remaining ?_
  have hnesting := (left.nestingAt_mono (Nat.le_succ k)).trans hleft.1
  refine (chainFrom_yields (hr.trans hrk) (Nat.le_of_lt_succ hk) ih c.rest hnesting).mono
    fun e i he => ⟨he.1, ?_⟩
  have := hleft.2
  have := he.2
  omega

/-- A conditional takes no level of its own, but its branches stand by themselves. -/
theorem conditional_yields (hoperand : ∀ c, Yields c operand (Within n 7))
    (hinner : ∀ c, Yields c inner (WithinAlone n)) :
    Yields c (conditional operand inner) fun e k => e.nesting ≤ n ∧ e.depth ≤ k := by
  refine (tier_yields (r := 1) hoperand (by decide) (by decide) c).bind fun e k c he => ?_
  refine (eat_yields _).bind fun found _ c _ => ?_
  cases found with
  | false => exact .pure ⟨(e.nesting_le_nestingAt 1).trans he.1, he.2.trans (Nat.le_add_right _ _)⟩
  | true =>
    refine (hinner c).bind fun yes _ c hyes => (expect_yields _ _).bind fun _ _ c _ =>
      (hinner c).bind fun no _ c hno => .pure ⟨?_, ?_⟩
    · exact max_le he.1 (max_le hyes.1 hno.1)
    · have := he.2
      have := hyes.2
      have := hno.2
      simp only [Expr.depth]
      omega

/-- Each level of operands and expressions takes one off. -/
theorem levels_yields (n : Nat) : (∀ c, Yields c (Parser.operand n) (Within n 7)) ∧
    ∀ c, Yields c (expression n) (WithinAlone n) := by
  induction n with
  | zero =>
    exact ⟨fun c => operandOver_yields (fun _ => fault_yields _) fun _ => fault_yields _,
      fun c => fault_yields _⟩
  | succ n ih =>
    have hexpression : ∀ c, Yields c (expression (n + 1)) (WithinAlone (n + 1)) := fun c =>
      (conditional_yields ih.1 ih.2).mono fun e k he => ⟨Nat.succ_le_succ he.1, he.2⟩
    refine ⟨fun c => operandOver_yields (fun c => ?_) hexpression, hexpression⟩
    exact (ih.1 c).mono fun e k he => ⟨he, Nat.succ_pos n⟩

/-! ### Statements -/

/-- The end of a statement may take a token or none. -/
theorem endStatement_yields : Yields c endStatement fun _ _ => True := by
  refine .peek ?_
  split
  case h_1 => exact advance_yields.mono fun _ _ _ => trivial
  case h_2 | h_3 => exact .pure trivial
  case h_4 =>
    refine .get ?_
    split
    case isTrue => exact .pure trivial
    case isFalse => exact expected_yields _

/-- The statement is nested within the levels that are left, and no deeper than it is long: it
stands above its tokens, as it may end without one of its own. -/
def WithinStatement (n : Nat) (s : Statement) (k : Nat) : Prop := s.nesting ≤ n ∧ s.depth ≤ k + 1

/-- More tokens allow for a deeper statement. -/
theorem WithinStatement.mono {s : Statement} {k k' : Nat} (h : WithinStatement n s k)
    (hk : k ≤ k') : WithinStatement n s k' := ⟨h.1, h.2.trans (Nat.succ_le_succ hk)⟩

/-- The same for the statements of a body. -/
def WithinBody (n : Nat) (body : List Statement) (k : Nat) : Prop :=
  Statement.listNesting body ≤ n ∧ Statement.listDepth body ≤ k + 1

variable {expression : Parser Expr} {statement : Parser Statement}

/-- The statements up to the closing brace, which is a token of its own. -/
theorem untilBrace_yields (hstatement : ∀ c, Yields c statement (WithinStatement n))
    (fuel : List Located) : Yields c (untilBrace statement fuel) fun body k =>
      Statement.listNesting body ≤ n ∧ Statement.listDepth body ≤ k ∧ 1 ≤ k := by
  -- On the tokens that serve as fuel; the brace is there, or one more statement comes first.
  induction fuel generalizing c with
  | nil => exact expected_yields _
  | cons _ fuel ih =>
    refine (eat_yields _).bind fun found _ c hk => ?_
    cases found with
    | true => exact .pure ⟨Nat.zero_le n, Nat.zero_le _, (hk rfl).ge⟩
    | false =>
      refine .peek ?_
      split
      case isTrue => exact expected_yields _
      case isFalse =>
        refine (hstatement c).bind fun s _ c hs => ih.bind fun body _ _ hbody => .pure ?_
        obtain ⟨hnesting, hdepth⟩ := hs
        obtain ⟨hnestings, hdepths, hone⟩ := hbody
        simp only [Statement.listNesting, Statement.listDepth]
        omega

/-- The braces of a block are two tokens. -/
theorem block_yields (hstatement : ∀ c, Yields c statement (WithinStatement n)) :
    Yields c (block statement) fun body k =>
      Statement.listNesting body ≤ n ∧ Statement.listDepth body + 1 ≤ k := by
  refine (expect_yields _ _).bind fun _ _ c hk => .remaining ?_
  refine (untilBrace_yields hstatement c.rest).mono fun body j hbody => ⟨hbody.1, ?_⟩
  have := hbody.2.1
  omega

/-- A body is a block, or one statement. -/
theorem body_yields (hstatement : ∀ c, Yields c statement (WithinStatement n)) :
    Yields c (body statement) (WithinBody n) := by
  refine .peek ?_
  split
  case isTrue =>
    refine (block_yields hstatement).mono fun body k hbody => ⟨hbody.1, ?_⟩
    have := hbody.2
    omega
  case isFalse =>
    refine (hstatement c).bind fun s _ c hs => .pure ?_
    simpa [WithinBody, WithinStatement, Statement.listNesting, Statement.listDepth] using hs

/-- The condition of a branch or loop stands in parentheses. -/
theorem condition_yields (hexpression : ∀ c, Yields c expression (WithinAlone n)) (what : String) :
    Yields c (condition expression what) fun e k => e.nesting + 1 ≤ n ∧ e.depth + 2 ≤ k := by
  refine (expect_yields _ _).bind fun _ _ c hk => (hexpression c).bind fun e _ c he =>
    (expect_yields _ _).bind fun _ _ _ hk' => .pure ⟨he.1, ?_⟩
  have := he.2
  omega

/-- The same of an expression that may be left out. -/
def WithinOptional (n : Nat) (value : Option Expr) (k : Nat) : Prop :=
  Expr.optionalNesting value ≤ n ∧ Expr.optionalDepth value ≤ k

/-- An optional expression that is there. -/
theorem optional_yields (hexpression : ∀ c, Yields c expression (WithinAlone n)) :
    Yields c (some <$> expression) (WithinOptional n) := .map (hexpression c)

/-- An optional expression that is not there. -/
theorem none_yields : Yields c (pure none) (WithinOptional n) :=
  .pure ⟨Nat.zero_le n, Nat.le_refl 0⟩

/-- An empty body. -/
theorem nil_yields : Yields c (pure []) (WithinBody n) := .pure ⟨Nat.zero_le n, Nat.zero_le 1⟩

/-- A statement that holds nothing but such an expression, up to where it ends. -/
theorem holding_yields {value : Parser (Option Expr)} {s : Option Expr → Statement}
    (hvalue : Yields c value (WithinOptional n))
    (hs : ∀ v, (s v).nesting = Expr.optionalNesting v + 1 ∧
      (s v).depth = Expr.optionalDepth v + 1) :
    Yields c (value >>= fun v => endStatement >>= fun _ => pure (s v))
      (WithinStatement (n + 1)) := by
  refine hvalue.bind fun v _ c hv => endStatement_yields.bind fun _ _ _ _ => .pure ?_
  obtain ⟨hnesting, hdepth⟩ := hs v
  obtain ⟨hvalueNesting, hvalueDepth⟩ := hv
  unfold WithinStatement
  omega

/-- A branch is one level above its condition and its bodies. -/
theorem within_choose {e : Expr} {yes no : List Statement} {k i j m : Nat}
    (he : e.nesting + 1 ≤ n ∧ e.depth + 2 ≤ k) (hyes : WithinBody n yes i)
    (hno : WithinBody n no j) (hm : k + i + j ≤ m) :
    WithinStatement (n + 1) (.choose e yes no) m := by
  obtain ⟨hnesting, hdepth⟩ := he
  obtain ⟨hyesNesting, hyesDepth⟩ := hyes
  obtain ⟨hnoNesting, hnoDepth⟩ := hno
  simp only [WithinStatement, Statement.nesting, Statement.depth]
  omega

/-- An assignment has the expression that was read as its target. -/
theorem expr_of_target? {e : Expr} {target : Target} (h : e.target? = some target) :
    target.expr = e := by
  cases e <;> cases h <;> rfl

/-- A statement that begins with an expression: an assignment or the expression alone. -/
theorem simple_yields (hexpression : ∀ c, Yields c expression (WithinAlone n)) :
    Yields c (simple expression) (WithinStatement (n + 1)) := by
  refine (hexpression c).bind fun e k c he => .peek ?_
  -- Both kinds of assignment go the same way, so they are done once.
  have hassign : ∀ (target : Target) (append : Bool), e.target? = some target → ∀ c, Yields c
      (expression >>= fun value => endStatement >>= fun _ =>
        pure (Statement.assign target append value))
      fun s j => WithinStatement (n + 1) s (k + (1 + j)) := by
    intro target append htarget c
    refine (hexpression c).bind fun value _ c hvalue =>
      endStatement_yields.bind fun _ _ _ _ => .pure ?_
    obtain ⟨hnesting, hdepth⟩ := he
    obtain ⟨hnesting', hdepth'⟩ := hvalue
    simp only [WithinStatement, Statement.nesting, Statement.depth, expr_of_target? htarget]
    omega
  split
  case h_1 h =>
    refine .step h fun c => ?_
    split
    case h_1 => exact fault_yields _
    case h_2 target htarget => exact hassign target false htarget c
  case h_2 h =>
    refine .step h fun c => ?_
    split
    case h_1 => exact fault_yields _
    case h_2 target htarget => exact hassign target true htarget c
  case h_3 =>
    refine endStatement_yields.bind fun _ _ _ _ => .pure ?_
    obtain ⟨hnesting, hdepth⟩ := he
    simp only [WithinStatement, Statement.nesting, Statement.depth]
    omega

/-- A statement over the parsers one level down is nested one level deeper. -/
theorem statementOver_yields (hexpression : ∀ c, Yields c expression (WithinAlone n))
    (hstatement : ∀ c, Yields c statement (WithinStatement n)) :
    Yields c (statementOver expression statement) (WithinStatement (n + 1)) := by
  refine .peek ?_
  -- the cases are those of the first token
  split
  case h_1 => exact expected_yields _
  case h_2 h =>
    -- a semicolon alone is an empty block
    refine .step h fun _ => .pure ⟨Nat.le_add_left 1 n, ?_⟩
    simp [Statement.depth, Statement.listDepth]
  case h_3 h =>
    -- a block: its two braces pay for the level
    refine (block_yields hstatement).bind fun body _ _ hbody => .pure ?_
    exact ⟨Nat.succ_le_succ hbody.1, hbody.2.trans (Nat.le_succ _)⟩
  case h_4 h =>
    -- `let`, with a value or without
    refine .step h fun c => (takeName_yields _).bind fun name _ c _ =>
      (eat_yields _).bind fun found _ c _ => ?_
    cases found with
    | true =>
      exact (holding_yields (optional_yields hexpression) fun _ => ⟨rfl, rfl⟩).mono fun _ _ hs =>
        hs.mono (by omega)
    | false =>
      exact (holding_yields none_yields fun _ => ⟨rfl, rfl⟩).mono fun _ _ hs => hs.mono (by omega)
  case h_5 h =>
    -- `if`: without `else` the other body is empty
    refine .step h fun c => (condition_yields hexpression _).bind fun e _ c he =>
      (body_yields hstatement).bind fun yes _ c hyes => (eat_yields _).bind fun found _ c _ => ?_
    cases found with
    | true =>
      refine (body_yields hstatement).bind fun no _ _ hno => .pure ?_
      exact within_choose he hyes hno (by omega)
    | false =>
      refine (nil_yields (n := n)).bind fun no _ _ hno => .pure ?_
      exact within_choose he hyes hno (by omega)
  case h_6 h =>
    -- `while`
    refine .step h fun c => (condition_yields hexpression _).bind fun e _ c he =>
      (body_yields hstatement).bind fun body _ c hbody => .pure ⟨?_, ?_⟩
    · exact Nat.succ_le_succ (max_le he.1 hbody.1)
    · have := he.2
      have := hbody.2
      simp only [Statement.depth]
      omega
  case h_7 h =>
    -- `return`: the next token tells whether a value follows
    refine .step h fun c => .peek ?_
    split
    case h_4 =>
      exact (holding_yields (optional_yields hexpression) fun _ => ⟨rfl, rfl⟩).mono fun _ _ hs =>
        hs.mono (by omega)
    all_goals
      exact (holding_yields none_yields fun _ => ⟨rfl, rfl⟩).mono fun _ _ hs => hs.mono (by omega)
  case h_8 h =>
    -- `throw`
    refine .step h fun c => (hexpression c).bind fun e _ c he =>
      endStatement_yields.bind fun _ _ _ _ => .pure ⟨Nat.succ_le_succ he.1, ?_⟩
    have := he.2
    simp only [Statement.depth]
    omega
  case h_9 => exact simple_yields hexpression

/-- A statement is nested within the levels that are left. -/
theorem statement_yields (n : Nat) (c : Cursor) :
    Yields c (Parser.statement n) (WithinStatement n) := by
  induction n generalizing c with
  | zero => exact fault_yields _
  | succ n ih => exact statementOver_yields (levels_yields n).2 ih

/-- A program is a list of statements with all levels left. -/
theorem program_yields (fuel : List Located) : Yields c (program fuel) (WithinBody maxDepth) := by
  induction fuel generalizing c with
  | nil => exact nil_yields
  | cons _ fuel ih =>
    refine .peek ?_
    split
    case isTrue => exact nil_yields
    case isFalse =>
      refine (statement_yields maxDepth c).bind fun s _ c hs => ih.bind fun p _ _ hp => .pure ?_
      obtain ⟨hnesting, hdepth⟩ := hs
      obtain ⟨hnestings, hdepths⟩ := hp
      simp only [WithinBody, Statement.listNesting, Statement.listDepth]
      omega

end Parser

/-- What is accepted is nested within the limit. So it is no deeper than nine times the limit apart
from chains of operators, members, indices and calls, and with them it is no deeper than it has
tokens. -/
theorem accepted_programs_are_nested_within_the_limit {source : String} {p : Program}
    (h : parse source = .ok p) :
    Statement.listNesting p ≤ maxDepth ∧ Statement.listInnerDepth p ≤ 9 * maxDepth ∧
      ∃ tokens, tokenize source = .ok tokens ∧ Statement.listDepth p ≤ tokens.length + 1 := by
  -- A source that is not read has no program, so only the last case remains.
  cases htokens : tokenize source with
  | error e =>
    rw [parse, htokens] at h
    cases h
  | ok tokens =>
    rw [parse_of_tokenize htokens] at h
    cases hp : Parser.program tokens ⟨tokens, 1⟩ with
    | error e =>
      rw [hp] at h
      cases h
    | ok r =>
      rw [hp] at h
      cases h
      obtain ⟨k, hk, hnesting, hdepth⟩ := program_yields tokens r.1 r.2 hp
      have hinner := Statement.listInnerDepth_le r.1
      refine ⟨hnesting, by omega, tokens, rfl, ?_⟩
      have : tokens.length = k + r.2.rest.length := hk
      omega

/-- A call in a loop: four deep, and ten tokens long. -/
theorem loop_is_nested_within_the_limit :
    let p : Program := [.repeat (.name "a") [.evaluate (.call (.name "f") [])]]
    let source := "while (a) { f(); }"
    parse source = .ok p ∧ Statement.listNesting p ≤ maxDepth ∧
      Statement.listInnerDepth p ≤ 9 * maxDepth ∧
      ∃ tokens, tokenize source = .ok tokens ∧ Statement.listDepth p ≤ tokens.length + 1 := by
  intro p source
  have htokens : tokenize source = .ok (onLine 1 (Statement.listTokens p)) := by
    decide +kernel
  have hparse : parse source = .ok p := (parse_of_tokenize htokens).trans (program_onLine p 1)
  exact ⟨hparse, accepted_programs_are_nested_within_the_limit hparse⟩

end Dialogue.Script
