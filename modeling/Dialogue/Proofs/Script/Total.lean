import Dialogue.Proofs.Script.Descent
import Dialogue.Script.Run

namespace Dialogue.Script

/-!
# Parsing comes back

The parser that goes by index does at each place what the parser does that takes tokens off a list.
So it makes no misstep: no token or character is read that is not there, no level is left that was
not entered, and every statement, every expression and every round of a loop takes a token off.

* `Agree`, `InStep`: the two come to the same at a place, with tokens taken off.
* `levels_inStep`, `statement_inStep`: so do expressions and statements, with enough rounds for the
  tokens that are left.
* `parsing_comes_back`: every script is parsed, or refused on one of its lines.
-/

namespace Place

variable {s : Place} {t : Token} {ts : List Located} {d i : Nat}

/-- What the place is to a parser that takes tokens off a list. -/
def cursor (s : Place) : Cursor :=
  ⟨s.tokens.drop s.index, (s.tokens.take s.index).getLast?.elim 1 Located.line⟩

/-- The two see the same token next. -/
theorem token?_cursor (s : Place) : s.cursor.token? = s.token? := by
  rw [Cursor.token?, cursor, List.head?_drop]
  rfl

/-- There are as many tokens left as the list is long. -/
theorem length_le (ts : List Located) (d i : Nat) :
    ts.length ≤ i + (Place.mk ts i d).cursor.rest.length := by
  show ts.length ≤ i + (ts.drop i).length
  rw [List.length_drop]
  omega

/-- A token that is seen is within the list. -/
theorem lt_of_token? (h : (Place.mk ts i d).token? = some t) : i < ts.length := by
  obtain ⟨found, hfound, -⟩ := Option.map_eq_some_iff.1 h
  exact (List.getElem?_eq_some_iff.1 hfound).1

/-- Behind the last token nothing is seen. -/
theorem token?_eq_none (h : ts.length ≤ i) : (Place.mk ts i d).token? = none := by
  rw [token?, List.getElem?_eq_none h]
  rfl

/-- Where nothing is seen, the place is behind the last token. -/
theorem length_le_of_token? (h : (Place.mk ts i d).token? = none) : ts.length ≤ i :=
  List.getElem?_eq_none_iff.1 (Option.map_eq_none_iff.1 h)

/-- Both go on to the next token alike. -/
theorem next_cursor (h : s.token? = some t) : s.cursor.next = s.next.cursor := by
  have hless : s.index < s.tokens.length := lt_of_token? h
  -- The token that is passed is the last one taken, so both have its line.
  have htake : s.tokens.take (s.index + 1) = s.tokens.take s.index ++ [s.tokens[s.index]] :=
    (List.take_append_getElem hless).symm
  rw [Cursor.next, cursor, List.drop_eq_getElem_cons hless]
  show _ = Cursor.mk _ ((s.tokens.take (s.index + 1)).getLast?.elim 1 Located.line)
  rw [htake, List.getLast?_concat]
  rfl

/-- At the end neither goes on. -/
theorem next_cursor_of_none (h : s.token? = none) : s.cursor.next = s.cursor := by
  have hrest : s.tokens.drop s.index = [] := by
    rw [← List.head?_eq_none_iff, List.head?_drop]
    exact Option.map_eq_none_iff.1 h
  rw [Cursor.next, cursor, hrest]

/-- A fault is on the same line for both. -/
theorem line_cursor (hs : s.index ≤ s.tokens.length) : s.cursor.line = s.line := by
  rcases hs.lt_or_eq with hless | hend
  · rw [Cursor.line, cursor, List.drop_eq_getElem_cons hless, line, List.getElem?_eq_getElem hless]
    rfl
  · rw [Cursor.line, cursor, hend, List.drop_length, List.take_length, line, hend,
      List.getElem?_eq_none (Nat.le_refl _), Option.none_or]

/-- The line of the token behind. -/
theorem lastLine_cursor (hpos : 0 < s.index) (hs : s.index ≤ s.tokens.length) :
    ∃ t, s.tokens[s.index - 1]? = some t ∧ s.cursor.lastLine = t.line := by
  have hbehind : s.tokens[s.index - 1]? = some s.tokens[s.index - 1] :=
    List.getElem?_eq_getElem (by omega)
  refine ⟨_, hbehind, ?_⟩
  rw [cursor, List.getLast?_take, if_neg (by omega), hbehind]
  rfl

/-- What a line is that faults are reported on. -/
def IsLineOf (ts : List Located) (n : Nat) : Prop := n = 1 ∨ ∃ t ∈ ts, t.line = n

/-- The line of a fault is the first one or that of a token. -/
theorem isLineOf_line (s : Place) : IsLineOf s.tokens s.line := by
  cases h : s.tokens[s.index]?.or s.tokens.getLast? with
  | none =>
    left
    rw [line, h]
    rfl
  | some t =>
    right
    refine ⟨t, ?_, by rw [line, h]; rfl⟩
    rcases Option.or_eq_some_iff.1 h with hnext | ⟨-, hlast⟩
    · exact List.mem_of_getElem? hnext
    · exact List.mem_of_getLast? hlast

end Place

variable {α β : Type} {goal mid d i : Nat} {ts : List Located} {t : Token} {p : Parser α}
  {q : Steps α} {f : α → Parser β} {g : α → Steps β}

/-! ### Two parsers in step -/

/-- A parser and steps come to the same result and to the same token, not before `goal` and with as
many levels open as before; or both fail in the same way, with no level closed that was open. -/
inductive Agree (goal : Nat) (ts : List Located) (d : Nat) :
    Except SyntaxError (α × Cursor) → Except Stop α × Place → Prop
  | read (a : α) (i : Nat) (hgoal : goal ≤ i) (hwithin : i ≤ ts.length) :
    Agree goal ts d (.ok (a, (Place.mk ts i d).cursor)) (.ok a, ⟨ts, i, d⟩)
  | failed (e : SyntaxError) (i d' : Nat) (hline : Place.IsLineOf ts e.line) (hdepth : d ≤ d') :
    Agree goal ts d (.error e) (.error (.fault e), ⟨ts, i, d'⟩)

/-- At a place that is not behind the last token, a parser and steps come to the same. -/
def InStep (goal : Nat) (ts : List Located) (d i : Nat) (p : Parser α) (q : Steps α) : Prop :=
  i ≤ ts.length → Agree goal ts d (p (Place.mk ts i d).cursor) (q ⟨ts, i, d⟩)

/-- So they do from a place on, and take a token off each time. -/
def InStepFrom (ts : List Located) (d i : Nat) (p : Parser α) (q : Steps α) : Prop :=
  ∀ j, i ≤ j → InStep (j + 1) ts d j p q

/-- From a later place on they still go in step. -/
theorem InStepFrom.mono {j : Nat} (h : InStepFrom ts d i p q) (hj : i ≤ j) :
    InStepFrom ts d j p q := fun k hk => h k (hj.trans hk)

namespace InStep

/-- Returning stays in place. -/
theorem pure (a : α) (h : goal ≤ i) : InStep goal ts d i (Pure.pure a) (Pure.pure a) :=
  fun hi => .read a i h hi

/-- Two parsers in step, then two more from each place the first ones may come to. -/
theorem bind (h : InStep mid ts d i p q)
    (h' : ∀ a j, mid ≤ j → InStep goal ts d j (f a) (g a)) :
    InStep goal ts d i (p >>= f) (q >>= g) := by
  intro hi
  have hagree := h hi
  rw [Parser.bind_apply, Descent.bind_apply]
  generalize p (Place.mk ts i d).cursor = r at hagree ⊢
  generalize q ⟨ts, i, d⟩ = r' at hagree ⊢
  cases hagree with
  | read a j hgoal hwithin => exact h' a j hgoal hwithin
  | failed e j d' hline hdepth => exact .failed e j d' hline hdepth

/-- A result may be turned into another on both sides. -/
theorem map (φ : α → β) (h : InStep goal ts d i p q) :
    InStep goal ts d i (φ <$> p) (φ <$> q) :=
  h.bind fun a _ hj => .pure (φ a) hj

/-- A parser and steps that begin here like others. -/
theorem congr {p' : Parser α} {q' : Steps α}
    (hp : p (Place.mk ts i d).cursor = p' (Place.mk ts i d).cursor)
    (hq : q ⟨ts, i, d⟩ = q' ⟨ts, i, d⟩) (h : InStep goal ts d i p' q') :
    InStep goal ts d i p q := by
  intro hi
  rw [hp, hq]
  exact h hi

/-! #### Looking and checking -/

/-- Only the list parser asks for the tokens that remain. -/
theorem remaining {f : List Located → Parser α}
    (h : InStep goal ts d i (f (Place.mk ts i d).cursor.rest) q) :
    InStep goal ts d i (Parser.remaining >>= f) q := h

/-- Only the list parser asks for its cursor. -/
theorem gettingCursor {f : Cursor → Parser α}
    (h : InStep goal ts d i (f (Place.mk ts i d).cursor) q) :
    InStep goal ts d i (get >>= f) q := h

/-- Only the steps ask for their place. -/
theorem getting {g : Place → Steps α} (h : InStep goal ts d i p (g ⟨ts, i, d⟩)) :
    InStep goal ts d i p (get >>= g) := h

/-- Only the steps ask for their index. -/
theorem position {g : Nat → Steps α} (h : InStep goal ts d i p (g i)) :
    InStep goal ts d i p (Descent.position >>= g) := h

/-- Looking at the next token changes nothing. -/
theorem looking {f : Option Token → Parser α}
    (h : InStep goal ts d i (f (Place.mk ts i d).token?) q) :
    InStep goal ts d i (Parser.peek >>= f) q :=
  .congr (by rw [Parser.peek_bind, Place.token?_cursor]) rfl h

/-- Both look at the same token. -/
theorem peek {f : Option Token → Parser α} {g : Option Token → Steps α}
    (h : InStep goal ts d i (f (Place.mk ts i d).token?) (g (Place.mk ts i d).token?)) :
    InStep goal ts d i (Parser.peek >>= f) (Descent.peek >>= g) := looking h

/-- Behind the last token there is none. -/
theorem peekEnd {g : Option Token → Steps α} (hend : ts.length ≤ i)
    (h : InStep goal ts d i p (g none)) : InStep goal ts d i p (Descent.peek >>= g) := by
  refine .congr rfl ?_ h
  rw [Descent.peek_bind, Place.token?_eq_none hend]

/-- Behind the last token there is none to eat. -/
theorem eatEnd {t : Token} {g : Bool → Steps α} (hend : ts.length ≤ i)
    (h : InStep goal ts d i p (g false)) : InStep goal ts d i p (Descent.eat t >>= g) := by
  refine .congr rfl ?_ h
  rw [Descent.bind_apply, Descent.eat_of_ne (by rw [Place.token?_eq_none hend]; nofun)]

/-- The guard of a round passes when the round got ahead. -/
theorem aheadOf {start : Nat} {g : Unit → Steps α} (hstart : start < i)
    (h : InStep goal ts d i p (g ())) :
    InStep goal ts d i p (Descent.aheadOf start >>= g) := by
  refine .congr rfl ?_ h
  rw [Descent.bind_apply, Descent.aheadOf_of_lt hstart]

/-- A token stands before the place. -/
theorem notFirst {g : Unit → Steps α} (hpos : 0 < i) (h : InStep goal ts d i p (g ())) :
    InStep goal ts d i p (Descent.notFirst >>= g) := by
  refine .congr rfl ?_ h
  rw [Descent.bind_apply, Descent.notFirst_of_pos hpos]

/-- A token that is there is found by its index. -/
theorem tokenAt {k : Nat} {found : Located} {g : Located → Steps α} (hfound : ts[k]? = some found)
    (h : InStep goal ts d i p (g found)) :
    InStep goal ts d i p (Descent.tokenAt k >>= g) := by
  refine .congr rfl ?_ h
  rw [Descent.bind_apply, Descent.tokenAt_of_getElem? hfound]

/-- The check that something is taken off changes nothing. -/
theorem checked (h : InStep (i + 1) ts d i p q) : InStep (i + 1) ts d i p (do
    let start ← Descent.position
    let a ← q
    Descent.aheadOf start
    return a) := by
  have hbind : InStep (i + 1) ts d i (p >>= Pure.pure) (do
      let a ← q
      Descent.aheadOf i
      return a) := h.bind fun a _ hj => .aheadOf hj (.pure a hj)
  rw [bind_pure] at hbind
  exact .position hbind

/-! #### Faults -/

/-- A fault is on the line of the place, for both. -/
theorem faultOn (f : SyntaxFault) : InStep goal ts d i (Parser.fault f : Parser α)
    (Descent.faultOn (Place.mk ts i d).line f) := by
  intro hi
  show Agree goal ts d (.error ⟨(Place.mk ts i d).cursor.line, f⟩) _
  rw [Place.line_cursor hi]
  exact .failed _ i d (Place.isLineOf_line _) (Nat.le_refl d)

/-- So is a fault that the steps put on their own line. -/
theorem fault (f : SyntaxFault) :
    InStep goal ts d i (Parser.fault f : Parser α) (Descent.fault f) := faultOn f

/-- Both miss the same token. -/
theorem expected (what : String) :
    InStep goal ts d i (Parser.expected what : Parser α) (Descent.expected what) := by
  have hparser : (Parser.expected what : Parser α) (Place.mk ts i d).cursor =
      Parser.fault (.expected what (Place.mk ts i d).token?) (Place.mk ts i d).cursor := by
    rw [← Place.token?_cursor]
    rfl
  exact .congr hparser rfl (fault _)

/-! #### Tokens -/

/-- The next token is taken off first. -/
theorem taking {p' : Parser α} {q' : Steps α} (ht : (Place.mk ts i d).token? = some t)
    (hp : p (Place.mk ts i d).cursor = (Parser.advance >>= fun _ => p') (Place.mk ts i d).cursor)
    (hq : q ⟨ts, i, d⟩ = q' ⟨ts, i + 1, d⟩) (h : InStep goal ts d (i + 1) p' q') :
    InStep goal ts d i p q := by
  intro _
  rw [hp, hq]
  show Agree goal ts d (p' (Place.mk ts i d).cursor.next) (q' ⟨ts, i + 1, d⟩)
  rw [Place.next_cursor ht]
  exact h (Place.lt_of_token? ht)

/-- Only the steps pass over the next token, and both fail. -/
theorem refusing {f : SyntaxFault}
    (hp : p (Place.mk ts i d).cursor = (Parser.fault f : Parser α) (Place.mk ts i d).cursor)
    (hq : q ⟨ts, i, d⟩ = (Descent.faultOn (Place.mk ts i d).line f : Steps α) ⟨ts, i + 1, d⟩) :
    InStep goal ts d i p q := by
  intro hi
  rw [hp, hq]
  show Agree goal ts d (.error ⟨(Place.mk ts i d).cursor.line, f⟩) _
  rw [Place.line_cursor hi]
  exact .failed _ (i + 1) d (Place.isLineOf_line _) (Nat.le_refl d)

/-- Both pass over a token that was seen. -/
theorem skip {f : Unit → Parser α} {g : Unit → Steps α} (ht : (Place.mk ts i d).token? = some t)
    (h : InStep goal ts d (i + 1) (f ()) (g ())) :
    InStep goal ts d i (Parser.advance >>= f) (Descent.skip >>= g) :=
  taking ht rfl rfl h

/-- Both eat the token, or neither does. -/
theorem eat {f : Bool → Parser α} {g : Bool → Steps α} (t : Token)
    (hyes : InStep goal ts d (i + 1) (f true) (g true))
    (hno : InStep goal ts d i (f false) (g false)) :
    InStep goal ts d i (Parser.eat t >>= f) (Descent.eat t >>= g) := by
  by_cases ht : (Place.mk ts i d).token? = some t
  · have hparser : Parser.eat t (Place.mk ts i d).cursor =
        .ok (true, (Place.mk ts i d).cursor.next) := if_pos ((Place.token?_cursor _).trans ht)
    refine .taking ht ?_ ?_ hyes
    · rw [Parser.bind_apply, hparser]
      rfl
    · rw [Descent.bind_apply, Descent.eat_of_token ht]
      rfl
  · have hparser : Parser.eat t (Place.mk ts i d).cursor = .ok (false, (Place.mk ts i d).cursor) :=
      if_neg fun h => ht ((Place.token?_cursor _).symm.trans h)
    refine .congr ?_ ?_ hno
    · rw [Parser.bind_apply, hparser]
      rfl
    · rw [Descent.bind_apply, Descent.eat_of_ne ht]

/-- Both take the token that must be there, or both miss it. -/
theorem expect (t : Token) (what : String) :
    InStep (i + 1) ts d i (Parser.expect t what) (Descent.expect t what) :=
  .eat t (.pure () (Nat.le_refl _)) (.expected what)

/-- A name is taken off. -/
theorem takeName (f : SyntaxFault) :
    InStep (i + 1) ts d i (Parser.takeName f) (Descent.takeName f) := by
  -- At the end the steps stay where they are; otherwise they pass the token before looking at it.
  refine .looking ?_
  cases ht : (Place.mk ts i d).token? with
  | none =>
    refine .congr ?_ (Descent.advance_bind_of_none ht) (.fault f)
    show Except.error (SyntaxError.mk (Place.mk ts i d).cursor.next.line f) = _
    rw [Place.next_cursor_of_none ht]
    rfl
  | some t =>
    have hadvance {g : Option Token → Steps String} := Descent.advance_bind_of_token (g := g) ht
    cases t with
    | ident name => exact .taking ht rfl hadvance (.pure name (Nat.le_refl _))
    | _ => exact .taking ht rfl hadvance (.fault f)

/-- A level is opened and closed in step, if there is one left. -/
theorem nested (hdepth : d ≤ Parser.maxDepth) (htop : d = Parser.maxDepth → p = Parser.tooDeep)
    (h : d < Parser.maxDepth → InStep goal ts (d + 1) i p q) :
    InStep goal ts d i p (Descent.nested q) := by
  intro hi
  rcases hdepth.lt_or_eq with hless | heq
  · have hagree : Agree goal ts (d + 1) (p (Place.mk ts i d).cursor) (q ⟨ts, i, d + 1⟩) :=
      h hless hi
    have hdeeper : (Place.mk ts i d).deeper = ⟨ts, i, d + 1⟩ := rfl
    rw [Descent.nested_of_lt hless, hdeeper]
    generalize p (Place.mk ts i d).cursor = r at hagree ⊢
    generalize q ⟨ts, i, d + 1⟩ = r' at hagree ⊢
    cases hagree with
    | read a j hgoal hwithin => exact .read a j hgoal hwithin
    | failed e j d' hline hdepth =>
      -- At least the level that was opened here is still open.
      dsimp only
      rw [if_neg (by omega)]
      exact .failed e j (d' - 1) hline (by omega)
  · rw [Descent.nested_of_eq heq, htop heq]
    show Agree goal ts d (.error ⟨(Place.mk ts i d).cursor.line, .nestedTooDeeply⟩) _
    rw [Place.line_cursor hi]
    exact .failed _ i (d + 1) (Place.isLineOf_line _) (Nat.le_succ d)

end InStep

/-! ### Expressions -/

variable {level : Parser.Level} {operand inner : Parser Expr} {operand' inner' : Steps Expr}
  {fuel : Nat}

/-- A chain of operators, given enough rounds for the tokens that are left. -/
theorem chainFrom_inStep (hoperand : InStepFrom ts d i operand operand') (hgoal : goal ≤ i)
    (left : Expr) {rounds : List Located} (hrounds : ts.length ≤ i + rounds.length)
    (hfuel : ts.length < i + fuel) :
    InStep goal ts d i (Parser.chainFrom level operand rounds left)
      (Descent.chainFrom level operand' fuel left) := by
  intro hi
  induction fuel generalizing i left rounds with
  | zero => omega
  | succ fuel ih =>
    rw [Descent.chainFrom]
    cases rounds with
    | nil =>
      -- The tokens are used up with the rounds of the list, so no operator follows.
      exact InStep.position (.peekEnd hrounds (.pure left hgoal)) hi
    | cons _ rounds =>
      rw [Parser.chainFrom]
      rw [List.length_cons] at hrounds
      refine InStep.position (.peek ?_) hi
      cases hlevel : (Place.mk ts i d).token?.bind level with
      | none => exact .pure left hgoal
      | some combine =>
        obtain ⟨t, ht, -⟩ := Option.bind_eq_some_iff.1 hlevel
        refine .skip ht ((hoperand (i + 1) (by omega)).bind fun right j hj => ?_)
        refine .aheadOf (by omega) ?_
        exact ih (hoperand.mono (by omega)) (by omega) (combine left right) (by omega) (by omega)

/-- A chain and its first operand. -/
theorem chain_inStep (hoperand : InStepFrom ts d i operand operand')
    (hfuel : ts.length ≤ i + fuel) :
    InStepFrom ts d i (Parser.chain level operand) (Descent.chain fuel level operand') := by
  intro j hj
  refine (hoperand j hj).bind fun left k hk => .remaining ?_
  exact chainFrom_inStep (hoperand.mono (by omega)) hk left (Place.length_le ts d k) (by omega)

/-- All levels of binary operators. -/
theorem binary_inStep (hoperand : InStepFrom ts d i operand operand')
    (hfuel : ts.length ≤ i + fuel) :
    InStepFrom ts d i (Parser.binary operand) (Descent.binary fuel operand') := by
  -- One chain over the other, for any list of levels.
  have hlevels : ∀ levels : List Parser.Level, InStepFrom ts d i
      (levels.foldr Parser.chain operand) (levels.foldr (Descent.chain fuel) operand') := by
    intro levels
    induction levels with
    | nil => exact hoperand
    | cons level levels ih => exact chain_inStep ih hfuel
  exact hlevels Parser.binaryLevels

/-- A conditional, with both its branches or without. -/
theorem conditional_inStep (hoperand : InStepFrom ts d i operand operand')
    (hinner : InStepFrom ts d (i + 1) inner inner') (hfuel : ts.length ≤ i + fuel) :
    InStep (i + 1) ts d i (Parser.conditional operand inner)
      (Descent.conditional fuel operand' inner') := by
  refine (binary_inStep hoperand hfuel i (Nat.le_refl i)).bind fun condition j hj => ?_
  refine .eat _ ?_ (.pure condition hj)
  refine (hinner (j + 1) (by omega)).bind fun yes k hk => ?_
  refine (InStep.expect _ _).bind fun _ l hl => ?_
  exact (hinner l (by omega)).bind fun no m hm => .pure _ (by omega)

/-- What follows an argument: the rest of its round, and the rounds behind it. -/
theorem argumentsFrom_inStep (hinner : InStepFrom ts d i inner inner') (e : Expr) {start : Nat}
    (hstart : start < i) (hgoal : goal ≤ i) {rounds : List Located}
    (hrounds : ts.length ≤ i + rounds.length) (hfuel : ts.length ≤ i + fuel) :
    InStep goal ts d i (do return e :: (← Parser.argumentsFrom inner rounds)) (do
      if ← Descent.eat .closeParen then
        Descent.aheadOf start
        return [e]
      else
        Descent.expect .comma "',' or ')'"
        Descent.aheadOf start
        return e :: (← Descent.argumentsFrom inner' fuel)) := by
  induction rounds generalizing i e start fuel with
  | nil =>
    -- No token is left, so neither a parenthesis nor a comma follows.
    refine .eatEnd hrounds ?_
    rw [if_neg Bool.false_ne_true, Descent.expect, bind_assoc]
    exact .eatEnd hrounds (.congr rfl rfl (.expected "',' or ')'"))
  | cons _ rounds ih =>
    rw [List.length_cons] at hrounds
    rw [Parser.argumentsFrom, bind_assoc]
    refine .eat _ ?_ ?_
    · rw [if_pos rfl, if_pos rfl]
      exact .aheadOf (by omega) (.pure [e] (by omega))
    · rw [if_neg Bool.false_ne_true, if_neg Bool.false_ne_true, bind_assoc]
      refine (InStep.expect _ _).bind fun _ j hj => .aheadOf (by omega) fun hi => ?_
      cases fuel with
      | zero => omega
      | succ fuel =>
        rw [Descent.argumentsFrom]
        -- A round begins with the argument that the list parser reads at the end of its round.
        refine InStep.map (e :: ·) (.position ?_) hi
        refine (hinner j (by omega)).bind fun next k hk => ?_
        exact ih (hinner.mono (by omega)) next hk (by omega) (by omega) (by omega)

/-- The arguments of a call. The list parser and the steps ask for the first one at different times.
-/
theorem arguments_inStep (hinner : InStepFrom ts d i inner inner')
    (hfuel : ts.length < i + fuel) :
    InStep i ts d i (Parser.arguments inner) (Descent.arguments fuel inner') := by
  intro hi
  cases fuel with
  | zero => omega
  | succ fuel =>
    refine InStep.eat _ (.pure [] (Nat.le_succ i)) ?_ hi
    rw [if_neg Bool.false_ne_true, if_neg Bool.false_ne_true, Descent.argumentsFrom]
    refine .position ((hinner i (Nat.le_refl i)).bind fun e j hj => .remaining ?_)
    exact argumentsFrom_inStep (hinner.mono (by omega)) e hj (by omega) (Place.length_le ts d j)
      (by omega)

/-- A primary expression. The steps take the token first and look at it then. -/
theorem primary_inStep (hinner : InStepFrom ts d (i + 1) inner inner') :
    InStep (i + 1) ts d i (Parser.primary inner) (Descent.primary inner') := by
  rw [Parser.primary, Descent.primary]
  refine .looking (.getting ?_)
  -- The cases: the end, a literal, parentheses, a name, and what is refused.
  cases ht : (Place.mk ts i d).token? with
  | none => exact .congr rfl (Descent.advance_bind_of_none ht) (.faultOn .unexpectedEnd)
  | some t =>
    have hadvance {g : Option Token → Steps Expr} := Descent.advance_bind_of_token (g := g) ht
    cases hvalue : Parser.literal? t with
    | some value =>
      refine .taking ht ?_ (hadvance.trans ?_) (.pure (Expr.literal value) (Nat.le_refl _))
      all_goals cases t <;> cases hvalue <;> rfl
    | none =>
      cases t with
      | openParen =>
        refine .taking ht rfl hadvance ((hinner (i + 1) (Nat.le_refl _)).bind fun e j hj => ?_)
        exact (InStep.expect _ _).bind fun _ k hk => .pure e (by omega)
      | ident name => exact .taking ht rfl hadvance (.pure (Expr.name name) (Nat.le_refl _))
      | _ => first | cases hvalue; done | exact .refusing rfl hadvance

/-- The accesses behind an expression, given enough rounds. -/
theorem accessFrom_inStep (hinner : InStepFrom ts d i inner inner') (hgoal : goal ≤ i) (e : Expr)
    {rounds : List Located} (hrounds : ts.length ≤ i + rounds.length)
    (hfuel : ts.length < i + fuel) :
    InStep goal ts d i (Parser.accessFrom inner rounds e) (Descent.accessFrom inner' fuel e) := by
  intro hi
  induction fuel generalizing i e rounds with
  | zero => omega
  | succ fuel ih =>
    rw [Descent.accessFrom]
    cases rounds with
    | nil =>
      exact InStep.position (.peekEnd hrounds (.pure e hgoal)) hi
    | cons _ rounds =>
      rw [Parser.accessFrom]
      rw [List.length_cons] at hrounds
      -- Each access takes a token off at least, so the rounds that are left are enough.
      have hmore : ∀ e j, i < j → InStep goal ts d j (Parser.accessFrom inner rounds e) (do
          Descent.aheadOf i
          Descent.accessFrom inner' fuel e) := by
        intro e j hj
        refine .aheadOf hj ?_
        exact ih (hinner.mono (by omega)) (by omega) e (by omega) (by omega)
      refine InStep.position (.peek ?_) hi
      cases ht : (Place.mk ts i d).token? with
      | none => exact .pure e hgoal
      | some t =>
        cases t with
        | dot =>
          exact .skip ht ((InStep.takeName _).bind fun property j hj => hmore _ j (by omega))
        | openBracket =>
          refine .skip ht ((hinner (i + 1) (by omega)).bind fun index j hj => ?_)
          exact (InStep.expect _ _).bind fun _ k hk => hmore _ k (by omega)
        | openParen =>
          refine .skip ht ((arguments_inStep (hinner.mono (by omega)) (by omega)).bind
            fun args j hj => hmore _ j hj)
        | _ => exact .pure e hgoal

/-- An operand that does not begin with an operator. -/
theorem access_inStep (hinner : InStepFrom ts d (i + 1) inner inner')
    (hfuel : ts.length ≤ i + fuel) :
    InStep (i + 1) ts d i (Parser.access inner) (do
      let e ← Descent.primary inner'
      Descent.accessFrom inner' fuel e) := by
  refine (primary_inStep hinner).bind fun e j hj => .remaining ?_
  exact accessFrom_inStep (hinner.mono hj) hj e (Place.length_le ts d j) (by omega)

/-- A prefix operator and its operand, or an access. -/
theorem operandOver_inStep {below : Parser Expr}
    (hbelow : InStep (i + 1 + 1) ts d (i + 1) below (Descent.nested (Descent.operand fuel)))
    (hinner : InStepFrom ts d (i + 1) inner (Descent.expression fuel))
    (hfuel : ts.length ≤ i + fuel) :
    InStep (i + 1) ts d i (Parser.operandOver below inner) (Descent.operand (fuel + 1)) := by
  rw [Parser.operandOver, Descent.operand]
  refine .peek ?_
  cases hop : (Place.mk ts i d).token?.bind Parser.unaryOp? with
  | some op =>
    obtain ⟨t, ht, -⟩ := Option.bind_eq_some_iff.1 hop
    exact .skip ht (hbelow.bind fun e j hj => .pure (Expr.unary op e) (by omega))
  | none => exact access_inStep hinner hfuel

/-- With as many levels left as the limit leaves, and with enough rounds for the tokens that are
left, operands and expressions are read in step. -/
theorem levels_inStep (fuel : Nat) {n d i : Nat} (hn : n + d = Parser.maxDepth) :
    (2 * ts.length < 2 * i + fuel →
      InStep (i + 1) ts d i (Parser.operand n) (Descent.operand fuel)) ∧
    (2 * ts.length + 1 < 2 * i + fuel →
      InStep (i + 1) ts d i (Parser.expression n) (Descent.expression fuel)) := by
  -- Two rounds for each token that is left: one for an expression and one for its first operand.
  induction fuel generalizing n d i with
  | zero => refine ⟨fun hfuel hi => ?_, fun hfuel hi => ?_⟩ <;> omega
  | succ fuel ih =>
    refine ⟨fun hfuel => ?_, fun hfuel => ?_⟩
    · have hinner : InStepFrom ts d (i + 1) (Parser.expression n) (Descent.expression fuel) :=
        fun j hj => (ih hn).2 (by omega)
      cases n with
      | zero =>
        exact operandOver_inStep (.nested (by omega) (fun _ => rfl) fun hless => by omega) hinner
          (by omega)
      | succ n =>
        refine operandOver_inStep (.nested (by omega) (fun heq => by omega) fun _ => ?_) hinner
          (by omega)
        have hn' : n + (d + 1) = Parser.maxDepth := by omega
        exact (ih hn').1 (by omega)
    · rw [Descent.expression]
      refine .checked (.nested (by omega) (fun heq => ?_) fun hless => ?_)
      · obtain rfl : n = 0 := by omega
        rfl
      · obtain ⟨n, rfl⟩ : ∃ m, n = m + 1 := Nat.exists_eq_succ_of_ne_zero (by omega)
        have hn' : n + (d + 1) = Parser.maxDepth := by omega
        exact conditional_inStep (fun j hj => (ih hn').1 (by omega))
          (fun j hj => (ih hn').2 (by omega)) (by omega)

/-! ### Statements -/

variable {expression : Parser Expr} {expression' : Steps Expr} {statement : Parser Statement}
  {statement' : Steps Statement}

/-- The token behind is read only where there is one. -/
theorem endStatement_inStep (hpos : 0 < i) :
    InStep i ts d i Parser.endStatement Descent.endStatement := by
  rw [Parser.endStatement, Descent.endStatement]
  -- At the end and before a brace both pass; a semicolon is taken; elsewhere the lines decide.
  refine .notFirst hpos (.peek ?_)
  cases ht : (Place.mk ts i d).token? with
  | none => exact .pure () (Nat.le_refl i)
  | some t =>
    have hother : InStep i ts d i (do
        let c ← get
        if c.lastLine < c.line then return else Parser.expected "';'") (do
        let t ← Descent.tokenAt (← Descent.position)
        let behind ← Descent.tokenAt ((← Descent.position) - 1)
        if behind.line < t.line then return else Descent.expected "';'") := by
      intro hi
      obtain ⟨found, hfound, -⟩ := Option.map_eq_some_iff.1 ht
      obtain ⟨behind, hbehind, hlast⟩ := Place.lastLine_cursor (s := ⟨ts, i, d⟩) hpos hi
      have hline : (Place.mk ts i d).cursor.line = found.line := by
        rw [Place.line_cursor hi, Place.line, hfound]
        rfl
      refine InStep.gettingCursor (.position (.tokenAt hfound ?_)) hi
      refine .position (.tokenAt hbehind ?_)
      rw [hlast, hline]
      split
      case isTrue => exact .pure () (Nat.le_refl i)
      case isFalse => exact .expected _
    cases t with
    | semicolon => exact .taking ht rfl rfl (.pure () (Nat.le_succ i))
    | closeBrace => exact .pure () (Nat.le_refl i)
    | _ => exact hother

/-- A statement that ends here. -/
theorem ending_inStep (a : α) (hpos : 0 < i) (hgoal : goal ≤ i) :
    InStep goal ts d i (do Parser.endStatement; return a) (do Descent.endStatement; return a) :=
  (endStatement_inStep hpos).bind fun _ _ hj => .pure a (hgoal.trans hj)

/-- The statements up to the closing brace, given enough rounds. -/
theorem untilBrace_inStep (hstatement : InStepFrom ts d i statement statement') (hgoal : goal ≤ i)
    {rounds : List Located} (hrounds : ts.length ≤ i + rounds.length)
    (hfuel : ts.length < i + fuel) :
    InStep goal ts d i (Parser.untilBrace statement rounds)
      (Descent.untilBrace statement' fuel) := by
  intro hi
  induction fuel generalizing i rounds with
  | zero => omega
  | succ fuel ih =>
    rw [Descent.untilBrace]
    cases rounds with
    | nil =>
      exact InStep.position (.eatEnd hrounds (.peekEnd hrounds (.expected "'\x7d'"))) hi
    | cons _ rounds =>
      rw [Parser.untilBrace]
      rw [List.length_cons] at hrounds
      refine InStep.position (.eat _ (.pure [] (by omega)) (.peek ?_)) hi
      cases (Place.mk ts i d).token? with
      | none => exact .expected _
      | some t =>
        refine (hstatement i (Nat.le_refl i)).bind fun first j hj => .aheadOf hj ?_
        refine .map (first :: ·) ?_
        exact ih (hstatement.mono (by omega)) (by omega) (by omega) (by omega)

/-- The statements of a block and its braces. -/
theorem block_inStep (hstatement : InStepFrom ts d (i + 1) statement statement')
    (hfuel : ts.length ≤ i + fuel) :
    InStep (i + 1) ts d i (Parser.block statement) (Descent.block fuel statement') := by
  refine (InStep.expect _ _).bind fun _ j hj => .remaining ?_
  exact untilBrace_inStep (hstatement.mono hj) hj (Place.length_le ts d j) (by omega)

/-- A body is a block or one statement, for both. -/
theorem body_inStep (hstatement : InStepFrom ts d i statement statement')
    (hfuel : ts.length ≤ i + fuel) :
    InStep (i + 1) ts d i (Parser.body statement) (Descent.body fuel statement') := by
  refine .peek ?_
  split
  case isTrue => exact block_inStep (hstatement.mono (Nat.le_succ i)) hfuel
  case isFalse => exact (hstatement i (Nat.le_refl i)).bind fun first j hj => .pure [first] hj

/-- A condition in parentheses. -/
theorem condition_inStep (hexpression : InStepFrom ts d i expression expression')
    (what : String) :
    InStep (i + 1) ts d i (Parser.condition expression what)
      (Descent.condition expression' what) := by
  refine (InStep.expect _ _).bind fun _ j hj => (hexpression j (by omega)).bind fun e k hk => ?_
  exact (InStep.expect _ _).bind fun _ l hl => .pure e (by omega)

/-- A statement that begins with an expression. -/
theorem simple_inStep (hexpression : InStepFrom ts d i expression expression') :
    InStep (i + 1) ts d i (Parser.simple expression) (Descent.simple expression') := by
  refine (hexpression i (Nat.le_refl i)).bind fun e j hj => ?_
  refine .peek ?_
  cases ht : (Place.mk ts j d).token? with
  | none => exact ending_inStep _ (by omega) hj
  | some t =>
    cases t with
    | assign | plusAssign =>
      refine .skip ht ?_
      cases e.target? with
      | none => exact .fault _
      | some target =>
        exact (hexpression (j + 1) (by omega)).bind fun value k hk =>
          ending_inStep _ (by omega) (by omega)
    | _ => exact ending_inStep _ (by omega) hj

/-- A statement of any kind; the cases are those of its first token. -/
theorem statementOver_inStep (hexpression : InStepFrom ts d i expression expression')
    (hstatement : InStepFrom ts d (i + 1) statement statement') (hfuel : ts.length ≤ i + fuel) :
    InStep (i + 1) ts d i (Parser.statementOver expression statement)
      (Descent.statementOver fuel expression' statement') := by
  refine .peek ?_
  cases ht : (Place.mk ts i d).token? with
  | none => exact .expected _
  | some t =>
    cases t with
    | semicolon => exact .skip ht (.pure _ (Nat.le_refl _))
    | openBrace => exact .map Statement.block (block_inStep hstatement hfuel)
    | declare =>
      refine .skip ht ((InStep.takeName _).bind fun name j hj => .eat _ ?_ ?_)
      · refine .bind (.map some (hexpression (j + 1) (by omega))) fun value k hk => ?_
        exact ending_inStep _ (by omega) (by omega)
      · refine .bind (.pure none (Nat.le_refl j)) fun value k hk => ?_
        exact ending_inStep _ (by omega) (by omega)
    | ifWord =>
      refine .skip ht ((condition_inStep (hexpression.mono (by omega)) _).bind fun c j hj => ?_)
      refine (body_inStep (hstatement.mono (by omega)) (by omega)).bind fun yes k hk => ?_
      refine .eat _ ?_ ?_
      · exact .bind (body_inStep (hstatement.mono (by omega)) (by omega)) fun no l hl =>
          .pure _ (by omega)
      · exact .bind (.pure [] (Nat.le_refl k)) fun no l hl => .pure _ (by omega)
    | whileWord =>
      refine .skip ht ((condition_inStep (hexpression.mono (by omega)) _).bind fun c j hj => ?_)
      exact (body_inStep (hstatement.mono (by omega)) (by omega)).bind fun body k hk =>
        .pure _ (by omega)
    | returnWord =>
      -- A value may follow or not; the end of the statement is the same.
      have hfinish {m : Nat} {p : Parser (Option Expr)} {q : Steps (Option Expr)}
          (h : InStep m ts d (i + 1) p q) (hm : i < m) : InStep (i + 1) ts d (i + 1) (do
            let value ← p
            Parser.endStatement
            return Statement.finish value) (do
            let value ← q
            Descent.endStatement
            return Statement.finish value) :=
        h.bind fun value j hj => ending_inStep _ (by omega) (by omega)
      have hnone := hfinish (.pure none (Nat.le_refl (i + 1))) (Nat.lt_succ_self i)
      refine .skip ht (.peek ?_)
      cases (Place.mk ts (i + 1) d).token? with
      | none => exact hnone
      | some t =>
        cases t with
        | semicolon | closeBrace => exact hnone
        | _ => exact hfinish (.map some (hexpression (i + 1) (by omega))) (by omega)
    | throwWord =>
      refine .skip ht ((hexpression (i + 1) (by omega)).bind fun value j hj => ?_)
      exact ending_inStep _ (by omega) (by omega)
    | _ => exact simple_inStep hexpression

/-- With as many levels left as the limit leaves, and with enough rounds for the tokens that are
left, statements are read in step. -/
theorem statement_inStep (fuel : Nat) {n d i : Nat} (hn : n + d = Parser.maxDepth)
    (hfuel : 2 * ts.length + 2 < 2 * i + fuel) :
    InStep (i + 1) ts d i (Parser.statement n) (Descent.statement fuel) := by
  -- On the rounds. Two of them are paid for each token, as a level of statements or expressions may
  -- pass without one.
  intro hi
  induction fuel generalizing n d i with
  | zero => omega
  | succ fuel ih =>
    rw [Descent.statement]
    refine InStep.checked (.nested (by omega) (fun heq => ?_) fun hless => ?_) hi
    · obtain rfl : n = 0 := by omega
      rfl
    · obtain ⟨n, rfl⟩ : ∃ m, n = m + 1 := Nat.exists_eq_succ_of_ne_zero (by omega)
      have hn' : n + (d + 1) = Parser.maxDepth := by omega
      exact statementOver_inStep (fun j hj => (levels_inStep fuel hn').2 (by omega))
        (fun j hj => ih hn' (by omega)) (by omega)

/-- The statements of a script are read in step up to its last token. -/
theorem program_inStep {inner : Steps Statement}
    (hinner : InStepFrom ts 0 i (Parser.statement Parser.maxDepth) inner) {rounds : List Located}
    (hrounds : ts.length ≤ i + rounds.length) (hfuel : ts.length < i + fuel) :
    InStep ts.length ts 0 i (Parser.program rounds) (Descent.program inner fuel) := by
  -- On the rounds, each of which reads a statement and so takes a token off.
  intro hi
  induction fuel generalizing i rounds with
  | zero => omega
  | succ fuel ih =>
    rw [Descent.program]
    cases rounds with
    | nil =>
      exact InStep.position (.peekEnd hrounds (.pure [] hrounds)) hi
    | cons _ rounds =>
      rw [Parser.program]
      rw [List.length_cons] at hrounds
      refine InStep.position (.peek ?_) hi
      cases ht : (Place.mk ts i 0).token? with
      | none => exact .pure [] (Place.length_le_of_token? ht)
      | some t =>
        refine (hinner i (Nat.le_refl i)).bind fun first j hj => .aheadOf hj (.map (first :: ·) ?_)
        exact ih (hinner.mono (by omega)) (by omega) (by omega)

/-! ### Scripts -/

/-- Once the tokens are there, a run is that of the program on them. -/
theorem run_of_scan {source : String} (h : Scanner.scan source.toList fuel 1 0 [] = .ok ts) :
    Descent.run fuel source =
      match Descent.program (Descent.statement fuel) fuel ⟨ts, 0, 0⟩ with
      | (.ok p, s) => .ok (p, s)
      | (.error stop, _) => .error stop := by
  rw [Descent.run, h]
  rfl

/-- **Parsing comes back.** With enough rounds for the length of a script, scanning and parsing by
index come to what the script is parsed to, at the last token and with no level open, or to the
fault that it is refused with, which is on one of its lines. They make no misstep. -/
theorem parsing_comes_back (source : String) (fuel : Nat) (hfuel : 2 * source.length + 3 ≤ fuel) :
    Scanner.scan source.toList fuel 1 0 [] = (tokenize source).mapError .fault ∧
      match parse source with
      | .ok p => ∃ ts, tokenize source = .ok ts ∧
        Descent.run fuel source = .ok (p, ⟨ts, ts.length, 0⟩)
      | .error e => Descent.run fuel source = .error (.fault e) ∧
        program source = .error (.unreadable e) ∧
        1 ≤ e.line ∧ e.line ≤ 1 + source.toList.count '\n' := by
  have hlength : source.length = source.toList.length := String.length_toList.symm
  have hscan : Scanner.scan source.toList fuel 1 0 [] = (tokenize source).mapError .fault :=
    Scanner.scan_eq [] (Nat.zero_le _) (by omega)
  refine ⟨hscan, ?_⟩
  cases htokens : tokenize source with
  | error e =>
    have hparse : parse source = .error e := by
      rw [parse, htokens]
      rfl
    rw [program, Descent.run, hscan, htokens, hparse]
    exact ⟨rfl, rfl, Lexer.line_of_tokenizeFrom htokens⟩
  | ok ts =>
    rw [htokens] at hscan
    obtain ⟨hle, hlines⟩ := (Lexer.tokenize_eq_ok_iff.1 htokens).lines
    have hagree : Agree ts.length ts 0 (Parser.program ts ⟨ts, 1⟩)
        (Descent.program (Descent.statement fuel) fuel ⟨ts, 0, 0⟩) :=
      program_inStep (fun j _ => statement_inStep fuel rfl (by omega)) (by omega) (by omega)
        (Nat.zero_le _)
    rw [program, run_of_scan hscan, parse_of_tokenize htokens]
    generalize Parser.program ts ⟨ts, 1⟩ = r at hagree ⊢
    generalize Descent.program (Descent.statement fuel) fuel ⟨ts, 0, 0⟩ = r' at hagree ⊢
    cases hagree with
    | read p i hgoal hwithin =>
      obtain rfl : i = ts.length := Nat.le_antisymm hwithin hgoal
      exact ⟨ts, rfl, rfl⟩
    | failed e i d hline hdepth =>
      -- The line is that of a token, or the first one if there is no token.
      refine ⟨rfl, rfl, ?_⟩
      rcases hline with hfirst | ⟨t, ht, hline⟩
      · omega
      · exact hline ▸ hlines t ht

/-- A script of two lines in which a parenthesis is not closed. -/
theorem parsing_comes_back_parenthesis :
    let source := "f();\nlet x = (1; 2"
    2 * source.length + 3 ≤ 45 ∧
      Descent.run 45 source = .error (.fault ⟨2, .expected "')'" (some .semicolon)⟩) := by
  intro source
  have hfuel : 2 * source.length + 3 ≤ 45 := by decide
  -- The tokens are computed; the theorem tells the rest from what the list parser makes of them.
  have htokens : tokenize source = .ok [⟨.ident "f", 1⟩, ⟨.openParen, 1⟩, ⟨.closeParen, 1⟩,
      ⟨.semicolon, 1⟩, ⟨.declare, 2⟩, ⟨.ident "x", 2⟩, ⟨.assign, 2⟩, ⟨.openParen, 2⟩,
      ⟨.number 4607182418800017408, 2⟩, ⟨.semicolon, 2⟩, ⟨.number 4611686018427387904, 2⟩] := by
    decide +kernel
  have hparse : parse source = .error ⟨2, .expected "')'" (some .semicolon)⟩ := by
    rw [parse_of_tokenize htokens]
    rfl
  have h := (parsing_comes_back source 45 hfuel).2
  rw [hparse] at h
  exact ⟨hfuel, h.1⟩

end Dialogue.Script
