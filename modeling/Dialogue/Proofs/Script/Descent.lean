import Dialogue.Proofs.Script.Scanner

namespace Dialogue.Script

open Dialogue.Script.Parser (Level binaryLevels literal? unaryOp? maxDepth)

/-!
# Parsing by index

A parser that goes over the tokens of a script by their index and counts the levels that are open.
It checks each token that it reads by index, that it leaves no level that it has not entered, and
that every statement, every expression and every round of a loop takes a token off. Its recursion
counts down how many rounds it may still make.

* `Place`: where the parser stands.
* `Steps`: what it does; the place is kept when it stops.
* `Descent.nested`: a level is left also if what it holds fails.
* `Descent.run`: the parser.
-/

/-- Where a parser stands: all tokens, the index of the next one, and the levels that are open. -/
structure Place where
  tokens : List Located
  index : Nat
  depth : Nat
deriving Repr, DecidableEq

namespace Place

/-- The next token. -/
def token? (s : Place) : Option Token := s.tokens[s.index]?.map Located.token

/-- The line that faults are reported on: that of the next token, at the end that of the last. -/
def line (s : Place) : Nat := (s.tokens[s.index]?.or s.tokens.getLast?).elim 1 Located.line

/-- The place behind the next token. -/
def next (s : Place) : Place := { s with index := s.index + 1 }

/-- The place one level further down. -/
def deeper (s : Place) : Place := { s with depth := s.depth + 1 }

end Place

/-- What a parser does that goes by index. -/
abbrev Steps (α : Type) := ExceptT Stop (StateM Place) α

namespace Descent

variable {α : Type}

/-! ### Checks -/

/-- Stops where something is done that must not be. -/
def misstep (m : Misstep) : Steps α := throw (.misstep m)

/-- The token at an index. -/
def tokenAt (i : Nat) : Steps Located := do
  match (← get).tokens[i]? with
  | some t => return t
  | none => misstep .noToken

/-- The index of the next token. -/
def position : Steps Nat := do return (← get).index

/-- Checks that tokens have been taken off since an index was the next one. -/
def aheadOf (start : Nat) : Steps Unit := do
  if (← position) ≤ start then misstep .noProgress

/-- Checks that there is a token behind. -/
def notFirst : Steps Unit := do
  if (← position) = 0 then misstep .noTokenBehind

/-! ### Single tokens -/

/-- Fails on a line. -/
def faultOn (line : Nat) (f : SyntaxFault) : Steps α := throw (.fault ⟨line, f⟩)

/-- Fails on the line of the next token. -/
def fault (f : SyntaxFault) : Steps α := do faultOn (← get).line f

/-- The next token, which stays. -/
def peek : Steps (Option Token) := do return (← get).token?

/-- Fails because something else was expected here. -/
def expected (what : String) : Steps α := do fault (.expected what (← peek))

/-- Goes on behind the next token, which was looked at. -/
def skip : Steps Unit := modify Place.next

/-- Takes the next token off; nothing happens at the end. -/
def advance : Steps (Option Token) := do
  match ← peek with
  | some t => skip; return some t
  | none => return none

/-- Takes the next token off if it is the given one. -/
def eat (t : Token) : Steps Bool := do
  if (← peek) = some t then
    skip
    return true
  else return false

/-- Takes the given token off and fails on any other. -/
def expect (t : Token) (what : String) : Steps Unit := do
  if !(← eat t) then expected what

/-- Takes a name off. -/
def takeName (f : SyntaxFault) : Steps String := do
  match ← advance with
  | some (.ident name) => return name
  | _ => fault f

/-! ### Levels -/

/-- Opens a level. -/
def enter : Steps Unit := do
  modify Place.deeper
  if maxDepth < (← get).depth then fault .nestedTooDeeply

/-- Closes a level. -/
def leave : Steps Unit := do
  if (← get).depth = 0 then misstep .noLevel
  else modify fun s => { s with depth := s.depth - 1 }

/-- What steps come to, be it a failure. -/
def outcome (p : Steps α) : Steps (Except Stop α) := fun s => let (r, s) := p s; (.ok r, s)

/-- Steps on a level of their own, which is left also if they fail. -/
def nested (p : Steps α) : Steps α := do
  enter
  let r ← outcome p
  -- Reached with a failure as well, so that the count of levels is right again.
  leave
  MonadExcept.ofExcept r

/-! ### Expressions -/

/-- Goes on after a left operand while operators of the level follow. -/
def chainFrom (level : Level) (operand : Steps Expr) : Nat → Expr → Steps Expr
  | 0, _ => misstep .unfinished
  | fuel + 1, left => do
    let start ← position
    match (← peek).bind level with
    | none => return left
    | some combine =>
      skip
      let right ← operand
      aheadOf start
      chainFrom level operand fuel (combine left right)

/-- Operands with operators of one level between them, grouped to the left. -/
def chain (fuel : Nat) (level : Level) (operand : Steps Expr) : Steps Expr := do
  let left ← operand
  chainFrom level operand fuel left

/-- All binary operators over operands. -/
def binary (fuel : Nat) (operand : Steps Expr) : Steps Expr :=
  binaryLevels.foldr (chain fuel) operand

/-- A condition that may be followed by two alternatives. -/
def conditional (fuel : Nat) (operand inner : Steps Expr) : Steps Expr := do
  let condition ← binary fuel operand
  if ← eat .question then
    let yes ← inner
    expect .colon "':' in conditional expression"
    let no ← inner
    return .conditional condition yes no
  else return condition

/-- Arguments up to the closing parenthesis, at least one. -/
def argumentsFrom (inner : Steps Expr) : Nat → Steps (List Expr)
  | 0 => misstep .unfinished
  | fuel + 1 => do
    let start ← position
    let e ← inner
    if ← eat .closeParen then
      aheadOf start
      return [e]
    else
      expect .comma "',' or ')'"
      aheadOf start
      return e :: (← argumentsFrom inner fuel)

/-- Arguments up to the closing parenthesis. -/
def arguments (fuel : Nat) (inner : Steps Expr) : Steps (List Expr) := do
  if ← eat .closeParen then return [] else argumentsFrom inner fuel

/-- Members, indices and calls that follow an expression. -/
def accessFrom (inner : Steps Expr) : Nat → Expr → Steps Expr
  | 0, _ => misstep .unfinished
  | fuel + 1, e => do
    let start ← position
    match ← peek with
    | some .dot =>
      skip
      let property ← takeName .expectedPropertyName
      aheadOf start
      accessFrom inner fuel (.member e property)
    | some .openBracket =>
      skip
      let index ← inner
      expect .closeBracket "']'"
      aheadOf start
      accessFrom inner fuel (.index e index)
    | some .openParen =>
      skip
      let args ← arguments fuel inner
      aheadOf start
      accessFrom inner fuel (.call e args)
    | _ => return e

/-- A literal, a name, or an expression in parentheses. -/
def primary (inner : Steps Expr) : Steps Expr := do
  let line := (← get).line
  match ← advance with
  | none => faultOn line .unexpectedEnd
  | some .openParen =>
    let e ← inner
    expect .closeParen "')'"
    return e
  | some (.ident name) => return .name name
  | some t =>
    match literal? t with
    | some value => return .literal value
    | none => faultOn line (.unexpectedToken t)

mutual

/-- An operator before an operand, or a primary expression with what follows it. -/
def operand : Nat → Steps Expr
  | 0 => misstep .unfinished
  | fuel + 1 => do
    match (← peek).bind unaryOp? with
    | some op =>
      skip
      -- An operator opens a level, and an operand without one does not.
      let e ← nested (operand fuel)
      return .unary op e
    | none =>
      let e ← primary (expression fuel)
      accessFrom (expression fuel) fuel e

/-- An expression on a level of its own. -/
def expression : Nat → Steps Expr
  | 0 => misstep .unfinished
  | fuel + 1 => do
    let start ← position
    let e ← nested (conditional fuel (operand fuel) (expression fuel))
    aheadOf start
    return e

end

/-! ### Statements -/

/-- The end of a statement: a semicolon, or what makes one needless. -/
def endStatement : Steps Unit := do
  notFirst
  match ← peek with
  | some .semicolon => skip
  | some .closeBrace | none => return
  | some _ =>
    -- Both tokens are read by index, whether there are such tokens or not.
    let t ← tokenAt (← position)
    let behind ← tokenAt ((← position) - 1)
    if behind.line < t.line then return else expected "';'"

/-- Statements up to the closing brace. -/
def untilBrace (inner : Steps Statement) : Nat → Steps (List Statement)
  | 0 => misstep .unfinished
  | fuel + 1 => do
    let start ← position
    if ← eat .closeBrace then return []
    else if (← peek).isNone then expected "'\x7d'"
    else
      let first ← inner
      aheadOf start
      return first :: (← untilBrace inner fuel)

/-- Statements in braces. -/
def block (fuel : Nat) (inner : Steps Statement) : Steps (List Statement) := do
  expect .openBrace "'\x7b'"
  untilBrace inner fuel

/-- A block or a single statement. -/
def body (fuel : Nat) (inner : Steps Statement) : Steps (List Statement) := do
  if (← peek) = some .openBrace then block fuel inner
  else return [← inner]

/-- A condition in parentheses after a keyword. -/
def condition (expression : Steps Expr) (what : String) : Steps Expr := do
  expect .openParen what
  let e ← expression
  expect .closeParen "')'"
  return e

/-- A statement that begins with an expression. -/
def simple (expression : Steps Expr) : Steps Statement := do
  let e ← expression
  let assignment (append : Bool) : Steps Statement := do
    skip
    match e.target? with
    | none => fault .invalidTarget
    | some target =>
      let value ← expression
      endStatement
      return .assign target append value
  match ← peek with
  | some .assign => assignment false
  | some .plusAssign => assignment true
  | _ => endStatement; return .evaluate e

/-- A statement whose parts are read by the given steps. -/
def statementOver (fuel : Nat) (expression : Steps Expr) (inner : Steps Statement) :
    Steps Statement := do
  match ← peek with
  | none => expected "statement"
  | some .semicolon => skip; return .block []
  | some .openBrace => return .block (← block fuel inner)
  | some .declare =>
    skip
    let name ← takeName .expectedVariableName
    let value ← if ← eat .assign then some <$> expression else pure none
    endStatement
    return .declare name value
  | some .ifWord =>
    skip
    let c ← condition expression "'(' after if"
    let yes ← body fuel inner
    let no ← if ← eat .elseWord then body fuel inner else pure []
    return .choose c yes no
  | some .whileWord =>
    skip
    let c ← condition expression "'(' after while"
    return .repeat c (← body fuel inner)
  | some .returnWord =>
    skip
    let value ← match ← peek with
      | none | some .semicolon | some .closeBrace => pure none
      | some _ => some <$> expression
    endStatement
    return .finish value
  | some .throwWord =>
    skip
    let value ← expression
    endStatement
    return .throw value
  | some _ => simple expression

/-- A statement on a level of its own. -/
def statement : Nat → Steps Statement
  | 0 => misstep .unfinished
  | fuel + 1 => do
    let start ← position
    let s ← nested (statementOver fuel (expression fuel) (statement fuel))
    aheadOf start
    return s

/-- Statements up to the end. -/
def program (inner : Steps Statement) : Nat → Steps Program
  | 0 => misstep .unfinished
  | fuel + 1 => do
    let start ← position
    if (← peek).isNone then return []
    else
      let first ← inner
      aheadOf start
      return first :: (← program inner fuel)

/-- The program of a script, and the place that the parser comes to. -/
def run (fuel : Nat) (source : String) : Except Stop (Program × Place) := do
  let tokens ← Scanner.scan source.toList fuel 1 0 []
  match program (statement fuel) fuel ⟨tokens, 0, 0⟩ with
  | (.ok p, s) => return (p, s)
  | (.error stop, _) => throw stop

/-! ### What steps do at a place -/

variable {β : Type} {q : Steps α} {s : Place} {t : Token}

/-- Steps are taken one after the other, and the first that stops ends them all. -/
theorem bind_apply (q : Steps α) (g : α → Steps β) (s : Place) :
    (q >>= g) s = match q s with
      | (.ok a, s') => g a s'
      | (.error e, s') => (.error e, s') := by
  simp only [bind, ExceptT.bind, ExceptT.mk, StateT.bind]
  obtain ⟨a | e, s'⟩ := q s <;> rfl

theorem get_bind (g : Place → Steps α) (s : Place) : ((get : Steps Place) >>= g) s = g s s := rfl

theorem position_bind (g : Nat → Steps α) (s : Place) :
    (position >>= g) s = g s.index s := rfl

theorem peek_bind (g : Option Token → Steps α) (s : Place) : (peek >>= g) s = g s.token? s := rfl

/-- The guard of a loop passes when the loop has moved. -/
theorem aheadOf_of_lt {start : Nat} (h : start < s.index) : aheadOf start s = (.ok (), s) := by
  rw [aheadOf, position_bind, if_neg (Nat.not_le.2 h)]
  rfl

/-- A token stands before any place but the first. -/
theorem notFirst_of_pos (h : 0 < s.index) : notFirst s = (.ok (), s) := by
  rw [notFirst, position_bind, if_neg (Nat.ne_of_gt h)]
  rfl

/-- A token that is there is found by its index. -/
theorem tokenAt_of_getElem? {t : Located} {i : Nat} (h : s.tokens[i]? = some t) :
    tokenAt i s = (.ok t, s) := by
  rw [tokenAt, get_bind, h]
  rfl

/-- Advancing at a token gives it and goes on to the next place. -/
theorem advance_bind_of_token {g : Option Token → Steps α} (h : s.token? = some t) :
    (advance >>= g) s = g (some t) s.next := by
  have hadvance : advance s = (.ok (some t), s.next) := by
    rw [advance, peek_bind, h]
    rfl
  rw [bind_apply, hadvance]

/-- Advancing at the end gives nothing and stays there. -/
theorem advance_bind_of_none {g : Option Token → Steps α} (h : s.token? = none) :
    (advance >>= g) s = g none s := by
  have hadvance : advance s = (.ok none, s) := by
    rw [advance, peek_bind, h]
    rfl
  rw [bind_apply, hadvance]

/-- The token that is expected is taken. -/
theorem eat_of_token (h : s.token? = some t) : eat t s = (.ok true, s.next) := by
  rw [eat, peek_bind, if_pos h]
  rfl

/-- Any other token is left alone. -/
theorem eat_of_ne (h : s.token? ≠ some t) : eat t s = (.ok false, s) := by
  rw [eat, peek_bind, if_neg h]
  rfl

/-- Leaving a level needs one to leave; the counter never wraps below zero. -/
theorem leave_apply (s : Place) : leave s =
    if s.depth = 0 then (.error (.misstep .noLevel), s)
    else (.ok (), { s with depth := s.depth - 1 }) := by
  rw [leave, get_bind]
  split <;> rfl

/-- At the limit no level is opened. -/
theorem nested_of_eq (h : s.depth = maxDepth) :
    nested q s = (.error (.fault ⟨s.line, .nestedTooDeeply⟩), s.deeper) := by
  have henter : enter s = (.error (.fault ⟨s.line, .nestedTooDeeply⟩), s.deeper) := by
    show (if maxDepth < s.depth + 1 then fault .nestedTooDeeply else pure () : Steps Unit) _ = _
    rw [if_pos (by omega)]
    rfl
  rw [nested, bind_apply, henter]

/-- Where a level may be opened, it is closed again whatever the steps come to. -/
theorem nested_of_lt (h : s.depth < maxDepth) :
    nested q s = match q s.deeper with
      | (r, s') =>
        if s'.depth = 0 then (.error (.misstep .noLevel), s')
        else (r, { s' with depth := s'.depth - 1 }) := by
  -- There is room for one level more, so entering it succeeds.
  have henter : enter s = (.ok (), s.deeper) := by
    show (if maxDepth < s.depth + 1 then fault .nestedTooDeeply else pure () : Steps Unit) _ = _
    rw [if_neg (by omega)]
    rfl
  rw [nested, bind_apply, henter]
  show (leave >>= fun _ => MonadExcept.ofExcept (q s.deeper).1 : Steps α) (q s.deeper).2 = _
  obtain ⟨r, s'⟩ := q s.deeper
  rw [bind_apply, leave_apply]
  dsimp only
  -- The level is given back whether the step inside succeeded or not, so both results agree.
  by_cases hzero : s'.depth = 0
  · rw [if_pos hzero, if_pos hzero]
  · rw [if_neg hzero, if_neg hzero]
    cases r <;> rfl

end Descent

end Dialogue.Script
