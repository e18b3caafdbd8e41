import Dialogue.Script.Lexer
import Dialogue.Script.Tree

namespace Dialogue.Script

/-!
# From tokens to syntax trees

A statement ends with a semicolon, before a closing brace, at the end of the script, or where the
next token stands on a later line. Statements, expressions and prefix operators may be nested in
one another up to a limit: each parser is indexed by the number of levels that are left.

* `Parser.binaryLevels`: the binary operators from loosest to tightest.
* `Parser.operand`, `Parser.expression`, `Parser.statement`: the parsers of one level.
* `parse`: the program of a script.
-/

/-- Where a parser stands: the tokens in front of it, and the line of the token behind it. -/
structure Cursor where
  rest : List Located
  lastLine : Nat
deriving Repr, DecidableEq

namespace Cursor

/-- The line that faults are reported on: that of the next token, at the end that of the last. -/
def line (c : Cursor) : Nat :=
  match c.rest with
  | t :: _ => t.line
  | [] => c.lastLine

/-- The next token. -/
def token? (c : Cursor) : Option Token := c.rest.head?.map Located.token

/-- The cursor past the next token. -/
def next (c : Cursor) : Cursor :=
  match c.rest with
  | t :: rest => ⟨rest, t.line⟩
  | [] => c

end Cursor

/-- A parser takes tokens off or fails. -/
abbrev Parser (α : Type) := StateT Cursor (Except SyntaxError) α

namespace Parser

variable {α : Type}

/-! ### Single tokens -/

/-- Fails on the line of the next token. -/
def fault (f : SyntaxFault) : Parser α := fun c => .error ⟨c.line, f⟩

/-- Fails because something else was expected here. -/
def expected (what : String) : Parser α := fun c => .error ⟨c.line, .expected what c.token?⟩

/-- The next token, which stays. -/
def peek : Parser (Option Token) := fun c => .ok (c.token?, c)

/-- Takes the next token off; nothing happens at the end. -/
def advance : Parser Unit := fun c => .ok ((), c.next)

/-- Takes the next token off if it is the given one. -/
def eat (t : Token) : Parser Bool := fun c =>
  if c.token? = some t then .ok (true, c.next) else .ok (false, c)

/-- Takes the given token off and fails on any other. -/
def expect (t : Token) (what : String) : Parser Unit := do
  if !(← eat t) then expected what

/-- The tokens that are left. As every turn of a loop takes one of them off, they bound it. -/
def remaining : Parser (List Located) := fun c => .ok (c.rest, c)

/-- Takes a name off. Any other token is passed over before the fault is reported. -/
def takeName (f : SyntaxFault) : Parser String := do
  match ← peek with
  | some (.ident name) => advance; return name
  | _ => advance; fault f

/-- A level too many. -/
def tooDeep : Parser α := fault .nestedTooDeeply

/-! ### Expressions -/

/-- An operator of a level: what it makes of its operands. -/
abbrev Combine := Expr → Expr → Expr

/-- The operators that a level is made of. -/
abbrev Level := Token → Option Combine

/-- The binary operators from the loosest level to the tightest. -/
def binaryLevels : List Level :=
  [ fun | .or => some .or
        | _ => none,
    fun | .and => some .and
        | _ => none,
    fun | .equal => some (.binary .equal)
        | .notEqual => some (.binary .notEqual)
        | .strictEqual => some (.binary .strictEqual)
        | .strictNotEqual => some (.binary .strictNotEqual)
        | _ => none,
    fun | .less => some (.binary .less)
        | .greater => some (.binary .greater)
        | .lessEqual => some (.binary .lessEqual)
        | .greaterEqual => some (.binary .greaterEqual)
        | _ => none,
    fun | .plus => some (.binary .add)
        | .minus => some (.binary .subtract)
        | _ => none,
    fun | .star => some (.binary .multiply)
        | .slash => some (.binary .divide)
        | .percent => some (.binary .remainder)
        | _ => none ]

/-- Goes on after a left operand while operators of the level follow, as often as there are
tokens. -/
def chainFrom (level : Level) (operand : Parser Expr) : List Located → Expr → Parser Expr
  | [], left => return left
  | _ :: fuel, left => do
    match (← peek).bind level with
    | none => return left
    | some combine =>
      advance
      let right ← operand
      -- Another operator of the level takes no level of nesting, however many there are.
      chainFrom level operand fuel (combine left right)

/-- Operands with operators of one level between them, grouped to the left. -/
def chain (level : Level) (operand : Parser Expr) : Parser Expr := do
  let left ← operand
  chainFrom level operand (← remaining) left

/-- All binary operators over operands. -/
def binary (operand : Parser Expr) : Parser Expr :=
  binaryLevels.foldr chain operand

/-- A condition that may be followed by two alternatives. -/
def conditional (operand inner : Parser Expr) : Parser Expr := do
  let condition ← binary operand
  if ← eat .question then
    let yes ← inner
    expect .colon "':' in conditional expression"
    let no ← inner
    return .conditional condition yes no
  else return condition

/-- What follows an argument: more of them up to the closing parenthesis. -/
def argumentsFrom (inner : Parser Expr) : List Located → Parser (List Expr)
  | [] => expected "',' or ')'"
  | _ :: fuel => do
    if ← eat .closeParen then return []
    else
      expect .comma "',' or ')'"
      let next ← inner
      return next :: (← argumentsFrom inner fuel)

/-- Arguments up to the closing parenthesis. -/
def arguments (inner : Parser Expr) : Parser (List Expr) := do
  if ← eat .closeParen then return []
  else
    let first ← inner
    return first :: (← argumentsFrom inner (← remaining))

/-- Members, indices and calls that follow an expression. -/
def accessFrom (inner : Parser Expr) : List Located → Expr → Parser Expr
  | [], e => return e
  | _ :: fuel, e => do
    match ← peek with
    | some .dot =>
      advance
      let property ← takeName .expectedPropertyName
      accessFrom inner fuel (.member e property)
    | some .openBracket =>
      advance
      let index ← inner
      expect .closeBracket "']'"
      accessFrom inner fuel (.index e index)
    | some .openParen =>
      advance
      let args ← arguments inner
      -- Nor does another access.
      accessFrom inner fuel (.call e args)
    | _ => return e

/-- The literal that a token stands for. -/
def literal? : Token → Option Literal
  | .number bits => some (.number bits)
  | .text value => some (.text value)
  | .trueWord => some (.bool true)
  | .falseWord => some (.bool false)
  | .nullWord => some .null
  | .undefinedWord => some .undefined
  | _ => none

/-- A literal, a name, or an expression in parentheses. -/
def primary (inner : Parser Expr) : Parser Expr := do
  match ← peek with
  | none => fault .unexpectedEnd
  | some .openParen =>
    advance
    let e ← inner
    expect .closeParen "')'"
    return e
  | some (.ident name) => advance; return .name name
  | some t =>
    match literal? t with
    | some value => advance; return .literal value
    | none => fault (.unexpectedToken t)

/-- A primary expression with what follows it. -/
def access (inner : Parser Expr) : Parser Expr := do
  let e ← primary inner
  accessFrom inner (← remaining) e

/-- The operator that a token stands for before an operand. -/
def unaryOp? : Token → Option UnaryOp
  | .not => some .not
  | .minus => some .minus
  | .plus => some .plus
  | _ => none

/-- An operand: an operator before an operand of the level below, or an access. -/
def operandOver (below inner : Parser Expr) : Parser Expr := do
  match (← peek).bind unaryOp? with
  | some op =>
    advance
    let e ← below
    return .unary op e
  | none => access inner

/-- The parsers of an operand and of an expression with a number of levels left. -/
def levels : Nat → Parser Expr × Parser Expr
  | 0 => (operandOver tooDeep tooDeep, tooDeep)
  | n + 1 =>
    let below := levels n
    let expression := conditional below.1 below.2
    (operandOver below.1 expression, expression)

/-- An operand with a number of levels left. -/
def operand (n : Nat) : Parser Expr := (levels n).1

/-- An expression with a number of levels left. -/
def expression (n : Nat) : Parser Expr := (levels n).2

/-! ### Statements -/

/-- The end of a statement: a semicolon, or what makes one needless. -/
def endStatement : Parser Unit := do
  match ← peek with
  | some .semicolon => advance
  | some .closeBrace | none => return
  | some _ =>
    let c ← get
    -- On a new line a statement may begin without a semicolon before it.
    if c.lastLine < c.line then return else expected "';'"

/-- Statements up to the closing brace. -/
def untilBrace (inner : Parser Statement) : List Located → Parser (List Statement)
  | [] => expected "'\x7d'"
  | _ :: fuel => do
    if ← eat .closeBrace then return []
    else if (← peek).isNone then expected "'\x7d'"
    else
      let first ← inner
      return first :: (← untilBrace inner fuel)

/-- Statements in braces. -/
def block (inner : Parser Statement) : Parser (List Statement) := do
  expect .openBrace "'\x7b'"
  untilBrace inner (← remaining)

/-- A block or a single statement. -/
def body (inner : Parser Statement) : Parser (List Statement) := do
  if (← peek) = some .openBrace then block inner
  else return [← inner]

/-- A condition in parentheses after a keyword. -/
def condition (expression : Parser Expr) (what : String) : Parser Expr := do
  expect .openParen what
  let e ← expression
  expect .closeParen "')'"
  return e

/-- A statement that begins with an expression. -/
def simple (expression : Parser Expr) : Parser Statement := do
  let e ← expression
  let assignment (append : Bool) : Parser Statement := do
    advance
    match e.target? with
    | none => fault .invalidTarget
    | some target =>
      let value ← expression
      endStatement
      return .assign target append value
  match ← peek with
  | some .assign => assignment false
  | some .plusAssign => assignment true
  | _ => endStatement; return .evaluate e

/-- A statement whose parts are read by the given parsers. -/
def statementOver (expression : Parser Expr) (inner : Parser Statement) : Parser Statement := do
  match ← peek with
  | none => expected "statement"
  | some .semicolon => advance; return .block []
  | some .openBrace => return .block (← block inner)
  | some .declare =>
    advance
    let name ← takeName .expectedVariableName
    let value ← if ← eat .assign then some <$> expression else pure none
    endStatement
    return .declare name value
  | some .ifWord =>
    advance
    let c ← condition expression "'(' after if"
    let yes ← body inner
    let no ← if ← eat .elseWord then body inner else pure []
    return .choose c yes no
  | some .whileWord =>
    advance
    let c ← condition expression "'(' after while"
    return .repeat c (← body inner)
  | some .returnWord =>
    advance
    let value ← match ← peek with
      | none | some .semicolon | some .closeBrace => pure none
      | some _ => some <$> expression
    endStatement
    return .finish value
  | some .throwWord =>
    advance
    let value ← expression
    endStatement
    return .throw value
  | some _ => simple expression

/-- A statement with a number of levels left. -/
def statement : Nat → Parser Statement
  | 0 => tooDeep
  | n + 1 => statementOver (expression n) (statement n)

/-- How deep statements, expressions and prefix operators may be nested. -/
def maxDepth : Nat := 64

/-- Statements up to the end, as many as there are tokens at most. -/
def program : List Located → Parser Program
  | [] => return []
  | _ :: fuel => do
    if (← peek).isNone then return []
    else
      let first ← statement maxDepth
      return first :: (← program fuel)

end Parser

/-- The program of a script. -/
def parse (source : String) : Except SyntaxError Program := do
  let tokens ← tokenize source
  let (program, _) ← Parser.program tokens ⟨tokens, 1⟩
  return program

end Dialogue.Script
