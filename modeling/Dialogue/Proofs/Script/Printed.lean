import Dialogue.Script.Parser

namespace Dialogue.Script

/-!
# Programs written as tokens

Every program can be written down on one line: simple statements end with a semicolon, bodies and
blocks stand in braces, an alternative without statements is left out, and an operand is put in
parentheses only where it binds more loosely than its place asks for.

* `Expr.rank`: how tightly an expression binds, from conditionals to primary expressions.
* `Expr.tokensAt`, `Statement.tokens`: expressions, at a place that asks for a rank, and statements.
* `Expr.nestingAt`, `Statement.nesting`: how many statements, expressions and prefix operators are
  open at once where most of them are.
-/

/-! ### Ranks -/

/-- How tightly a binary operator binds. -/
def BinaryOp.rank : BinaryOp → Nat
  | .equal | .notEqual | .strictEqual | .strictNotEqual => 3
  | .less | .greater | .lessEqual | .greaterEqual => 4
  | .add | .subtract => 5
  | .multiply | .divide | .remainder => 6

namespace Expr

/-- How tightly an expression binds: conditionals bind loosest, then come the binary operators from
`||` to the multiplicative ones, then prefix operators, and members, indices, calls, names and
literals bind tightest. -/
def rank : Expr → Nat
  | conditional _ _ _ => 0
  | or _ _ => 1
  | and _ _ => 2
  | binary op _ _ => op.rank
  | unary _ _ => 7
  | literal _ | name _ | member _ _ | index _ _ | call _ _ => 8

end Expr

/-! ### Tokens -/

/-- The token that a literal is written as. -/
def Literal.token : Literal → Token
  | text value => .text value
  | number bits => .number bits
  | bool true => .trueWord
  | bool false => .falseWord
  | null => .nullWord
  | undefined => .undefinedWord

/-- The token that an operator before an operand is written as. -/
def UnaryOp.token : UnaryOp → Token
  | not => .not
  | minus => .minus
  | plus => .plus

/-- The token that an operator between operands is written as. -/
def BinaryOp.token : BinaryOp → Token
  | add => .plus
  | subtract => .minus
  | multiply => .star
  | divide => .slash
  | remainder => .percent
  | equal => .equal
  | notEqual => .notEqual
  | strictEqual => .strictEqual
  | strictNotEqual => .strictNotEqual
  | less => .less
  | greater => .greater
  | lessEqual => .lessEqual
  | greaterEqual => .greaterEqual

/-- Puts tokens in parentheses if need be. -/
def enclosed (needed : Bool) (ts : List Token) : List Token :=
  if needed then .openParen :: (ts ++ [.closeParen]) else ts

/-- Puts tokens in braces. -/
def braced (ts : List Token) : List Token := .openBrace :: (ts ++ [.closeBrace])

mutual

/-- The tokens of an expression. -/
def Expr.tokens : Expr → List Token
  | .literal value => [value.token]
  | .name n => [.ident n]
  | .member object property =>
    enclosed (object.rank < 8) object.tokens ++ [.dot, .ident property]
  | .index object i =>
    enclosed (object.rank < 8) object.tokens ++ .openBracket :: (i.tokens ++ [.closeBracket])
  | .call callee args =>
    enclosed (callee.rank < 8) callee.tokens ++
      .openParen :: (Expr.listTokens args ++ [.closeParen])
  | .unary op operand => op.token :: enclosed (operand.rank < 7) operand.tokens
  | .binary op left right =>
    enclosed (left.rank < op.rank) left.tokens ++
      op.token :: enclosed (right.rank < op.rank + 1) right.tokens
  | .and left right =>
    enclosed (left.rank < 2) left.tokens ++ .and :: enclosed (right.rank < 3) right.tokens
  | .or left right =>
    enclosed (left.rank < 1) left.tokens ++ .or :: enclosed (right.rank < 2) right.tokens
  | .conditional condition yes no =>
    enclosed (condition.rank < 1) condition.tokens ++
      .question :: (yes.tokens ++ .colon :: no.tokens)

/-- The tokens of expressions, with commas between them. -/
def Expr.listTokens : List Expr → List Token
  | [] => []
  | e :: rest => e.tokens ++ Expr.moreTokens rest

/-- The tokens of expressions, with a comma before each of them. -/
def Expr.moreTokens : List Expr → List Token
  | [] => []
  | e :: rest => .comma :: (e.tokens ++ Expr.moreTokens rest)

end

/-- The tokens of an expression at a place that asks for a rank. -/
def Expr.tokensAt (r : Nat) (e : Expr) : List Token := enclosed (e.rank < r) e.tokens

/-- The expression that a target is written as. -/
def Target.expr : Target → Expr
  | name n => .name n
  | member object property => .member object property
  | index object i => .index object i

mutual

/-- The tokens of a statement. -/
def Statement.tokens : Statement → List Token
  | .declare name none => [.declare, .ident name, .semicolon]
  | .declare name (some e) => .declare :: .ident name :: .assign :: (e.tokens ++ [.semicolon])
  | .assign target append value =>
    target.expr.tokens ++
      (if append then Token.plusAssign else .assign) :: (value.tokens ++ [.semicolon])
  | .choose condition yes no =>
    .ifWord :: .openParen :: (condition.tokens ++ .closeParen ::
      (braced (Statement.listTokens yes) ++
        if no.isEmpty then [] else .elseWord :: braced (Statement.listTokens no)))
  | .repeat condition body =>
    .whileWord :: .openParen :: (condition.tokens ++ .closeParen ::
      braced (Statement.listTokens body))
  | .finish none => [.returnWord, .semicolon]
  | .finish (some e) => .returnWord :: (e.tokens ++ [.semicolon])
  | .throw e => .throwWord :: (e.tokens ++ [.semicolon])
  | .evaluate e => e.tokens ++ [.semicolon]
  | .block body => braced (Statement.listTokens body)

/-- The tokens of statements, one after the other. -/
def Statement.listTokens : List Statement → List Token
  | [] => []
  | s :: rest => s.tokens ++ Statement.listTokens rest

end

/-! ### Nesting -/

/-- One more if parentheses are needed. -/
def raised (needed : Bool) (n : Nat) : Nat := if needed then n + 1 else n

mutual

/-- How many expressions and prefix operators are open at once inside an expression, where most of
them are. An expression is open between parentheses or brackets, as an argument, and as an
alternative of a conditional. -/
def Expr.nesting : Expr → Nat
  | .literal _ | .name _ => 0
  | .member object _ => raised (object.rank < 8) object.nesting
  | .index object i => max (raised (object.rank < 8) object.nesting) (i.nesting + 1)
  | .call callee args => max (raised (callee.rank < 8) callee.nesting) (Expr.listNesting args)
  | .unary _ operand => raised (operand.rank < 7) operand.nesting + 1
  | .binary op left right =>
    max (raised (left.rank < op.rank) left.nesting)
      (raised (right.rank < op.rank + 1) right.nesting)
  | .and left right =>
    max (raised (left.rank < 2) left.nesting) (raised (right.rank < 3) right.nesting)
  | .or left right =>
    max (raised (left.rank < 1) left.nesting) (raised (right.rank < 2) right.nesting)
  | .conditional condition yes no =>
    max (raised (condition.rank < 1) condition.nesting) (max (yes.nesting + 1) (no.nesting + 1))

/-- The same for expressions, each of which is open by itself. -/
def Expr.listNesting : List Expr → Nat
  | [] => 0
  | e :: rest => max (e.nesting + 1) (Expr.listNesting rest)

end

/-- The nesting of an expression at a place that asks for a rank. -/
def Expr.nestingAt (r : Nat) (e : Expr) : Nat := raised (e.rank < r) e.nesting

/-- The nesting of an expression that stands by itself and may be left out. -/
def Expr.optionalNesting : Option Expr → Nat
  | none => 0
  | some e => e.nesting + 1

mutual

/-- How many statements, expressions and prefix operators are open at once in a statement, where
most of them are. -/
def Statement.nesting : Statement → Nat
  | .declare _ value => Expr.optionalNesting value + 1
  | .assign target _ value => max (target.expr.nesting + 1) (value.nesting + 1) + 1
  | .choose condition yes no =>
    max (condition.nesting + 1) (max (Statement.listNesting yes) (Statement.listNesting no)) + 1
  | .repeat condition body => max (condition.nesting + 1) (Statement.listNesting body) + 1
  | .finish value => Expr.optionalNesting value + 1
  | .throw e => e.nesting + 1 + 1
  | .evaluate e => e.nesting + 1 + 1
  | .block body => Statement.listNesting body + 1

/-- The same for statements one after the other. -/
def Statement.listNesting : List Statement → Nat
  | [] => 0
  | s :: rest => max s.nesting (Statement.listNesting rest)

end

end Dialogue.Script
