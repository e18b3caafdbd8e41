import Dialogue.Script.Token

namespace Dialogue.Script

/-!
# Syntax trees of scripts

* `Expr`: what has a value.
* `Target`: what can be assigned to.
* `Statement`: what is executed; a `Program` is a list of statements.
-/

/-- A value that is written out. A number is kept by its binary64 pattern. -/
inductive Literal
  | text (value : String)
  | number (bits : UInt64)
  | bool (value : Bool)
  | null
  | undefined
deriving Repr, DecidableEq

/-- Operators with one operand. -/
inductive UnaryOp
  | not
  | minus
  | plus
deriving Repr, DecidableEq

/-- Operators that evaluate both operands. -/
inductive BinaryOp
  | add
  | subtract
  | multiply
  | divide
  | remainder
  | equal
  | notEqual
  | strictEqual
  | strictNotEqual
  | less
  | greater
  | lessEqual
  | greaterEqual
deriving Repr, DecidableEq

/-- Expressions. -/
inductive Expr
  | literal (value : Literal)
  | name (name : String)
  | member (object : Expr) (property : String)
  | index (object index : Expr)
  | call (callee : Expr) (arguments : List Expr)
  | unary (op : UnaryOp) (operand : Expr)
  | binary (op : BinaryOp) (left right : Expr)
  | and (left right : Expr)
  | or (left right : Expr)
  | conditional (condition yes no : Expr)
deriving Repr

instance : Inhabited Expr := ⟨.literal .undefined⟩

/-- What can be assigned to. -/
inductive Target
  | name (name : String)
  | member (object : Expr) (property : String)
  | index (object index : Expr)
deriving Repr

/-- The target that an expression on the left of an assignment stands for. -/
def Expr.target? : Expr → Option Target
  | name n => some (.name n)
  | member object property => some (.member object property)
  | index object i => some (.index object i)
  | _ => none

/-- Statements. -/
inductive Statement
  /-- Introduces a name in the innermost block. -/
  | declare (name : String) (value : Option Expr)
  /-- Sets a target; `append` adds to what it holds. -/
  | assign (target : Target) (append : Bool) (value : Expr)
  | choose (condition : Expr) (yes no : List Statement)
  | repeat (condition : Expr) (body : List Statement)
  /-- Ends the script with a value. -/
  | finish (value : Option Expr)
  | throw (value : Expr)
  | evaluate (value : Expr)
  | block (body : List Statement)
deriving Repr

/-- The statements of a script, in order. -/
abbrev Program := List Statement

end Dialogue.Script
