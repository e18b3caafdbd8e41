import Dialogue.Script.Call
import Dialogue.Script.Machine
import Dialogue.Script.Parser

namespace Dialogue.Script

/-!
# Running scripts

Every statement, every expression and every turn of a loop takes a step, and there are only so many
steps. A run changes nothing by itself: its outcome holds the variables it writes, the redirect it
asks for, and its result.

* `Expr.eval`, `Statement.run`: evaluate an expression, execute a statement.
* `Program.run`: the outcome of a program.
* `Sandbox`, `sandbox`: run a script from its text.
-/

open Effects

section Interpreter

variable {m : Type → Type} [Monad m] [Effects m]

/-- What the last operator of an operation on texts or numbers makes of its operands. -/
def Effects.ofBinary (op : BinaryOp) (a b : Value) : m Value :=
  (Value.ofBinary? op a b).elim (faulty .textTooLong) pure

mutual

/-- The value of an expression. -/
def Expr.eval : Expr → m Value
  | .literal v => evaluating (return v.value)
  | .name n => evaluating (lookup n)
  | .member object property => evaluating do getProperty (← object.eval) property
  | .index object i => evaluating do
    let o ← object.eval
    getIndex o (← i.eval)
  | .call (.member object property) args => evaluating do
    let receiver ← object.eval
    callMethod receiver property (← Expr.evalAll args)
  | .call (.index object i) args => evaluating do
    let receiver ← object.eval
    let name ← i.eval
    callMethod receiver name.display (← Expr.evalAll args)
  | .call callee args => evaluating do
    let target ← callee.eval
    callValue target (← Expr.evalAll args)
  | .unary op operand => evaluating (return Value.ofUnary op (← operand.eval))
  | .binary op left right => evaluating do
    let a ← left.eval
    ofBinary op a (← right.eval)
  | .and left right => evaluating do
    let a ← left.eval
    if a.truthy then right.eval else return a
  | .or left right => evaluating do
    let a ← left.eval
    if a.truthy then return a else right.eval
  | .conditional condition yes no => evaluating do
    if (← condition.eval).truthy then yes.eval else no.eval

/-- The values of expressions, from the first to the last. -/
def Expr.evalAll : List Expr → m (List Value)
  | [] => return []
  | e :: rest => do
    let v ← e.eval
    return v :: (← Expr.evalAll rest)

end

/-- How a statement ends. -/
inductive Signal
  | next
  /-- The script ends with a value. -/
  | finish (value : Value)
deriving Repr

/-- The value of an expression that may be left out. -/
def evalOptional : Option Expr → m Value
  | some e => e.eval
  | none => return .undefined

/-- The value to assign: the one that is given, or added to the one that is held. -/
def appended (append : Bool) (held : m Value) (value : Value) : m Value := do
  if append then noting (ofBinary .add (← noting held) value) else return value

/-- Assigns the value of an expression. -/
def Target.assign (append : Bool) (value : Expr) : Target → m Unit
  | .name n => do
    let v ← value.eval
    assignName n (← appended append (lookup n) v)
  | .member object property => do
    let o ← object.eval
    let v ← value.eval
    setProperty o property (← appended append (getProperty o property) v)
  | .index object i => do
    let o ← object.eval
    -- The index becomes a name before the value is computed.
    let property := (← i.eval).display
    let v ← value.eval
    setProperty o property (← appended append (getProperty o property) v)

/-- Repeats a body while a condition holds. Every turn takes a step, so `fuel` need not exceed the
number of steps that are left. -/
def repeatWhile (condition : m Value) (body : m Signal) : Nat → m Signal
  | 0 => fail .stepLimit
  | fuel + 1 => do
    if (← condition).truthy then
      -- The step of the turn; its condition and its body take their own.
      tick
      match ← body with
      | .next => repeatWhile condition body fuel
      | .finish v => return .finish v
    else return .next

mutual

/-- Executes a statement. -/
def Statement.run : Statement → m Signal
  | .declare name value => do
    tick
    introduce name (← evalOptional value)
    return .next
  | .assign target append value => do
    tick
    target.assign append value
    return .next
  | .choose condition yes no => do
    tick
    if (← condition.eval).truthy then inBlock (Statement.runAll yes)
    else inBlock (Statement.runAll no)
  | .repeat condition body => do
    tick
    repeatWhile condition.eval (inBlock (Statement.runAll body)) (← stepsLeft)
  | .finish value => do
    tick
    return .finish (← evalOptional value)
  | .throw value => do
    tick
    -- An expression ends no script, but its value is what a script without `return` comes to.
    fail (.thrown (← value.eval).display)
  | .evaluate value => do
    tick
    complete (← value.eval)
    return .next
  | .block body => do
    tick
    inBlock (Statement.runAll body)

/-- Executes statements until one ends the script. -/
def Statement.runAll : List Statement → m Signal
  | [] => return .next
  | s :: rest => do
    match ← s.run with
    | .next => Statement.runAll rest
    | .finish v => return .finish v

end

end Interpreter

/-- What a run asks for. -/
structure Outcome where
  redirectUrl : Option String := none
  /-- The variables to set, each with its last value, in the order of the first writes. -/
  mutations : List (String × String) := []
  /-- The value that the script ends with, else that of its last expression. -/
  result : Option String := none
deriving Repr, DecidableEq

/-- The value in an outcome. -/
def Value.result : Value → Option String
  | .undefined => none
  | v => some v.display

/-- The outcome of a machine that has stopped. -/
def Machine.outcome (m : Machine) (s : Signal) : Outcome where
  redirectUrl := m.redirectUrl
  mutations := m.overlay.mutations
  result := match s with
    | .next => m.completion.result
    | .finish v => v.result

/-- The outcome of a program. -/
def Program.run (program : Program) (context : Context) : Except Failure Outcome := do
  let (signal, machine) ← (Statement.runAll program : Eval Signal) context {}
  return machine.outcome signal

/-- Runs the text of a script against variables. -/
abbrev Sandbox :=
  String → Dictionary String → Mode → ClientContext → Except Failure Outcome

/-- The program of a script; a fault in its text is a failure to run it. -/
def program (source : String) : Except Failure Program :=
  (parse source).mapError .unreadable

/-- The sandbox with given limits and a clock. -/
def sandbox (limits : Limits) (elapsed : Nat → Nat) : Sandbox :=
  fun source vars mode client => do
    let program ← program source
    Program.run program { vars, mode, client, limits, elapsed }

end Dialogue.Script
