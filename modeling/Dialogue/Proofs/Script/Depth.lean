import Dialogue.Proofs.Script.Printed

namespace Dialogue.Script

/-!
# How deep syntax trees are

An expression begins with its left operand, its object or its callee, and these may begin with
others in turn: operators of one rank, members, indices and calls follow one another without being
nested. What nesting bounds is therefore not the depth of a tree but the depth that is left when
such a chain counts as one.

* `Expr.depth`, `Statement.depth`: the longest way from a root to a leaf.
* `Expr.innerDepth`, `Statement.innerDepth`: the same when the part that an expression begins with
  stands no deeper than the expression.
* `Statement.listInnerDepth_le`: programs whose nesting is bounded have bounded inner depth.
-/

mutual

/-- How many expressions there are on the longest way down an expression. -/
def Expr.depth : Expr → Nat
  | .literal _ | .name _ => 1
  | .member object _ => object.depth + 1
  | .index object i => max object.depth i.depth + 1
  | .call callee args => max callee.depth (Expr.listDepth args) + 1
  | .unary _ operand => operand.depth + 1
  | .binary _ left right | .and left right | .or left right => max left.depth right.depth + 1
  | .conditional condition yes no => max condition.depth (max yes.depth no.depth) + 1

/-- The same for the deepest of some expressions. -/
def Expr.listDepth : List Expr → Nat
  | [] => 0
  | e :: rest => max e.depth (Expr.listDepth rest)

end

/-- The depth of an expression that may be left out. -/
def Expr.optionalDepth : Option Expr → Nat
  | none => 0
  | some e => e.depth

mutual

/-- How many statements and expressions there are on the longest way down a statement. -/
def Statement.depth : Statement → Nat
  | .declare _ value => Expr.optionalDepth value + 1
  | .assign target _ value => max target.expr.depth value.depth + 1
  | .choose condition yes no =>
    max condition.depth (max (Statement.listDepth yes) (Statement.listDepth no)) + 1
  | .repeat condition body => max condition.depth (Statement.listDepth body) + 1
  | .finish value => Expr.optionalDepth value + 1
  | .throw e => e.depth + 1
  | .evaluate e => e.depth + 1
  | .block body => Statement.listDepth body + 1

/-- The same for the deepest of some statements. -/
def Statement.listDepth : List Statement → Nat
  | [] => 0
  | s :: rest => max s.depth (Statement.listDepth rest)

end

/-! ### Depth inside chains -/

mutual

/-- The depth of an expression when its left operand, its object or its callee stands no deeper
than the expression itself. -/
def Expr.innerDepth : Expr → Nat
  | .literal _ | .name _ => 1
  | .member object _ => object.innerDepth
  | .index object i => max object.innerDepth (i.innerDepth + 1)
  | .call callee args => max callee.innerDepth (Expr.listInnerDepth args)
  | .unary _ operand => operand.innerDepth + 1
  | .binary _ left right | .and left right | .or left right =>
    max left.innerDepth (right.innerDepth + 1)
  | .conditional condition yes no =>
    max condition.innerDepth (max yes.innerDepth no.innerDepth) + 1

/-- The same for the deepest of some arguments. -/
def Expr.listInnerDepth : List Expr → Nat
  | [] => 0
  | e :: rest => max (e.innerDepth + 1) (Expr.listInnerDepth rest)

end

/-- The inner depth of an expression that may be left out. -/
def Expr.optionalInnerDepth : Option Expr → Nat
  | none => 0
  | some e => e.innerDepth

mutual

/-- The depth of a statement when chains in its expressions count as one. -/
def Statement.innerDepth : Statement → Nat
  | .declare _ value => Expr.optionalInnerDepth value + 1
  | .assign target _ value => max target.expr.innerDepth value.innerDepth + 1
  | .choose condition yes no =>
    max condition.innerDepth
      (max (Statement.listInnerDepth yes) (Statement.listInnerDepth no)) + 1
  | .repeat condition body => max condition.innerDepth (Statement.listInnerDepth body) + 1
  | .finish value => Expr.optionalInnerDepth value + 1
  | .throw e => e.innerDepth + 1
  | .evaluate e => e.innerDepth + 1
  | .block body => Statement.listInnerDepth body + 1

/-- The same for the deepest of some statements. -/
def Statement.listInnerDepth : List Statement → Nat
  | [] => 0
  | s :: rest => max s.innerDepth (Statement.listInnerDepth rest)

end

/-! ### Nesting bounds it -/

namespace Expr

variable {e : Expr} {r : Nat}

/-- Parentheses make up for the ranks that lie between an expression and its place. -/
theorem innerDepth_le_at (h : e.innerDepth + e.rank ≤ 9 * e.nesting + 9) (hr : r ≤ 9) :
    e.innerDepth + r ≤ 9 * e.nestingAt r + 9 := by
  unfold nestingAt raised
  split <;> simp_all <;> omega

/-- The right operand of an operator binds more tightly than the operator does. -/
theorem innerDepth_le_infix {left right : Expr} (hr : r + 1 ≤ 9)
    (hleft : left.innerDepth + left.rank ≤ 9 * left.nesting + 9)
    (hright : right.innerDepth + right.rank ≤ 9 * right.nesting + 9) :
    max left.innerDepth (right.innerDepth + 1) + r ≤
      9 * max (left.nestingAt r) (right.nestingAt (r + 1)) + 9 := by
  have := innerDepth_le_at hleft (Nat.le_of_succ_le hr)
  have := innerDepth_le_at hright hr
  omega

mutual

/-- From rank to rank an expression goes at most one step down before the next level of nesting
begins. -/
theorem innerDepth_le (e : Expr) : e.innerDepth + e.rank ≤ 9 * e.nesting + 9 := by
  -- An expression of rank r may hold its own level and the tiers below it before the next level.
  match e with
  | .literal _ | .name _ => simp [innerDepth, rank, nesting]
  | .member object _ =>
    show object.innerDepth + 8 ≤ 9 * object.nestingAt 8 + 9
    exact innerDepth_le_at object.innerDepth_le (by decide)
  | .index object i =>
    have hobject := innerDepth_le_at (r := 8) object.innerDepth_le (by decide)
    have hindex := i.innerDepth_le
    show max object.innerDepth (i.innerDepth + 1) + 8 ≤
      9 * max (object.nestingAt 8) (i.nesting + 1) + 9
    omega
  | .call callee args =>
    have hcallee := innerDepth_le_at (r := 8) callee.innerDepth_le (by decide)
    have hargs := listInnerDepth_le args
    show max callee.innerDepth (listInnerDepth args) + 8 ≤
      9 * max (callee.nestingAt 8) (listNesting args) + 9
    omega
  | .unary op operand =>
    have hoperand := innerDepth_le_at (r := 7) operand.innerDepth_le (by decide)
    show operand.innerDepth + 1 + 7 ≤ 9 * (operand.nestingAt 7 + 1) + 9
    omega
  | .binary op left right =>
    have hrank : op.rank + 1 ≤ 9 := by cases op <;> decide
    exact innerDepth_le_infix hrank left.innerDepth_le right.innerDepth_le
  | .and left right =>
    exact innerDepth_le_infix (r := 2) (by decide) left.innerDepth_le right.innerDepth_le
  | .or left right =>
    exact innerDepth_le_infix (r := 1) (by decide) left.innerDepth_le right.innerDepth_le
  | .conditional condition yes no =>
    have hcondition := innerDepth_le_at (r := 1) condition.innerDepth_le (by decide)
    have hyes := yes.innerDepth_le
    have hno := no.innerDepth_le
    show max condition.innerDepth (max yes.innerDepth no.innerDepth) + 1 + 0 ≤
      9 * max (condition.nestingAt 1) (max (yes.nesting + 1) (no.nesting + 1)) + 9
    omega

/-- Arguments are nested in what they are given to. -/
theorem listInnerDepth_le (es : List Expr) : listInnerDepth es ≤ 9 * listNesting es + 1 := by
  match es with
  | [] => exact Nat.zero_le _
  | e :: rest =>
    have he := e.innerDepth_le
    have hrest := listInnerDepth_le rest
    simp only [listInnerDepth, listNesting]
    omega

end

/-- So is a value that may be left out. -/
theorem optionalInnerDepth_le (value : Option Expr) :
    optionalInnerDepth value ≤ 9 * optionalNesting value := by
  cases value with
  | none => exact Nat.zero_le _
  | some e =>
    have := e.innerDepth_le
    simp only [optionalInnerDepth, optionalNesting]
    omega

end Expr

namespace Statement

mutual

/-- A statement is at most nine steps deep for each level of its nesting. -/
theorem innerDepth_le (s : Statement) : s.innerDepth ≤ 9 * s.nesting := by
  match s with
  | .declare _ value | .finish value =>
    have := Expr.optionalInnerDepth_le value
    simp only [innerDepth, nesting]
    omega
  | .assign target _ value =>
    have := target.expr.innerDepth_le
    have := value.innerDepth_le
    simp only [innerDepth, nesting]
    omega
  | .choose condition yes no =>
    have := condition.innerDepth_le
    have := listInnerDepth_le yes
    have := listInnerDepth_le no
    simp only [innerDepth, nesting]
    omega
  | .repeat condition body =>
    have := condition.innerDepth_le
    have := listInnerDepth_le body
    simp only [innerDepth, nesting]
    omega
  | .throw e | .evaluate e =>
    have := e.innerDepth_le
    simp only [innerDepth, nesting]
    omega
  | .block body =>
    have := listInnerDepth_le body
    simp only [innerDepth, nesting]
    omega

/-- The same for some statements. -/
theorem listInnerDepth_le (p : List Statement) : listInnerDepth p ≤ 9 * listNesting p := by
  match p with
  | [] => exact Nat.zero_le _
  | s :: rest =>
    have := s.innerDepth_le
    have := listInnerDepth_le rest
    simp only [listInnerDepth, listNesting]
    omega

end

end Statement

end Dialogue.Script
