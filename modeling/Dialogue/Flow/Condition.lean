import Dialogue.Decimal.Order
import Dialogue.Flow.Definition
import Dialogue.Pattern.Engine
import Dialogue.Text.Search
import Dialogue.Text.Template

namespace Dialogue.Flow

/-!
# Conditions

A comparison looks at the value of a variable. The other side may hold tokens of variables, the
variable's value is taken as it is. What cannot be compared does not hold.

* `Operator.holds`: what an operator says of two values; patterns are built by an engine.
* `Comparison.holds`, `Group.holds`: whether a comparison, a group of them holds.
* `firstHolding`: the branch that a condition takes.
-/

/-- The size that a pattern may have in a comparison, in bytes. -/
def patternLimit : Nat := 1048576

/-- Whether a pattern matches in a text; none if it cannot be used. -/
def patternMatches? (patterns : Pattern.Engine) (pattern text : String) : Option Bool :=
  match patterns.build (some patternLimit) pattern with
  | .ok test => some (test text)
  | .error _ => none

/-- Whether numbers are in order; no number is in order with what is no number. -/
def numbersLess (a b : String) : Bool :=
  match Decimal.finite? a, Decimal.finite? b with
  | some x, some y => x.less y
  | _, _ => false

/-- Whether a value is there and not empty. -/
def isFilled : Option String → Bool
  | some value => value != ""
  | none => false

namespace Operator

/-- Whether an operator holds between the value of a variable, if it has one, and another value. -/
def holds (op : Operator) (patterns : Pattern.Engine) (actual : Option String)
    (expected : String) : Bool :=
  let value := actual.getD ""
  match op with
  | equals => value == expected
  | notEquals => value != expected
  | contains => Text.contains value expected
  | notContains => !Text.contains value expected
  | greaterThan => numbersLess expected value
  | lessThan => numbersLess value expected
  | isSet => isFilled actual
  | isEmpty => !isFilled actual
  | startsWith => expected.toList.isPrefixOf value.toList
  | endsWith => expected.toList.isSuffixOf value.toList
  | matchesRegex => patternMatches? patterns expected value == some true
  | notMatchesRegex => patternMatches? patterns expected value == some false

end Operator

/-- Whether a comparison holds. -/
def Comparison.holds (c : Comparison) (patterns : Pattern.Engine) (vars : Dictionary String) :
    Bool :=
  c.operator.holds patterns (vars.get? c.variableName)
    ((c.value.map (Text.interpolate vars)).getD "")

/-- Whether a group holds. -/
def Group.holds (g : Group) (patterns : Pattern.Engine) (vars : Dictionary String) : Bool :=
  match g.connective with
  | .and => g.comparisons.all (·.holds patterns vars)
  | .or => g.comparisons.any (·.holds patterns vars)

/-- The first group that holds. -/
def firstHolding (patterns : Pattern.Engine) (groups : List Group) (vars : Dictionary String) :
    Option Group :=
  groups.find? (·.holds patterns vars)

end Dialogue.Flow
