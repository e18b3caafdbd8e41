import Dialogue.Flow.Condition
import Dialogue.Pattern.Matching

namespace Dialogue.Flow

/-!
# Negating a condition

Three pairs of operators are opposites whatever is compared: of each pair one holds and the other
does not. A group that uses nothing else is negated by taking the opposite of each comparison and by
joining them the other way. The order of numbers and the patterns are no such pairs: where a side is
no number, or where the engine builds nothing out of a pattern, neither operator of the pair holds.

* `Operator.opposite`, `Group.dual`: the opposite of an operator, of a group.
* `Group.holds_dual`: the dual of a group holds exactly where the group does not.
* `numbersLess_asymm`, `patternMatches?_eq_none_iff`: what the other pairs do instead.
* `negation_sound_malformed_false`: all of it, for one engine and one set of variables.
-/

variable {patterns : Pattern.Engine} {vars : Dictionary String} {c : Comparison} {g : Group}
  {a b : String}

/-! ### Opposites -/

namespace Operator

/-- The operators for which there is one that holds exactly where they do not. -/
def hasOpposite : Operator → Bool
  | equals | notEquals | contains | notContains | isSet | isEmpty => true
  | _ => false

/-- The operator that holds exactly where another one does not; those that have none stay. -/
def opposite : Operator → Operator
  | equals => notEquals
  | notEquals => equals
  | contains => notContains
  | notContains => contains
  | isSet => isEmpty
  | isEmpty => isSet
  | op => op

/-- The opposite holds where the operator does not. A variable without a value counts as empty for
both of them. -/
theorem holds_opposite {op : Operator} (h : op.hasOpposite) (actual : Option String)
    (expected : String) :
    op.opposite.holds patterns actual expected = !op.holds patterns actual expected := by
  cases op with
  | equals | notEquals => simp [opposite, holds, bne]
  | contains | notContains => simp [opposite, holds]
  | isSet | isEmpty => simp [opposite, holds]
  | greaterThan | lessThan | startsWith | endsWith | matchesRegex | notMatchesRegex => cases h

end Operator

/-- The other way to join comparisons. -/
def Connective.dual : Connective → Connective
  | .and => .or
  | .or => .and

namespace Comparison

/-- The same sides, compared by another operator. -/
def withOperator (c : Comparison) (op : Operator) : Comparison := { c with operator := op }

/-- The same sides, compared by the opposite operator. -/
def dual (c : Comparison) : Comparison := c.withOperator c.operator.opposite

/-- The left side: the value of the variable as it is. -/
def left (c : Comparison) (vars : Dictionary String) : String := (vars.get? c.variableName).getD ""

/-- The right side: tokens of variables in it are replaced. -/
def right (c : Comparison) (vars : Dictionary String) : String :=
  (c.value.map (Text.interpolate vars)).getD ""

/-- The opposite comparison holds where the comparison does not. -/
theorem holds_dual (h : c.operator.hasOpposite) :
    c.dual.holds patterns vars = !c.holds patterns vars :=
  Operator.holds_opposite h _ _

end Comparison

namespace Group

/-- The opposites of the comparisons of a group, joined the other way. -/
def dual (g : Group) : Group :=
  { g with comparisons := g.comparisons.map Comparison.dual, connective := g.connective.dual }

/-- Some opposite holds exactly where not every comparison does. -/
theorem any_dual {comparisons : List Comparison}
    (h : ∀ c ∈ comparisons, c.operator.hasOpposite) :
    (comparisons.map Comparison.dual).any (·.holds patterns vars) =
      !comparisons.all (·.holds patterns vars) := by
  induction comparisons with
  | nil => rfl
  | cons c comparisons ih =>
    have hc : c.dual.holds patterns vars = !c.holds patterns vars :=
      Comparison.holds_dual (h c List.mem_cons_self)
    have hrest := ih fun d hd => h d (List.mem_cons_of_mem c hd)
    rw [List.map_cons, List.any_cons, List.all_cons, hc, hrest, Bool.not_and]

/-- Every opposite holds exactly where no comparison does. -/
theorem all_dual {comparisons : List Comparison}
    (h : ∀ c ∈ comparisons, c.operator.hasOpposite) :
    (comparisons.map Comparison.dual).all (·.holds patterns vars) =
      !comparisons.any (·.holds patterns vars) := by
  induction comparisons with
  | nil => rfl
  | cons c comparisons ih =>
    have hc : c.dual.holds patterns vars = !c.holds patterns vars :=
      Comparison.holds_dual (h c List.mem_cons_self)
    have hrest := ih fun d hd => h d (List.mem_cons_of_mem c hd)
    rw [List.map_cons, List.all_cons, List.any_cons, hc, hrest, Bool.not_or]

/-- The dual of a group holds exactly where the group does not. Without comparisons a group holds if
they are joined by `and`, and does not hold if they are joined by `or`. -/
theorem holds_dual (h : ∀ c ∈ g.comparisons, c.operator.hasOpposite) :
    g.dual.holds patterns vars = !g.holds patterns vars := by
  obtain ⟨id, comparisons, connective⟩ := g
  cases connective with
  | and => exact any_dual h
  | or => exact all_dual h

end Group

/-! ### Numbers -/

/-- Of two values not each is less than the other: both are looked at in the same units. -/
theorem less_asymm {x y : Decimal.Binary64} (h : x.less y) : y.less x = false := by
  cases x with
  | infinite _ | notANumber => cases h
  | finite s v =>
    cases y with
    | infinite _ | notANumber => cases h
    | finite t w =>
      have hlt : v.inUnits s (min v.q w.q) < w.inUnits t (min v.q w.q) := of_decide_eq_true h
      show decide (w.inUnits t (min w.q v.q) < v.inUnits s (min w.q v.q)) = false
      rw [Int.min_comm, decide_eq_false_iff_not]
      exact Int.not_lt.2 (Int.le_of_lt hlt)

/-- Of two texts not each is a number less than the other. -/
theorem numbersLess_asymm (h : numbersLess a b) : numbersLess b a = false := by
  unfold numbersLess at h ⊢
  cases ha : Decimal.finite? a with
  | none => rw [ha] at h; cases h
  | some x =>
    cases hb : Decimal.finite? b with
    | none => rfl
    | some y =>
      rw [ha, hb] at h
      exact less_asymm h

/-- A text that is no finite number is neither less nor greater than another one. -/
theorem numbersLess_of_finite?_eq_none
    (h : Decimal.finite? a = none ∨ Decimal.finite? b = none) : numbersLess a b = false := by
  unfold numbersLess
  rcases h with h | h
  · rw [h]
  · rw [h]
    cases Decimal.finite? a <;> rfl

/-! ### Patterns -/

/-- There is no answer whether a pattern matches exactly if the engine builds nothing out of the
pattern. The text does not matter for it. -/
theorem patternMatches?_eq_none_iff (pattern text : String) :
    patternMatches? patterns pattern text = none ↔
      ∃ reason, patterns.build (some patternLimit) pattern = .error reason := by
  unfold patternMatches?
  cases patterns.build (some patternLimit) pattern with
  | ok test => simp
  | error reason => simp

/-- Whether a pattern matches has at most one answer: not both operators hold, and neither does
exactly if there is none. -/
theorem patternMatches?_excludes (pattern text : String) :
    let found := patternMatches? patterns pattern text == some true
    let missed := patternMatches? patterns pattern text == some false
    ¬(found ∧ missed) ∧
      (¬found ∧ ¬missed ↔
        ∃ reason, patterns.build (some patternLimit) pattern = .error reason) := by
  intro found missed
  rw [← patternMatches?_eq_none_iff pattern text]
  cases hmatches : patternMatches? patterns pattern text with
  | none => simp [found, missed, hmatches]
  | some answer => cases answer <;> simp [found, missed, hmatches]

/-! ### All operators -/

/-- **A condition is negated by its dual, and what is malformed does not hold.** The dual of a group
that uses only operators with opposites holds exactly where the group does not, empty groups
included. Of `greaterThan` and `lessThan` at most one holds, and neither does where one side is no
finite number. Of `matchesRegex` and `notMatchesRegex` at most one holds, and neither does exactly
where the engine, whichever it is, builds nothing out of the pattern. -/
theorem negation_sound_malformed_false (patterns : Pattern.Engine) (vars : Dictionary String) :
    (∀ g : Group, (∀ c ∈ g.comparisons, c.operator.hasOpposite) →
      g.dual.holds patterns vars = !g.holds patterns vars) ∧
    (∀ c : Comparison,
      let greater := (c.withOperator .greaterThan).holds patterns vars
      let less := (c.withOperator .lessThan).holds patterns vars
      ¬(greater ∧ less) ∧
      (Decimal.finite? (c.left vars) = none ∨ Decimal.finite? (c.right vars) = none →
        ¬greater ∧ ¬less)) ∧
    ∀ c : Comparison,
      let found := (c.withOperator .matchesRegex).holds patterns vars
      let missed := (c.withOperator .notMatchesRegex).holds patterns vars
      ¬(found ∧ missed) ∧
      (¬found ∧ ¬missed ↔
        ∃ reason, patterns.build (some patternLimit) (c.right vars) = .error reason) := by
  -- The groups are handled by their own lemma; the other two parts are about one comparison.
  refine ⟨fun g => Group.holds_dual, fun c => ?numbers, fun c => ?patterns⟩
  case numbers =>
    show ¬(numbersLess (c.right vars) (c.left vars) ∧ numbersLess (c.left vars) (c.right vars)) ∧
      (_ → ¬numbersLess (c.right vars) (c.left vars) ∧ ¬numbersLess (c.left vars) (c.right vars))
    refine ⟨?_, fun h => ?_⟩
    · rintro ⟨hgreater, hless⟩
      rw [numbersLess_asymm hgreater] at hless
      cases hless
    · rw [numbersLess_of_finite?_eq_none h, numbersLess_of_finite?_eq_none h.symm]
      simp
  case patterns => exact patternMatches?_excludes (c.right vars) (c.left vars)

/-- Who is not known as Ada or has left no address is everyone to whom the first group does not
apply. An age that is no number is neither above a limit nor below it, and a group that is not
closed neither matches a name nor fails to. -/
theorem negation_sound_malformed_false_membership :
    let vars : Dictionary String := .ofList [("name", "Ada"), ("age", "unknown")]
    let g : Group :=
      ⟨"member", [⟨"n", "name", .equals, some "Ada"⟩, ⟨"m", "mail", .isSet, none⟩], .and⟩
    let c : Comparison := ⟨"a", "age", .greaterThan, some "18"⟩
    let p : Comparison := ⟨"p", "name", .matchesRegex, some "(\x7b\x7bname\x7d\x7d"⟩
    (∀ c ∈ g.comparisons, c.operator.hasOpposite) ∧
      g.dual =
        ⟨"member", [⟨"n", "name", .notEquals, some "Ada"⟩, ⟨"m", "mail", .isEmpty, none⟩], .or⟩ ∧
      g.dual.holds Pattern.engine vars = !g.holds Pattern.engine vars ∧
      Decimal.finite? (c.left vars) = none ∧
      ¬(c.withOperator .greaterThan).holds Pattern.engine vars ∧
      ¬(c.withOperator .lessThan).holds Pattern.engine vars ∧
      p.right vars = "(Ada" ∧
      ¬(p.withOperator .matchesRegex).holds Pattern.engine vars ∧
      ¬(p.withOperator .notMatchesRegex).holds Pattern.engine vars := by
  intro vars g c p
  have hopposites : ∀ c ∈ g.comparisons, c.operator.hasOpposite := by simp [g, Operator.hasOpposite]
  have hage : Decimal.finite? (c.left vars) = none := by decide +kernel
  have hright : p.right vars = "(Ada" := by decide +kernel
  have hopen : ∃ reason, Pattern.engine.build (some patternLimit) (p.right vars) = .error reason :=
    hright ▸ ⟨_, rfl⟩
  obtain ⟨hdual, hnumbers, hpatterns⟩ := negation_sound_malformed_false Pattern.engine vars
  obtain ⟨hgreater, hless⟩ := (hnumbers c).2 (.inl hage)
  obtain ⟨hfound, hmissed⟩ := (hpatterns p).2.2 hopen
  exact ⟨hopposites, rfl, hdual g hopposites, hage, hgreater, hless, hright, hfound, hmissed⟩

end Dialogue.Flow
