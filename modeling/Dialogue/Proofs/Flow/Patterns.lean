import Dialogue.Pattern.Matching
import Dialogue.Proofs.Flow.Negation
import Dialogue.Proofs.Flow.Publishable
import Dialogue.Proofs.Text.Interpolation

namespace Dialogue

/-!
# Patterns and the warnings about them

A pattern is looked at twice: when its flow is checked, and in each comparison with it. Of the
engine that builds it no more is promised than that it accepts the patterns of some syntax whose
size keeps to a limit. Where flows are checked the default limit is in force, where texts are
compared a narrower one, so an author is not warned of a pattern in between, though no comparison
with it ever holds.

* `Pattern.Engine.Bounded.not_within_iff`: the patterns that an engine refuses.
* `Pattern.bounded_engine`: the engine that reads and matches patterns here keeps the promise.
* `Text.interpolate_of_not_contains`: a text without doubled braces is the same for all variables.
* `Definition.WarnsOf`, `Comparison.Decides`: there is a warning of a pattern; a comparison with it
  comes out one way or the other.
* `unwarned_patterns_decide_within_the_limit`: what a flow without a warning tells of comparisons.
* `unwarned_pattern_decides_nothing`: that it does not tell that they come out.
-/

namespace Pattern

namespace Engine

variable {engine : Engine} {valid : String → Prop} {size : String → Nat} {limit limit' : Nat}
  {pattern : String}

/-- What keeps to a limit keeps to every wider one. -/
theorem Within.mono (h : Within valid size limit pattern) (hlimit : limit ≤ limit') :
    Within valid size limit' pattern :=
  ⟨h.1, h.2.trans hlimit⟩

/-- The patterns that are refused are those that are none, or that do not keep to the limit. -/
theorem Bounded.not_within_iff (h : engine.Bounded valid size) (limit : Option Nat)
    (pattern : String) : ¬Within valid size (limit.getD defaultLimit) pattern ↔
    ∃ reason, engine.build limit pattern = .error reason := by
  rw [← h.accepts_iff]
  cases engine.build limit pattern <;> simp

end Engine

/-! ### The engine at hand -/

/-- A text is a pattern. -/
def Reads (text : String) : Prop := (ofText text).isOk

/-- The size of the larger one of the two automata of a pattern. -/
def sizeOf (text : String) : Nat :=
  match ofText text with
  | .ok p => max (size .forwards false p + frameSize .forwards)
      (size .backwards false p + frameSize .backwards)
  | .error _ => 0

/-- Both automata of a pattern keep to a limit if the larger one does. -/
theorem fits_iff {limit : Nat} {p : Pattern} : fits limit p ↔
    max (size .forwards false p + frameSize .forwards)
      (size .backwards false p + frameSize .backwards) ≤ limit := by
  unfold fits
  rw [Nat.max_le]
  simp

/-- A text is built if it is a pattern that keeps to the limit. -/
theorem compile_eq_ok_iff {limit : Nat} {text : String} {p : Pattern} :
    compile limit text = .ok p ↔ ofText text = .ok p ∧ fits limit p := by
  unfold compile
  cases ofText text with
  | error fault => simp
  | ok q =>
    by_cases h : fits limit q
    · simp only [if_pos h, Except.ok.injEq]
      exact ⟨fun hq => ⟨hq, hq ▸ h⟩, And.left⟩
    · simp only [if_neg h, reduceCtorEq, Except.ok.injEq, false_iff]
      rintro ⟨rfl, hfits⟩
      exact h hfits

/-- The engine builds a test exactly if it can read the pattern and its automata keep to the
limit. -/
theorem build_eq_ok_iff {limit : Option Nat} {text : String} :
    (∃ test, engine.build limit text = .ok test) ↔
      ∃ p, compile (limit.getD defaultLimit) text = .ok p := by
  simp only [engine]
  cases compile (limit.getD defaultLimit) text with
  | error e => simp [Except.mapError, bind, Except.bind]
  | ok p => simp [Except.mapError, bind, Except.bind, pure, Except.pure]

/-- The engine accepts the patterns whose automata keep to the limit. -/
theorem bounded_engine : engine.Bounded Reads sizeOf where
  accepts_iff limit text := by
    rw [build_eq_ok_iff]
    unfold Engine.Within Reads sizeOf
    cases hread : ofText text with
    | error fault => simp [compile, hread, Except.isOk, Except.toBool]
    | ok p => simp [compile_eq_ok_iff, hread, fits_iff, Except.isOk, Except.toBool]

end Pattern

/-! ### Texts without tokens -/

namespace Text

variable {needle cs : List Char} {text : String}

theorem isSome_findFrom_iff (place : Nat) :
    (findFrom needle place cs).isSome ↔ needle <:+: cs := by
  -- On the characters: the needle begins here, or it is found further on.
  induction cs generalizing place with
  | nil => cases needle <;> simp [findFrom]
  | cons c rest ih =>
    rw [List.infix_cons_iff, ← List.isPrefixOf_iff_prefix, findFrom]
    by_cases h : needle.isPrefixOf (c :: rest) = true
    · simp [h]
    · simp [h, ih]

/-- A text contains another one exactly if that is a part of it. -/
theorem contains_iff {needle : String} : contains text needle ↔ needle.toList <:+: text.toList :=
  isSome_findFrom_iff 0

/-- Every token begins with doubled braces, so nothing is replaced where there are none. -/
theorem interpolate_of_not_contains (h : contains text "\x7b\x7b" = false)
    (vars : Dictionary String) : interpolate vars text = text := by
  have hempty : interpolate vars text = interpolate .empty text := by
    refine interpolate_congr fun i name hocc => ?_
    have hbraces : "\x7b\x7b".toList <+: text.toList.drop i :=
      (List.prefix_append ['\x7b', '\x7b'] _).trans hocc.stands
    have hcontains := contains_iff.2 (hbraces.isInfix.trans (List.drop_suffix i _).isInfix)
    rw [h] at hcontains
    cases hcontains
  rw [hempty, interpolate_empty]

end Text

namespace Flow

variable {engine : Pattern.Engine} {valid : String → Prop} {size : String → Nat}
  {d : Definition} {c : Container} {n : Node} {groups : List Group} {cmp : Comparison}
  {pattern : String}

/-! ### Warnings of patterns -/

/-- The checks of a flow warn of a pattern in a node of a container. -/
def Definition.WarnsOf (d : Definition) (engine : Pattern.Engine)
    (container node pattern : String) : Prop :=
  ∃ reason, ⟨.patternUnusable pattern reason, some container, some node⟩ ∈ d.issues engine

/-- There is no problem with a pattern but that nothing can be built out of it. -/
theorem mem_patternProblems {p : Problem} : p ∈ patternProblems engine pattern ↔ ∃ reason,
    p = .patternUnusable pattern reason ∧ engine.build none pattern = .error reason := by
  unfold patternProblems
  cases engine.build none pattern with
  | ok test => simp
  | error reason => simp

/-- Problems with patterns are found in conditions, and only with patterns that nothing can be built
out of. -/
theorem build_of_mem_problems {kind : Node.Kind} {reason : String}
    (h : .patternUnusable pattern reason ∈ kind.problems engine) :
    engine.build none pattern = .error reason := by
  -- Scripts have problems of their own, which are not about patterns.
  have hscript : ∀ (problem : Script.Failure → Problem) (source : String),
      (∀ f, problem f ≠ .patternUnusable pattern reason) →
        .patternUnusable pattern reason ∉ unreadable problem source := by
    intro problem source hproblem hmem
    unfold unreadable at hmem
    split at hmem
    · cases hmem
    · exact hproblem _ (List.mem_singleton.1 hmem).symm
  cases kind with
  | assignment a =>
    rcases List.mem_append.1 h with h | h
    · split at h <;> simp at h
    · split at h
      · exact absurd h (hscript _ _ nofun)
      · cases h
  | script s => exact absurd h (hscript _ _ nofun)
  | condition groups =>
    rcases List.mem_append.1 h with h | h
    · obtain ⟨c, -, h⟩ := List.mem_flatMap.1 h
      unfold Comparison.problems at h
      split at h <;> simp at h
    · obtain ⟨fixed, -, h⟩ := List.mem_flatMap.1 h
      obtain ⟨reason', heq, hbuild⟩ := mem_patternProblems.1 h
      cases heq
      exact hbuild
  | _ => cases h

/-- The pattern of a comparison is a problem of its node if nothing can be built out of it. -/
theorem mem_problems_of_build (hcmp : cmp ∈ groups.flatMap Group.comparisons)
    (hfixed : cmp.fixedPattern? = some pattern) {reason : String}
    (h : engine.build none pattern = .error reason) :
    .patternUnusable pattern reason ∈ (Node.Kind.condition groups).problems engine := by
  have hmem : pattern ∈ (groups.flatMap Group.comparisons).filterMap Comparison.fixedPattern? :=
    List.mem_filterMap.2 ⟨cmp, hcmp, hfixed⟩
  have hproblem : .patternUnusable pattern reason ∈ patternProblems engine pattern :=
    mem_patternProblems.2 ⟨reason, rfl, h⟩
  exact List.mem_append_right _ (List.mem_flatMap.2 ⟨pattern, hmem, hproblem⟩)

/-- The value of a comparison with patterns is checked if it has no token of a variable. -/
theorem fixedPattern?_of_not_contains (hoperator : cmp.operator.takesPattern)
    (hvalue : cmp.value = some pattern) (hfixed : Text.contains pattern "\x7b\x7b" = false) :
    cmp.fixedPattern? = some pattern := by
  rw [Comparison.fixedPattern?, if_pos hoperator, hvalue]
  simp [Option.filter, hfixed]

/-- A flow with a pattern in a comparison has a warning of it exactly if the pattern does not keep
to the limit of the checks. -/
theorem warnsOf_iff (hengine : engine.Bounded valid size) (hc : c ∈ d.containers)
    (hn : n ∈ c.nodes) (hkind : n.kind = .condition groups)
    (hcmp : cmp ∈ groups.flatMap Group.comparisons) (hfixed : cmp.fixedPattern? = some pattern) :
    d.WarnsOf engine c.id n.id pattern ↔
      ¬Pattern.Engine.Within valid size Pattern.defaultLimit pattern := by
  have hbuild : ¬Pattern.Engine.Within valid size Pattern.defaultLimit pattern ↔
      ∃ reason, engine.build none pattern = .error reason := hengine.not_within_iff none pattern
  rw [hbuild]
  refine exists_congr fun reason => ?_
  rw [mem_issues_iff_of_warning rfl]
  -- A warning names the pattern and the engine's reason, so the engine refused it.
  constructor
  · rintro ⟨c', -, n', -, p, hp, heq⟩
    have hproblem : Problem.patternUnusable pattern reason = p := congrArg Issue.problem heq
    exact build_of_mem_problems (hproblem ▸ hp)
  · exact fun h => ⟨c, hc, n, hn, _, hkind ▸ mem_problems_of_build hcmp hfixed h, rfl⟩

/-! ### Comparisons with patterns -/

/-- Whatever the variables are, one of the two comparisons with a pattern holds: that it matches, or
that it does not. -/
def Comparison.Decides (cmp : Comparison) (engine : Pattern.Engine) : Prop :=
  ∀ vars, (cmp.withOperator .matchesRegex).holds engine vars =
    !(cmp.withOperator .notMatchesRegex).holds engine vars

/-- Whatever the variables are, neither of them does. -/
def Comparison.DecidesNothing (cmp : Comparison) (engine : Pattern.Engine) : Prop :=
  ∀ vars, (cmp.withOperator .matchesRegex).holds engine vars = false ∧
    (cmp.withOperator .notMatchesRegex).holds engine vars = false

/-- Comparisons with a pattern that keeps to their limit come out. -/
theorem decides_of_within (hengine : engine.Bounded valid size)
    (hright : ∀ vars, cmp.right vars = pattern)
    (h : Pattern.Engine.Within valid size patternLimit pattern) : cmp.Decides engine := by
  obtain ⟨test, htest⟩ := (hengine.accepts_iff (some patternLimit) pattern).2 h
  intro vars
  show (patternMatches? engine (cmp.right vars) (cmp.left vars) == some true) =
    !(patternMatches? engine (cmp.right vars) (cmp.left vars) == some false)
  rw [hright, patternMatches?, htest]
  cases test (cmp.left vars) <;> simp

/-- Comparisons with any other pattern do not. -/
theorem decidesNothing_of_not_within (hengine : engine.Bounded valid size)
    (hright : ∀ vars, cmp.right vars = pattern)
    (h : ¬Pattern.Engine.Within valid size patternLimit pattern) : cmp.DecidesNothing engine := by
  intro vars
  have hnone : patternMatches? engine (cmp.right vars) (cmp.left vars) = none := by
    rw [hright]
    exact (patternMatches?_eq_none_iff pattern _).2
      ((hengine.not_within_iff (some patternLimit) pattern).1 h)
  show (patternMatches? engine (cmp.right vars) (cmp.left vars) == some true) = false ∧
    (patternMatches? engine (cmp.right vars) (cmp.left vars) == some false) = false
  rw [hnone]
  exact ⟨rfl, rfl⟩

/-- It is the pattern and the limit of comparisons that decide, whatever the variables are. -/
theorem decides_iff (hengine : engine.Bounded valid size)
    (hright : ∀ vars, cmp.right vars = pattern) :
    cmp.Decides engine ↔ Pattern.Engine.Within valid size patternLimit pattern := by
  refine ⟨fun h => ?_, decides_of_within hengine hright⟩
  by_contra hlarge
  obtain ⟨hfound, hmissed⟩ := decidesNothing_of_not_within hengine hright hlarge .empty
  have := h .empty
  rw [hfound, hmissed] at this
  cases this

/-- The other side of a comparison is its value if that has no token of a variable. -/
theorem right_of_fixed (hvalue : cmp.value = some pattern)
    (hfixed : Text.contains pattern "\x7b\x7b" = false) (vars : Dictionary String) :
    cmp.right vars = pattern := by
  rw [Comparison.right, hvalue]
  exact Text.interpolate_of_not_contains hfixed vars

/-- **A flow without a warning of a pattern tells that it keeps to the limit of the checks, and
comparisons with it come out exactly if it keeps to their own, narrower one.** So comparisons that
come out are not warned of; and where there is no warning, either they come out, or the pattern lies
between the limits and nothing is decided by it. All that is used of the engine is which patterns it
accepts. -/
theorem unwarned_patterns_decide_within_the_limit (hengine : engine.Bounded valid size)
    (hc : c ∈ d.containers) (hn : n ∈ c.nodes) (hkind : n.kind = .condition groups)
    (hcmp : cmp ∈ groups.flatMap Group.comparisons) (hoperator : cmp.operator.takesPattern)
    (hvalue : cmp.value = some pattern)
    (hfixed : Text.contains pattern "\x7b\x7b" = false) :
    (¬d.WarnsOf engine c.id n.id pattern ↔
      Pattern.Engine.Within valid size Pattern.defaultLimit pattern) ∧
    (cmp.Decides engine ↔ Pattern.Engine.Within valid size patternLimit pattern) ∧
    (cmp.Decides engine → ¬d.WarnsOf engine c.id n.id pattern) ∧
    (¬d.WarnsOf engine c.id n.id pattern → cmp.Decides engine ∨
      cmp.DecidesNothing engine ∧ Pattern.Engine.Within valid size Pattern.defaultLimit pattern ∧
        patternLimit < size pattern) := by
  have hpattern := fixedPattern?_of_not_contains hoperator hvalue hfixed
  have hwarns : ¬d.WarnsOf engine c.id n.id pattern ↔
      Pattern.Engine.Within valid size Pattern.defaultLimit pattern := by
    rw [warnsOf_iff hengine hc hn hkind hcmp hpattern, not_not]
  have hright := right_of_fixed hvalue hfixed
  have hdecides := decides_iff hengine hright
  -- Without a warning the pattern is within the default limit; the limit of the checks decides the
  -- rest.
  refine ⟨hwarns, hdecides, fun h => hwarns.2 ((hdecides.1 h).mono (by decide)), fun h => ?_⟩
  have hwithin := hwarns.1 h
  rcases Nat.lt_or_ge patternLimit (size pattern) with hlarge | hsmall
  · have hnothing := decidesNothing_of_not_within hengine hright fun hw =>
      Nat.not_lt.2 hw.2 hlarge
    exact .inr ⟨hnothing, hwithin, hlarge⟩
  · exact .inl (hdecides.2 ⟨hwithin.1, hsmall⟩)

/-- A pattern within both limits: there is no warning of it, and comparisons with it come out. -/
theorem unwarned_patterns_decide_within_the_limit_postcode :
    let pattern := "[0-9]{5}"
    let cmp : Comparison := ⟨"m", "postcode", .matchesRegex, some pattern⟩
    let n : Node := ⟨"known", .condition [⟨"yes", [cmp], .and⟩]⟩
    let c : Container := ⟨"A", [n]⟩
    let d : Definition := { containers := [c] }
    Pattern.engine.Bounded Pattern.Reads Pattern.sizeOf ∧ c ∈ d.containers ∧ n ∈ c.nodes ∧
      cmp.operator.takesPattern ∧ Text.contains pattern "\x7b\x7b" = false ∧
      ¬d.WarnsOf Pattern.engine c.id n.id pattern ∧ cmp.Decides Pattern.engine := by
  intro pattern cmp n c d
  have hfixed : Text.contains pattern "\x7b\x7b" = false := by decide +kernel
  obtain ⟨-, hdecides, hwarns, -⟩ := unwarned_patterns_decide_within_the_limit (d := d)
    Pattern.bounded_engine (List.mem_singleton_self c) (List.mem_singleton_self n) rfl
    (List.mem_singleton_self cmp) rfl rfl hfixed
  have hsmall : Pattern.Engine.Within Pattern.Reads Pattern.sizeOf patternLimit pattern :=
    ⟨by unfold Pattern.Reads; decide +kernel, by decide +kernel⟩
  exact ⟨Pattern.bounded_engine, List.mem_singleton_self c, List.mem_singleton_self n, rfl, hfixed,
    hwarns (hdecides.2 hsmall), hdecides.2 hsmall⟩

/-- **No warning does not mean that comparisons come out.** The automata of this pattern keep to the
limit of the checks, but not to that of comparisons. -/
theorem unwarned_pattern_decides_nothing :
    let pattern := "(a{1000}){100}"
    let cmp : Comparison := ⟨"m", "x", .matchesRegex, some pattern⟩
    let d : Definition := { containers := [⟨"A", [⟨"n", .condition [⟨"yes", [cmp], .and⟩]⟩]⟩] }
    Pattern.engine.Bounded Pattern.Reads Pattern.sizeOf ∧ cmp.operator.takesPattern ∧
      Text.contains pattern "\x7b\x7b" = false ∧ ¬d.WarnsOf Pattern.engine "A" "n" pattern ∧
      ¬cmp.Decides Pattern.engine ∧ cmp.DecidesNothing Pattern.engine := by
  intro pattern cmp d
  have hfixed : Text.contains pattern "\x7b\x7b" = false := by decide +kernel
  -- The size is computed: it lies between the two limits.
  have hlarge : ¬Pattern.Engine.Within Pattern.Reads Pattern.sizeOf patternLimit pattern := by
    rintro ⟨-, hsize⟩
    revert hsize
    decide +kernel
  have hissues : d.issues Pattern.engine = [] := by decide +kernel
  have hright : ∀ vars, cmp.right vars = pattern := right_of_fixed rfl hfixed
  refine ⟨Pattern.bounded_engine, rfl, hfixed, ?_,
    fun h => hlarge ((decides_iff Pattern.bounded_engine hright).1 h),
    decidesNothing_of_not_within Pattern.bounded_engine hright hlarge⟩
  rintro ⟨reason, hreason⟩
  rw [hissues] at hreason
  cases hreason

end Flow

end Dialogue
