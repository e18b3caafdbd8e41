import Dialogue.Proofs.Flow.Negation
import Dialogue.Proofs.Script.Numbers
import Dialogue.Proofs.Script.Watch
import Dialogue.Proofs.Session.Suspension

namespace Dialogue.Session

open Dialogue.Flow
open Dialogue.Decimal (Binary64 finite?)
open Dialogue.Script (Eval Context Machine Value)
open Dialogue.Script.Effects (callBuiltin readVariable)

/-!
# Answers that are numbers

An answer to an input that asks for a number is checked once. From then on it is a number wherever
it is looked at: in comparisons and in scripts.

* `accepts_number_iff`: the answers that are accepted as numbers.
* `Turn.answer_number`: what is stored when such an answer is accepted.
* `holds_greaterThan`, `eval_number`: how it is compared, and how a script converts it.
* `numeric_answers_stay_numbers`: all of it together.
-/

variable {text name : String} {x y : Binary64} {vars : Dictionary String}

/-! ### What is accepted -/

/-- Accepted as a number is what stands for a finite value. -/
theorem accepts_number_iff : accepts (some .number) text ↔ ∃ x, finite? text = some x := by
  simp only [accepts, Option.all_some, hasForm]
  rw [Decimal.finite?_trimmed, Bool.and_eq_true, Option.isSome_iff_exists]
  constructor
  · exact fun h => h.2
  · rintro ⟨x, hx⟩
    exact ⟨by simpa using Decimal.trimmed_ne_empty_of_finite? hx, x, hx⟩

/-- At an input the answer is filled in. -/
theorem Turn.answer_input {g : Graph} {t : Turn} {nodeId : String} {kind : InputKind} {i : Input}
    (hnode : t.node? g = .ok (some ⟨nodeId, .input kind i⟩)) (env : Environment)
    (payload : Inbound) : t.answer g env payload = .ok (t.fillIn env kind i payload) := by
  unfold Turn.answer Turn.atQuestion
  rw [hnode]
  rfl

/-- An answer that is accepted is stored without the blanks around it. -/
theorem Turn.fillIn_of_accepts {kind : InputKind} {i : Input} {payload : Inbound}
    (h : accepts (i.validation.or kind.defaultValidation)
      (Text.trimmed (payload.text.getD "")) = true)
    (env : Environment) (t : Turn) :
    t.fillIn env kind i payload =
      .next (t.setOptional i.saveVariable
        (Text.trimmed (payload.text.getD ""))).answered.advance := by
  simp only [Turn.fillIn, h, if_true]

/-- An answer that is accepted by an input that asks for numbers is stored without the blanks around
it, and it stands for a finite value. -/
theorem Turn.answer_number {g : Graph} {env : Environment} {payload : Inbound} {t t' : Turn}
    {nodeId : String} {kind : InputKind} {i : Input}
    (hnode : t.node? g = .ok (some ⟨nodeId, .input kind i⟩))
    (hnumber : i.validation.or kind.defaultValidation = some .number)
    (hname : i.saveVariable = some name) (h : t.answer g env payload = .ok (.next t')) :
    ∃ x, t'.state.vars.get? name = some (Text.trimmed (payload.text.getD "")) ∧
      finite? (Text.trimmed (payload.text.getD "")) = some x := by
  rw [Turn.answer_input hnode] at h
  have hstep : t.fillIn env kind i payload = .next t' := Except.ok.inj h
  by_cases haccepts : accepts (i.validation.or kind.defaultValidation)
      (Text.trimmed (payload.text.getD "")) = true
  · rw [Turn.fillIn_of_accepts haccepts, hname] at hstep
    cases hstep
    rw [hnumber] at haccepts
    obtain ⟨x, hx⟩ := accepts_number_iff.1 haccepts
    refine ⟨x, ?_, hx⟩
    show (t.state.vars.insert name _).get? name = _
    rw [Dictionary.get?_insert, if_pos rfl]
  · -- An answer that is not accepted leaves the session at the input.
    simp only [Turn.fillIn, if_neg haccepts] at hstep
    cases hstep

/-! ### What becomes of it -/

/-- Between finite values the comparisons of numbers go by the order of the values. -/
theorem holds_order {patterns : Pattern.Engine} {c : Comparison}
    (hleft : finite? (c.left vars) = some x) (hright : finite? (c.right vars) = some y) :
    (c.withOperator .greaterThan).holds patterns vars = y.less x ∧
      (c.withOperator .lessThan).holds patterns vars = x.less y := by
  constructor
  · show numbersLess (c.right vars) (c.left vars) = y.less x
    rw [numbersLess, hleft, hright]
  · show numbersLess (c.left vars) (c.right vars) = x.less y
    rw [numbersLess, hleft, hright]

/-- The number that a script makes of a variable. -/
def numberOf (name : String) : Eval Value := do callBuiltin .number [← readVariable name]

/-- A script that has not written the variable makes a number of what is stored. -/
theorem numberOf_of_stored {context : Context} {machine : Machine}
    (hstored : context.vars.get? name = some text)
    (hwritten : machine.overlay.get? name = none) :
    numberOf name context machine = .ok (.num (Script.Number.ofText text), machine) := by
  have hread : (readVariable name : Eval Value) context machine = .ok (.text text, machine) := by
    show Except.ok (((machine.overlay.get? name).or (context.vars.get? name)).elim
      Value.undefined Value.text, machine) = _
    rw [hwritten, hstored]
    rfl
  rw [numberOf, Script.Eval.bind_apply, hread]
  rfl

/-- **Answers that are numbers stay numbers.** A text is accepted as a number if and only if
comparisons find a finite value in it, and then a script converts it to the same value. So an answer
that is accepted by a number input which asks for numbers is stored, without the blanks around it,
as the text of a finite value. As long as the variable holds that text, whatever becomes of the
others, it is compared by the order of the values, and a script that has not written the variable
converts it to that value. -/
theorem numeric_answers_stay_numbers :
    (∀ text, (accepts (some .number) text ↔ ∃ x, finite? text = some x) ∧
      ∀ x, finite? text = some x →
        x.isFinite ∧ Binary64.ofBits (Script.Number.ofText text).toBits = x) ∧
    ∀ (g : Graph) (env : Environment) (payload : Inbound) (t t' : Turn) (nodeId name : String)
      (i : Input), t.node? g = .ok (some ⟨nodeId, .input .number i⟩) →
      (i.validation = none ∨ i.validation = some .number) → i.saveVariable = some name →
      t.answer g env payload = .ok (.next t') →
      let answer := Text.trimmed (payload.text.getD "")
      ∃ x, t'.state.vars.get? name = some answer ∧ finite? answer = some x ∧
        (∀ (patterns : Pattern.Engine) (vars : Dictionary String), vars.get? name = some answer →
          ∀ c : Comparison, c.variableName = name → ∀ y, finite? (c.right vars) = some y →
          (c.withOperator .greaterThan).holds patterns vars = y.less x ∧
          (c.withOperator .lessThan).holds patterns vars = x.less y) ∧
        ∀ (context : Context) (machine : Machine), context.vars.get? name = some answer →
          machine.overlay.get? name = none →
          ∃ n, numberOf name context machine = .ok (.num n, machine) ∧
            Binary64.ofBits n.toBits = x ∧ n.isNaN = false := by
  refine ⟨fun text => ⟨accepts_number_iff, fun x hx => ?_⟩, ?_⟩
  · obtain ⟨-, -, -, -, hfinite⟩ := Decimal.finite?_eq_some_iff.1 hx
    exact ⟨hfinite, (Script.Number.ofText_of_finite? hx).1⟩
  · intro g env payload t t' nodeId name i hnode hvalidation hname h answer
    have hnumber : i.validation.or (InputKind.defaultValidation .number) = some .number := by
      rcases hvalidation with hv | hv <;> rw [hv] <;> rfl
    obtain ⟨x, hstored, hx⟩ := Turn.answer_number hnode hnumber hname h
    -- What follows is about the text only, so the turn that stored it plays no part any more.
    refine ⟨x, hstored, hx, ?_, ?_⟩
    · rintro patterns vars hvars c rfl y hy
      refine holds_order ?_ hy
      rw [Comparison.left, hvars]
      exact hx
    · intro context machine hvars hwritten
      exact ⟨_, numberOf_of_stored hvars hwritten, Script.Number.ofText_of_finite? hx⟩

/-! ### A survey -/

namespace Survey

/-- A flow with a number input that may ask for something else. What is a number leads to one
container, everything else to another one. -/
def flow (validation : Option Validation) : Definition where
  containers :=
    [⟨"A", [⟨"n", .input .number { saveVariable := some "x", validation }⟩,
        ⟨"c", .condition [⟨"num", [⟨"g", "x", .greaterThan, some "0"⟩,
          ⟨"l", "x", .lessThan, some "1"⟩], .or⟩]⟩]⟩,
      ⟨"B", [⟨"b", .textBubble "A number"⟩]⟩,
      ⟨"C", [⟨"d", .textBubble "No number"⟩]⟩]
  edges := [⟨"A", some "c-cond-num", "B"⟩, ⟨"A", some "c-else", "C"⟩]

/-- The turn in which the answer comes. -/
def asked : Turn where
  state :=
    { Invitation.begun with
      containerId := "A"
      waitingFor := some (.input .number) }

theorem node_asked (validation : Option Validation) :
    asked.node? (Graph.ofDefinition (flow validation)) =
      .ok (some ⟨"n", .input .number { saveVariable := some "x", validation }⟩) := by
  cases validation with
  | none => decide +kernel
  | some v => cases v <;> decide +kernel

end Survey

/-- Blanks around a number do no harm. -/
theorem numeric_answers_stay_numbers_survey :
    ∃ t', Survey.asked.answer (Graph.ofDefinition (Survey.flow none)) Invitation.setting
        { text := some " 42 " } = .ok (.next t') ∧
      ∃ x, t'.state.vars.get? "x" = some "42" ∧ finite? "42" = some x := by
  have hanswer : Survey.asked.answer (Graph.ofDefinition (Survey.flow none)) Invitation.setting
      { text := some " 42 " } =
        .ok (.next (Survey.asked.set "x" (Text.trimmed " 42 ")).answered.advance) := by
    rw [Turn.answer_input (Survey.node_asked none), Turn.fillIn_of_accepts (by decide +kernel)]
    rfl
  obtain ⟨x, hstored, hx, -, -⟩ := numeric_answers_stay_numbers.2 _ Invitation.setting _
    Survey.asked _ "n" "x" _ (Survey.node_asked none) (.inl rfl) rfl hanswer
  have htrimmed : Text.trimmed " 42 " = "42" := by decide +kernel
  exact ⟨_, hanswer, x, htrimmed ▸ hstored, htrimmed ▸ hx⟩

/-- What the flow says of the form of an answer goes before what the kind of the input says: a
number input accepts a mail address then, and that is no number for comparisons. -/
theorem number_input_accepts_mail_address :
    ¬∀ (d : Definition) (env : Environment) (payload : Inbound) (t t' : Turn)
      (nodeId name : String) (i : Input),
      t.node? (Graph.ofDefinition d) = .ok (some ⟨nodeId, .input .number i⟩) →
      i.saveVariable = some name → t.answer (Graph.ofDefinition d) env payload = .ok (.next t') →
      ∃ x, finite? ((t'.state.vars.get? name).getD "") = some x := by
  intro h
  have hanswer : Survey.asked.answer (Graph.ofDefinition (Survey.flow (some .email)))
      Invitation.setting { text := some "a@b.co" } =
        .ok (.next (Survey.asked.set "x" (Text.trimmed "a@b.co")).answered.advance) := by
    rw [Turn.answer_input (Survey.node_asked _), Turn.fillIn_of_accepts (by decide +kernel)]
    rfl
  obtain ⟨x, hx⟩ :=
    h _ Invitation.setting _ Survey.asked _ "n" "x" _ (Survey.node_asked _) rfl hanswer
  have hnone : finite? (Text.trimmed "a@b.co") = none := by decide +kernel
  cases hnone.symm.trans hx

end Dialogue.Session
