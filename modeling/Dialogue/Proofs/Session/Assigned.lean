import Dialogue.Proofs.Script.Assigning
import Dialogue.Proofs.Session.Writes

namespace Dialogue

/-!
# Values that scripts hand out

There are two ways to have a page script set a variable to the value of an expression: an assignment
whose script ends with the value, and a script node whose script writes it. They leave the same text
in the variable, whatever else the expression may do, with one exception: null clears a variable
that a script writes, but an assignment spells it out.

* `Turn.get?_apply`, `Turn.get?_record`: a variable behind a script, and behind an assignment.
* `Turn.execute_ending`, `Turn.execute_writing`: what either node leaves in the variable.
* `scripts_hand_out_one_text`: the two agree on every value but null.
-/

namespace Flow.Node.Kind

open Dialogue.Script

/-- An assignment whose script ends with the value of an expression. -/
def ending (name text : String) (keep : Bool) : Kind :=
  .assignment
    { variableName := name, value := returning text, saveInResults := keep,
      executeOnClient := true }

/-- A script node whose script writes the value of an expression into a variable. -/
def writing (name text : String) : Kind := .script { code := assigning name text }

end Flow.Node.Kind

namespace Session

open Dialogue.Flow Dialogue.Script

variable {g : Graph} {env : Environment} {t : Turn} {limits : Limits} {elapsed : Nat → Nat}
  {outcome : Outcome} {text name id : String} {keep : Bool} {e : Expr}

namespace Turn

/-- A variable behind a script has the text that the script has written, if there is one. -/
theorem get?_apply (hnodup : (outcome.mutations.map Prod.fst).Nodup) (t : Turn) (name : String) :
    (t.apply outcome).state.vars.get? name =
      (outcome.mutations.lookup name).or (t.state.vars.get? name) := by
  rw [vars_apply]
  exact Overlay.get?_foldl_insert hnodup t.state.vars name

/-- The variable of an assignment has the text that is assigned. -/
theorem get?_record (t : Turn) (a : Assignment) (value : String) :
    (t.record a value).state.vars.get? a.variableName = some value := by
  have hset : (t.record a value).state.vars = t.state.vars.insert a.variableName value := by
    unfold record
    split <;> rfl
  rw [hset, Dictionary.get?_insert, if_pos rfl]

/-- Leaving a script changes no variable. -/
theorem vars_leaveScript (t : Turn) (url : Option String) :
    (t.leaveScript env url).turn.state.vars = t.state.vars := by
  cases url <;> rfl

/-- The script of a node that is run without failure. -/
theorem runScript_of_ok {code : String} {mode : Script.Mode}
    (h : env.sandbox t.runs code t.state.vars mode env.client = .ok outcome) (id : String) :
    t.runScript env id code mode = .ok (some outcome) := by
  unfold runScript
  rw [h]

/-- What an assignment whose script ends with the value of an expression leaves. -/
theorem execute_ending (he : IsExpression text e)
    (hsandbox : env.sandbox t.runs = sandbox limits elapsed)
    (hrun : runOf env t (.ending name text keep) = some (.ok outcome)) (id : String) :
    ∃ step v, t.execute g env ⟨id, .ending name text keep⟩ = .ok step ∧
      e.ComesTo ⟨t.state.vars, .client, env.client, limits, elapsed⟩ v ∧
      step.turn.state.vars.get? name = some (v.result.getD "") := by
  have hok : env.sandbox t.runs (returning text) t.state.vars .client env.client = .ok outcome :=
    Option.some.inj hrun
  -- The node runs the script and keeps its result.
  have hscript := runScript_of_ok hok id
  rw [hsandbox] at hok
  obtain ⟨v, hv, hresult⟩ := sandbox_returning he hok
  have hstep : t.execute g env ⟨id, .ending name text keep⟩ =
      .ok (((t.ran.apply outcome).record ⟨name, .custom, returning text, keep, true⟩
        (outcome.result.getD "")).leaveScript env outcome.redirectUrl) := by
    show t.assignByScript env id _ = _
    unfold assignByScript
    rw [hscript]
    rfl
  refine ⟨_, v, hstep, hv, ?_⟩
  rw [vars_leaveScript, hresult]
  exact get?_record _ _ _

/-- What a script node whose script writes the value of an expression leaves. -/
theorem execute_writing (he : IsExpression text e)
    (hsandbox : env.sandbox t.runs = sandbox limits elapsed)
    (hrun : runOf env t (.writing name text) = some (.ok outcome)) (id : String) :
    ∃ step v, t.execute g env ⟨id, .writing name text⟩ = .ok step ∧
      e.ComesTo ⟨t.state.vars, .client, env.client, limits, elapsed⟩ v ∧
      step.turn.state.vars.get? name = some v.variableText := by
  -- The node runs the script and takes its writes over.
  have hok : env.sandbox t.runs (assigning name text) t.state.vars .client env.client =
      .ok outcome := Option.some.inj hrun
  have hscript := runScript_of_ok hok id
  rw [hsandbox] at hok
  obtain ⟨v, hv, hlookup⟩ := sandbox_assigning he hok
  have hstep : t.execute g env ⟨id, .writing name text⟩ =
      .ok ((t.ran.apply outcome).leaveScript env outcome.redirectUrl) := by
    show t.script env id { code := assigning name text } = _
    unfold script
    dsimp only
    rw [if_neg Bool.false_ne_true, hscript]
    rfl
  refine ⟨_, v, hstep, hv, ?_⟩
  rw [vars_leaveScript, get?_apply (nodup_of_sandbox hok), hlookup]
  rfl

end Turn

/-- Whatever text is that of an expression, the assignment whose page script ends with its value and
the page script that writes it, both run against the same variables and for the same page, leave the
same text in the variable, with one exception. Undefined clears the variable in both ways, but null
does so only in the second one: the assignment sets the variable to the word. -/
theorem scripts_hand_out_one_text (he : IsExpression text e) {env' : Environment} {limits' : Limits}
    {elapsed' : Nat → Nat} {outcome' : Outcome}
    (hsandbox : env.sandbox t.runs = sandbox limits elapsed)
    (hsandbox' : env'.sandbox t.runs = sandbox limits' elapsed')
    (hclient : env'.client = env.client)
    (hrun : runOf env t (.ending name text keep) = some (.ok outcome))
    (hrun' : runOf env' t (.writing name text) = some (.ok outcome'))
    (g g' : Graph) (id id' : String) :
    ∃ v step step', e.ComesTo ⟨t.state.vars, .client, env.client, limits, elapsed⟩ v ∧
      t.execute g env ⟨id, .ending name text keep⟩ = .ok step ∧
      t.execute g' env' ⟨id', .writing name text⟩ = .ok step' ∧
      step'.turn.state.vars.get? name = some v.variableText ∧
      (v ≠ .null → step.turn.state.vars.get? name = step'.turn.state.vars.get? name) ∧
      (v = .undefined → step'.turn.state.vars.get? name = some "") ∧
      (v = .null → step.turn.state.vars.get? name = some "null" ∧
        step'.turn.state.vars.get? name = some "") := by
  obtain ⟨step, v, hstep, hv, hvar⟩ := Turn.execute_ending (g := g) he hsandbox hrun id
  obtain ⟨step', v', hstep', hv', hvar'⟩ := Turn.execute_writing (g := g') he hsandbox' hrun' id'
  -- The expression comes to the same in both scripts, though the second one takes steps before it.
  have hsame : Context.SameData ⟨t.state.vars, .client, env.client, limits, elapsed⟩
      ⟨t.state.vars, .client, env'.client, limits', elapsed'⟩ := ⟨rfl, rfl, hclient⟩
  obtain rfl : v' = v := hv.unique hsame hv'
  refine ⟨v', step, step', hv, hstep, hstep', hvar', fun hnull => ?_, ?_, ?_⟩
  · rw [hvar, hvar', Value.getD_result hnull]
  · rintro rfl
    exact hvar'
  · rintro rfl
    exact ⟨hvar, hvar'⟩

namespace Profile

/-- Scripts have all the time they need. -/
def setting : Environment where
  now := ⟨0, 0⟩
  patterns := .refusing
  sandbox := fun _ => sandbox {} fun _ => 0
  token := fun _ => ""

/-- A turn of a session that knows a name. -/
def turn : Turn where
  state :=
    { sessionId := "s"
      flowId := "f"
      flowVersion := 1
      containerId := "profile"
      vars := .ofList [("name", "Ada"), ("nick", "Countess")]
      createdAt := ⟨0, 0⟩
      updatedAt := ⟨0, 0⟩ }

/-- The nickname, or else the name. -/
def salutation : Expr :=
  .or (.member (.name "variables") "nick") (.member (.name "variables") "name")

/-- The text of the salutation is an expression. -/
theorem salutation_isExpression :
    IsExpression "variables.nick || variables.name" salutation := by
  have htokens : tokenize "variables.nick || variables.name" =
      .ok (Parser.onLine 1 [.ident "variables", .dot, .ident "nick", .or, .ident "variables", .dot,
        .ident "name"]) := by
    decide +kernel
  exact ⟨_, 1, ⟨[], 1⟩, htokens, rfl, rfl⟩

/-- So is `null`. -/
theorem null_isExpression : IsExpression "null" (.literal .null) := by
  have htokens : tokenize "null" = .ok [⟨.nullWord, 1⟩] := by decide +kernel
  exact ⟨_, 1, ⟨[], 1⟩, htokens, rfl, rfl⟩

end Profile

/-- Either script sets the salutation to the nickname. -/
theorem scripts_hand_out_one_text_salutation :
    let text := "variables.nick || variables.name"
    let vars := Profile.turn.state.vars
    let g := Graph.ofDefinition { containers := [], edges := [] }
    IsExpression text Profile.salutation ∧
      runOf Profile.setting Profile.turn (.ending "salutation" text true) =
        some (.ok { result := some "Countess" }) ∧
      runOf Profile.setting Profile.turn (.writing "salutation" text) =
        some (.ok { mutations := [("salutation", "Countess")] }) ∧
      ∃ v step step', Profile.salutation.ComesTo ⟨vars, .client, {}, {}, fun _ => 0⟩ v ∧
        Profile.turn.execute g Profile.setting ⟨"n", .ending "salutation" text true⟩ = .ok step ∧
        Profile.turn.execute g Profile.setting ⟨"n", .writing "salutation" text⟩ = .ok step' ∧
        step'.turn.state.vars.get? "salutation" = some v.variableText ∧
        (v ≠ .null → step.turn.state.vars.get? "salutation" =
          step'.turn.state.vars.get? "salutation") := by
  intro text vars g
  -- Both runs are computed; that they hand out the same text is the theorem's.
  have hrun : runOf Profile.setting Profile.turn (.ending "salutation" text true) =
      some (.ok { result := some "Countess" }) := by
    decide +kernel
  have hrun' : runOf Profile.setting Profile.turn (.writing "salutation" text) =
      some (.ok { mutations := [("salutation", "Countess")] }) := by
    decide +kernel
  obtain ⟨v, step, step', hv, hstep, hstep', hvar, hsame, -, -⟩ :=
    scripts_hand_out_one_text (t := Profile.turn) Profile.salutation_isExpression rfl rfl rfl hrun
      hrun' g g "n" "n"
  exact ⟨Profile.salutation_isExpression, hrun, hrun', v, step, step', hv, hstep, hstep', hvar,
    hsame⟩

/-- Null is handed out as two texts. -/
theorem null_is_handed_out_as_two_texts :
    let g := Graph.ofDefinition { containers := [], edges := [] }
    IsExpression "null" (.literal .null) ∧
      runOf Profile.setting Profile.turn (.ending "x" "null" false) =
        some (.ok { result := some "null" }) ∧
      runOf Profile.setting Profile.turn (.writing "x" "null") =
        some (.ok { mutations := [("x", "")] }) ∧
      ∃ step step',
        Profile.turn.execute g Profile.setting ⟨"n", .ending "x" "null" false⟩ = .ok step ∧
        Profile.turn.execute g Profile.setting ⟨"n", .writing "x" "null"⟩ = .ok step' ∧
        step.turn.state.vars.get? "x" = some "null" ∧
        step'.turn.state.vars.get? "x" = some "" := by
  intro g
  have hrun : runOf Profile.setting Profile.turn (.ending "x" "null" false) =
      some (.ok { result := some "null" }) := by
    decide +kernel
  have hrun' : runOf Profile.setting Profile.turn (.writing "x" "null") =
      some (.ok { mutations := [("x", "")] }) := by
    decide +kernel
  obtain ⟨step, v, hstep, hv, hvar⟩ :=
    Turn.execute_ending (g := g) (t := Profile.turn) Profile.null_isExpression rfl hrun "n"
  obtain ⟨step', v', hstep', hv', hvar'⟩ :=
    Turn.execute_writing (g := g) (t := Profile.turn) Profile.null_isExpression rfl hrun' "n"
  cases hv.literal
  cases hv'.literal
  exact ⟨Profile.null_isExpression, hrun, hrun', step, step', hstep, hstep', hvar, hvar'⟩

end Session

end Dialogue
