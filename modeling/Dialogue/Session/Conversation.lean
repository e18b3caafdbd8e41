import Dialogue.Session.Answer
import Dialogue.Session.Walk
import Dialogue.Text.Trim

namespace Dialogue.Session

open Dialogue.Flow Time

/-!
# Conversations

A conversation begins at the start of a flow and goes on by turns. What a turn does depends on the
session: an answer is checked, an unanswered question is asked again, and where nothing is asked
the flow goes on.

* `State.begin`: a new session.
* `chosen?`: the button that a user means.
* `Turn.answer`, `Turn.askAgain`: what an answer leads to, and what its absence does.
* `Turn.run`: a whole turn.
-/

/-- A new session, at the start of a flow. -/
def State.begin (g : Graph) (sessionId flowId : String) (flowVersion : Int) (now : Instant) :
    Except Error State :=
  match g.startContainer with
  | .ok start => .ok
    { sessionId, flowId, flowVersion, containerId := start.id, createdAt := now, updatedAt := now }
  | .error e => .error (.graph e)

/-- A session begins before the first node of the start container, and has nothing in it. -/
theorem State.begin_eq_ok_iff {g : Graph} {sessionId flowId : String} {flowVersion : Int}
    {now : Instant} {s : State} : State.begin g sessionId flowId flowVersion now = .ok s ↔
      ∃ start, g.startContainer = .ok start ∧
        s = { sessionId, flowId, flowVersion, containerId := start.id
              createdAt := now, updatedAt := now } := by
  unfold State.begin
  cases g.startContainer with
  | error e => simp
  | ok start => simp [eq_comm]

/-! ### Answers -/

/-- Texts that differ at most in the case of ASCII letters and in blanks around them. -/
def sameLabel (a b : String) : Bool :=
  (Text.trimmed a).toLower == (Text.trimmed b).toLower

/-- The button that a user means: the one of the id, else the one whose label the user wrote. -/
def chosen? (buttons : List Button) (payload : Inbound) : Option Button :=
  -- The text counts also where an id is given that no button has.
  (payload.buttonId.bind fun id => buttons.find? (·.id == id)).or
    (payload.text.bind fun text => buttons.find? (sameLabel ·.label text))

namespace Turn

/-- The handle by which a choice leaves its node. A button that no edge leaves goes the way of
answers that choose no button. -/
def choiceHandle (g : Graph) (nodeId : String) (choice : Option Button) (t : Turn) :
    Except Abort Handle :=
  match choice with
  | none => .ok (.fallback nodeId)
  | some b => do
    match ← t.handleTarget g (.button nodeId b.id) with
    | some _ => return .button nodeId b.id
    | none => return .fallback nodeId

/-- Saves the label of a button that is chosen. -/
def keepChoice (choice : Option Button) (t : Turn) : Turn :=
  match choice with
  | some b => t.setOptional b.saveVariable (t.fill b.label)
  | none => t

/-- Answers buttons. -/
def choose (g : Graph) (nodeId : String) (buttons : List Button) (payload : Inbound)
    (t : Turn) : Except Abort Step := do
  let choice := chosen? buttons payload
  let t := t.answered.keepChoice choice
  t.followExit g (← t.choiceHandle g nodeId choice)

/-- Answers a simple input. An answer that is not accepted leaves the session where it is. -/
def fillIn (env : Environment) (kind : InputKind) (i : Input) (payload : Inbound)
    (t : Turn) : Step :=
  let answer := Text.trimmed (payload.text.getD "")
  -- Without a validation of its own an input has that of its kind.
  if accepts (i.validation.or kind.defaultValidation) answer then
    .next (t.setOptional i.saveVariable answer).answered.advance
  else .done (.rest ((t.sayOptional env i.retryMessage).ask env i))

/-- Turns to the node where an answer is awaited, be it buttons or a simple input. -/
def atQuestion {α : Type} (g : Graph) (atButtons : String → List Button → Except Abort α)
    (atInput : InputKind → Input → Except Abort α) (t : Turn) : Except Abort α := do
  match ← t.node? g with
  | some ⟨id, .buttons buttons⟩ => atButtons id buttons
  | some ⟨_, .input kind i⟩ => atInput kind i
  | _ => t.mismatch

/-- What an answer leads to. -/
def answer (g : Graph) (env : Environment) (payload : Inbound) (t : Turn) : Except Abort Step :=
  t.atQuestion g (fun id buttons => t.choose g id buttons payload)
    fun kind i => return t.fillIn env kind i payload

/-- Asks again what the session waits for. -/
def askAgain (g : Graph) (env : Environment) (t : Turn) : Except Abort Turn :=
  t.atQuestion g (fun _ buttons => return t.offer buttons) fun _ i => return t.ask env i

/-! ### Turns -/

/-- What a turn does with a session that has not ended. -/
def react (g : Graph) (env : Environment) (inbound : Option Inbound) (t : Turn) :
    Except Abort Turn :=
  match t.state.status, t.state.waitingFor, inbound with
  -- The node that asked for the redirect is done with, and what the user sends is not looked at.
  | .yielded, _, _ => t.resume.walk g env
  | _, none, _ => t.walk g env
  | _, some _, none => t.askAgain g env
  | _, some _, some payload => do (← t.answer g env payload).follow g env

/-- The turn is over. -/
def finish (env : Environment) (t : Turn) : Turn :=
  { t with state.updatedAt := env.now }

/-- A whole turn of a session, after so many tokens have been drawn. A session that has ended does
nothing any more. -/
def run (g : Graph) (env : Environment) (drawn : Nat) (state : State)
    (inbound : Option Inbound) : Except Abort Turn :=
  let inbound := inbound.filter (!·.isEmpty)
  let t : Turn := { state, drawn }
  match state.status with
  | .ended => .ok (t.finish env)
  | _ => (finish env) <$> (t.receive env inbound).react g env inbound

end Turn

end Dialogue.Session
