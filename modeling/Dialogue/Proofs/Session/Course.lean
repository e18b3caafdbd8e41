import Dialogue.Session.Conversation

namespace Dialogue.Session

open Dialogue.Flow

/-!
# The course of a turn

What a turn does falls into what it says and keeps, and where it stands. The second part is its
course: the cursor, the status, the answer awaited, the page redirected to and the buttons offered.
Saying texts and setting variables leave the course alone.

* `Course`, `Turn.course`: where a turn stands.
* `Turn.At`: the turn is under way, with the cursor at a place.
* `Ends`: a step of a turn comes to what is wanted, or fails as is allowed.
-/

/-! ### Where a turn stands -/

/-- Where a turn stands. A turn under way has only a cursor. -/
structure Course where
  containerId : String
  nodeIndex : Nat
  status : Status := .active
  waitingFor : Option Awaited := none
  redirectUrl : Option String := none
  buttons : List ButtonOption := []

namespace Turn

/-- Where a turn stands. -/
def course (t : Turn) : Course where
  containerId := t.state.containerId
  nodeIndex := t.state.nodeIndex
  status := t.state.status
  waitingFor := t.state.waitingFor
  redirectUrl := t.redirectUrl
  buttons := t.buttons

/-- The turn is under way, with the cursor at a place: nothing is awaited or offered, and nobody is
sent away. -/
def At (t : Turn) (id : String) (index : Nat) : Prop :=
  t.course = { containerId := id, nodeIndex := index }

variable {env : Environment} {t : Turn} {id : String} {index : Nat}

/-! ### What leaves the course alone -/

/-- Saying a message leaves the course alone. -/
@[simp] theorem course_say (m : Message) : (t.say env m).course = t.course := rfl

/-- So does saying a text. -/
@[simp] theorem course_sayText (text : String) : (t.sayText env text).course = t.course := rfl

/-- So does saying a text that may be missing. -/
@[simp] theorem course_sayOptional (text : Option String) :
    (t.sayOptional env text).course = t.course := by
  cases text <;> rfl

/-- Asking does not wait yet: only what is said to go on waiting changes the course. -/
@[simp] theorem course_ask (i : Input) : (t.ask env i).course = t.course :=
  course_sayOptional i.prompt

/-- Showing media leaves the course alone. -/
@[simp] theorem course_showMedia (kind : MediaKind) (url alt : String) :
    (t.showMedia env kind url alt).course = t.course := rfl

/-- What the user sends is only written down. -/
@[simp] theorem course_receive (inbound : Option Inbound) :
    (t.receive env inbound).course = t.course := by
  cases inbound <;> rfl

/-- Setting a variable leaves the course alone. -/
@[simp] theorem course_set (name value : String) : (t.set name value).course = t.course := rfl

/-- So does setting one that may have no name. -/
@[simp] theorem course_setOptional (name : Option String) (value : String) :
    (t.setOptional name value).course = t.course := by
  cases name <;> rfl

/-- So does keeping the choice of a button. -/
@[simp] theorem course_keepChoice (choice : Option Button) :
    (t.keepChoice choice).course = t.course := by
  cases choice with
  | none => rfl
  | some b => exact course_setOptional b.saveVariable (t.fill b.label)

/-- So do the variables that a script sets. -/
@[simp] theorem course_apply (outcome : Script.Outcome) : (t.apply outcome).course = t.course := by
  unfold apply
  -- Each of the variables leaves the course of the turn before it alone.
  induction outcome.mutations generalizing t with
  | nil => rfl
  | cons m rest ih => rw [List.foldl_cons, ih, course_set]

/-- Counting a script leaves the course alone. -/
@[simp] theorem course_ran : t.ran.course = t.course := rfl

/-- So does drawing a token. -/
@[simp] theorem course_draw (source : ValueSource) : (t.draw source).course = t.course := by
  cases source <;> rfl

/-- So does putting a result on record. -/
@[simp] theorem course_record (a : Assignment) (value : String) :
    (t.record a value).course = t.course := by
  unfold record
  split <;> rfl

/-- The stamp at the end leaves the course alone. -/
@[simp] theorem course_finish : (t.finish env).course = t.course := rfl

/-! ### What changes it -/

/-- The cursor moves on to the next node. -/
@[simp] theorem course_advance :
    t.advance.course = { t.course with nodeIndex := t.course.nodeIndex + 1 } := rfl

/-- The cursor is put before the first node of the container. -/
@[simp] theorem course_enter (c : Container) :
    (t.enter c).course = { t.course with containerId := c.id, nodeIndex := 0 } := rfl

/-- The buttons are shown with their labels filled in. -/
@[simp] theorem course_offer (buttons : List Button) :
    (t.offer buttons).course =
      { t.course with buttons := buttons.map fun b => ⟨b.id, t.fill b.label⟩ } := rfl

/-- Something is waited for. -/
@[simp] theorem course_await (w : Awaited) :
    (t.await w).course = { t.course with waitingFor := some w } := rfl

/-- Nothing is waited for any more. -/
@[simp] theorem course_answered : t.answered.course = { t.course with waitingFor := none } := rfl

/-- The conversation has ended, and waits for nothing. -/
@[simp] theorem course_close :
    t.close.course = { t.course with status := .ended, waitingFor := none } := rfl

/-- The turn goes on behind the node that has sent the user away. -/
@[simp] theorem course_resume :
    t.resume.course =
      { t.course with nodeIndex := t.course.nodeIndex + 1, status := .active } := rfl

/-! ### Under way -/

/-- A turn with the course of one under way is under way, at the same place. -/
theorem At.of_course {t' : Turn} (h : t.At id index) (hc : t'.course = t.course) :
    t'.At id index :=
  hc.trans h

/-- A turn under way that moves on is under way, at the next place. -/
theorem At.advance (h : t.At id index) : t.advance.At id (index + 1) := by
  unfold At at *
  rw [course_advance, h]

/-- Counting a script does not move a turn under way. -/
theorem At.ran (h : t.At id index) : t.ran.At id index := h

/-- A turn under way is in the container of its place. -/
theorem At.containerId (h : t.At id index) : t.state.containerId = id :=
  congrArg Course.containerId h

/-- It is before the node of its place. -/
theorem At.nodeIndex (h : t.At id index) : t.state.nodeIndex = index :=
  congrArg Course.nodeIndex h

/-- Its conversation is active. -/
theorem At.status (h : t.At id index) : t.state.status = .active :=
  congrArg Course.status h

/-- It waits for nothing. -/
theorem At.waitingFor (h : t.At id index) : t.state.waitingFor = none :=
  congrArg Course.waitingFor h

/-- It sends nobody away. -/
theorem At.redirectUrl (h : t.At id index) : t.redirectUrl = none :=
  congrArg Course.redirectUrl h

/-- It offers no buttons. -/
theorem At.buttons (h : t.At id index) : t.buttons = [] :=
  congrArg Course.buttons h

end Turn

/-! ### Ends of a step -/

/-- A step of a turn comes to what is wanted, or fails as is allowed. -/
def Ends {α : Type} (fails : Error → Prop) (post : α → Prop) : Except Abort α → Prop
  | .ok a => post a
  | .error a => fails a.error

namespace Ends

variable {α β : Type} {fails : Error → Prop} {post : α → Prop} {step : Except Abort α}

/-- A step that ends as is wanted also ends as is wanted elsewhere, if more is allowed there. -/
theorem mono {fails' : Error → Prop} {post' : α → Prop} (h : Ends fails post step)
    (hfails : ∀ e, fails e → fails' e) (hpost : ∀ a, post a → post' a) :
    Ends fails' post' step := by
  cases step with
  | ok a => exact hpost a h
  | error a => exact hfails a.error h

/-- A step that is followed by steps that end as is wanted ends so as well. -/
theorem bind {post' : β → Prop} {next : α → Except Abort β} (h : Ends fails post step)
    (hnext : ∀ a, post a → Ends fails post' (next a)) : Ends fails post' (step >>= next) := by
  cases step with
  | ok a => exact hnext a h
  | error a => exact h

/-- A result that is put into another form is what is wanted of the other form. -/
theorem map {post' : β → Prop} {f : α → β} (h : Ends fails post step)
    (hf : ∀ a, post a → post' (f a)) : Ends fails post' (f <$> step) := by
  cases step with
  | ok a => exact hf a h
  | error a => exact h

/-- Looking something up that may be missing. -/
theorem lift (t : Turn) {look : Except GraphError α} (hok : ∀ a, look = .ok a → post a)
    (herror : ∀ e, look = .error e → fails (.graph e)) : Ends fails post (t.lift look) := by
  cases look with
  | ok a => exact hok a rfl
  | error e => exact herror e rfl

/-- A step that goes on with what it finds first. -/
theorem found {first : Except Abort β} {next : β → Except Abort α}
    (h : ∀ b, first = .ok b → Ends (fun _ => True) post (next b)) :
    Ends (fun _ => True) post (first >>= next) := by
  cases first with
  | ok b => exact h b rfl
  | error a => trivial

/-- A step that first makes a choice of which nothing need be known. -/
theorem look {first : Except Abort β} {next : β → Except Abort α}
    (h : ∀ b, Ends (fun _ => True) post (next b)) :
    Ends (fun _ => True) post (first >>= next) :=
  found fun b _ => h b

/-- What is done where an answer is awaited comes to what it comes to at buttons and at an input. -/
theorem atQuestion {g : Graph} {t : Turn} {atButtons : String → List Button → Except Abort α}
    {atInput : InputKind → Input → Except Abort α}
    (hbuttons : ∀ id buttons, t.node? g = .ok (some ⟨id, .buttons buttons⟩) →
      Ends (fun _ => True) post (atButtons id buttons))
    (hinput : ∀ id kind i, t.node? g = .ok (some ⟨id, .input kind i⟩) →
      Ends (fun _ => True) post (atInput kind i)) :
    Ends (fun _ => True) post (t.atQuestion g atButtons atInput) := by
  refine found fun node hnode => ?_
  -- At all other nodes, and where there is none, the step fails.
  match node with
  | some ⟨id, .buttons buttons⟩ => exact hbuttons id buttons hnode
  | some ⟨id, .input kind i⟩ => exact hinput id kind i hnode
  | none => trivial
  | some ⟨_, .textBubble _⟩ | some ⟨_, .numberBubble _⟩ | some ⟨_, .mediaBubble _ _ _⟩
  | some ⟨_, .condition _⟩ | some ⟨_, .assignment _⟩ | some ⟨_, .script _⟩ => trivial

/-- What a step that succeeded came to. -/
theorem ok {a : α} (h : Ends fails post step) (hstep : step = .ok a) : post a := by
  subst hstep
  exact h

/-- How a step that failed did so. -/
theorem error {a : Abort} (h : Ends fails post step) (hstep : step = .error a) :
    fails a.error := by
  subst hstep
  exact h

end Ends

end Dialogue.Session
