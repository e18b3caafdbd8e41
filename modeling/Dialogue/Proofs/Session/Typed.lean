import Dialogue.Proofs.Session.Acts
import Dialogue.Proofs.Session.Agreement
import Dialogue.Proofs.Session.Idle
import Dialogue.Proofs.Session.Transcript
import Mathlib.Data.List.Nodup

namespace Dialogue.Session

open Dialogue.Flow

/-!
# Typing what stands on a button

A reply by text is compared with the labels as the author wrote them. So it chooses the button that
it reads like, as a click would, where the labels are shown as they are written; a label with a
variable in it is shown otherwise.

* `SameAnswer`: two turns differ in nothing but the line for what the user sent.
* `Turn.both_run_of_chosen`: replies that mean one button have the same effect.
* `typing_a_label_is_choosing`: typing the label of a button is choosing it.
* `typing_a_shown_label_is_not_choosing`: unless a variable is filled in.
-/

/-- The turns give the same and leave the same session, but for the lines on which they have written
down what the user sent. -/
structure SameAnswer (env : Environment) (s : State) (payload payload' : Inbound) (t t' : Turn) :
    Prop where
  output : t'.output = t.output
  drawn : t'.drawn = t.drawn
  state : ∃ lines, t.state.log = s.log ++ .inbound payload env.now :: lines ∧
    t'.state = { t.state with log := s.log ++ .inbound payload' env.now :: lines }

namespace Turn

variable {g : Graph} {env : Environment} {s : State} {t t' : Turn} {payload payload' : Inbound}

/-- A reply counts by the button that it means. -/
theorem choose_eq_of_chosen {options : List Button}
    (h : chosen? options payload = chosen? options payload') (nodeId : String) :
    t.choose g nodeId options payload = t.choose g nodeId options payload' := by
  unfold choose
  rw [h]

/-- Replies that mean one button have the same effect. -/
theorem both_run_of_chosen (env : Environment) (drawn : Nat) {nodeId : String}
    {options : List Button} (hstatus : s.status = .active) (hw : s.waitingFor = some .buttons)
    (hnode : g.nodeAt s.containerId s.nodeIndex = .ok (some ⟨nodeId, .buttons options⟩))
    (hpayload : payload.isEmpty = false) (hpayload' : payload'.isEmpty = false)
    (h : chosen? options payload = chosen? options payload') :
    Both Agrees (run g env drawn s (some payload)) (run g env drawn s (some payload')) := by
  -- The answer asks for the chosen button only, and both payloads choose the same one.
  have hanswer : ∀ (payload : Inbound) (t : Turn), t.state.containerId = s.containerId →
      t.state.nodeIndex = s.nodeIndex →
      t.answer g env payload = t.choose g nodeId options payload := by
    intro payload t hid hindex
    unfold answer atQuestion node?
    rw [hid, hindex, hnode]
    rfl
  have hreceived : Alike (receive env (some payload) { state := s, drawn })
      (receive env (some payload') { state := s, drawn }) := ⟨s.origin, _, _, rfl⟩
  refine both_agrees rfl ?_
  rw [run_answered env drawn hstatus hw hpayload, run_answered env drawn hstatus hw hpayload',
    hanswer _ _ rfl rfl, hanswer _ _ rfl rfl, ← choose_eq_of_chosen h]
  exact ((both_choose hreceived nodeId options payload).bind fun _ _ hstep =>
    both_followStep hstep).map fun _ _ h => h.finish

/-- What two replies that have the same effect differ in is the line that they leave. -/
theorem sameAnswer_of_agrees (hs : s.status ≠ .ended) {drawn : Nat}
    (hpayload : payload.isEmpty = false) (hpayload' : payload'.isEmpty = false)
    (h : run g env drawn s (some payload) = .ok t)
    (h' : run g env drawn s (some payload') = .ok t') (hagrees : t.Agrees t') :
    SameAnswer env s payload payload' t t' := by
  have hlines : ∀ {payload : Inbound}, payload.isEmpty = false →
      Inbound.lines env.now (some payload) = [.inbound payload env.now] := by
    rintro ⟨text, buttonId⟩ hpayload
    cases text <;> cases buttonId <;> first | rfl | cases hpayload
  -- Both logs are known line by line; they differ in the line of the visitor.
  have hlog := run_lines hs h
  have hlog' := run_lines hs h'
  rw [hlines hpayload, List.append_assoc] at hlog
  rw [hlines hpayload', List.append_assoc, hagrees.output_eq] at hlog'
  refine ⟨hagrees.output_eq, hagrees.drawn_eq, _, hlog, ?_⟩
  have htime := (run_updatedAt h').trans (run_updatedAt h).symm
  obtain ⟨log, updatedAt, rfl⟩ := hagrees
  show { t.state with log, updatedAt } = _
  rw [show updatedAt = t.state.updatedAt from htime, show log = _ from hlog']
  rfl

end Turn

/-! ### Typing labels -/

/-- Labels are compared without blanks around them and without case. -/
theorem sameLabel_iff {text label : String} :
    sameLabel text label ↔
      (Text.trim text.toList).map Char.toLower = (Text.trim label.toList).map Char.toLower := by
  show (Text.trimmed text).map Char.toLower == (Text.trimmed label).map Char.toLower ↔ _
  rw [beq_iff_eq, ← String.toList_inj]
  simp [Text.trimmed]

/-- What is the same label as another one compares like it. -/
theorem sameLabel_congr {text label : String} (h : sameLabel text label) (other : String) :
    sameLabel other text = sameLabel other label := by
  unfold sameLabel at h ⊢
  rw [eq_of_beq h]

/-- A text without an id is looked for among the labels. -/
theorem chosen?_text (buttons : List Button) (text : String) :
    chosen? buttons { text := some text } = buttons.find? (sameLabel ·.label text) := rfl

/-- A button is found by its id if no other one has it. -/
theorem chosen?_id {buttons : List Button} (hids : (buttons.map Button.id).Nodup) {b : Button}
    (hb : b ∈ buttons) : chosen? buttons { buttonId := some b.id } = some b := by
  have hfind : buttons.find? (·.id == b.id) = some b := by
    cases h : buttons.find? (·.id == b.id) with
    | none => exact absurd (List.find?_eq_none.1 h b hb) (by simp)
    | some o =>
      have hid : o.id = b.id := by simpa using List.find?_some h
      rw [List.inj_on_of_nodup_map hids (List.mem_of_find?_eq_some h) hb hid]
  show (buttons.find? (·.id == b.id)).or none = some b
  rw [hfind, Option.or_none]

/-- Two runs fail alike, or differ in nothing but the line for what the user sent. -/
def AnswersAlike (g : Graph) (env : Environment) (drawn : Nat) (s : State)
    (payload payload' : Inbound) : Prop :=
  Both (SameAnswer env s payload payload') (Turn.run g env drawn s (some payload))
    (Turn.run g env drawn s (some payload'))

/-- Sessions that answer alike put out the same. -/
theorem AnswersAlike.output_eq {g : Graph} {env : Environment} {drawn : Nat} {s : State}
    {payload payload' : Inbound} (h : AnswersAlike g env drawn s payload payload') :
    (Turn.run g env drawn s (some payload')).map Turn.output =
      (Turn.run g env drawn s (some payload)).map Turn.output := by
  unfold AnswersAlike at h
  generalize Turn.run g env drawn s (some payload) = run at h ⊢
  generalize Turn.run g env drawn s (some payload') = run' at h ⊢
  cases h with
  | ok h => exact congrArg Except.ok h.output
  | error a => rfl

/-- What reads like the label of a button means the first button that it reads like. -/
theorem answersAlike_of_label {g : Graph} {s : State} {nodeId : String} {buttons : List Button}
    (hstatus : s.status = .active) (hw : s.waitingFor = some .buttons)
    (hnode : g.nodeAt s.containerId s.nodeIndex = .ok (some ⟨nodeId, .buttons buttons⟩))
    (hids : (buttons.map Button.id).Nodup) {text : String} {b : Button}
    (hb : buttons.find? (sameLabel ·.label text) = some b) (env : Environment) (drawn : Nat) :
    AnswersAlike g env drawn s { text := some text } { buttonId := some b.id } := by
  -- The label and the id choose the same button, as ids are not repeated.
  have hchosen : chosen? buttons { text := some text } =
      chosen? buttons { buttonId := some b.id } := by
    rw [chosen?_text, hb, chosen?_id hids (List.mem_of_find?_eq_some hb)]
  have hne : s.status ≠ .ended := by simp [hstatus]
  have hboth := Turn.both_run_of_chosen env drawn hstatus hw hnode rfl rfl hchosen
  unfold AnswersAlike
  generalize hrun : Turn.run g env drawn s (some { text := some text }) = run at hboth ⊢
  generalize hrun' : Turn.run g env drawn s (some { buttonId := some b.id }) = run' at hboth ⊢
  cases hboth with
  | ok h => exact .ok (Turn.sameAnswer_of_agrees hne rfl rfl hrun hrun' h)
  | error a => exact .error a

/-- After a turn that leaves the session waiting at buttons with different ids, a text that reads
like the label of a button, as it is written in the flow, does what the id of the first such button
does. So typing what stands on a button is choosing it if labels are shown as they are written. -/
theorem typing_a_label_is_choosing (d : Definition) {env : Environment} {drawn : Nat}
    {inbound : Option Inbound} {s : State} {t : Turn} (hs : Reachable (Graph.ofDefinition d) s)
    (h : Turn.run (Graph.ofDefinition d) env drawn s inbound = .ok t)
    (hw : t.state.waitingFor = some .buttons)
    (hids : (t.output.buttons.map ButtonOption.id).Nodup) :
    let g := Graph.ofDefinition d
    ∃ nodeId buttons,
      g.nodeAt t.state.containerId t.state.nodeIndex = .ok (some ⟨nodeId, .buttons buttons⟩) ∧
      t.output.buttons = buttons.map (fun b => ⟨b.id, Text.interpolate t.state.vars b.label⟩) ∧
      (∀ text b, buttons.find? (sameLabel ·.label text) = some b → ∀ env drawn,
        AnswersAlike g env drawn t.state { text := some text } { buttonId := some b.id }) ∧
      ((∀ b ∈ buttons, Text.interpolate t.state.vars b.label = b.label) →
        ∀ label ∈ t.output.buttons.map ButtonOption.label, ∀ text, sameLabel text label →
          ∃ b, t.output.buttons.find? (sameLabel ·.label label) = some b ∧ ∀ env drawn,
            AnswersAlike g env drawn t.state { text := some text } { buttonId := some b.id }) := by
  intro g
  have hg := Graph.coherent_ofDefinition d
  have hrest := (Turn.run_ends hg (settled_of_reachable hg hs) drawn inbound).ok h
  obtain ⟨hstatus, -⟩ := hrest.settled.of_waiting hw
  obtain ⟨nodeId, buttons, hnode, hbuttons⟩ := hrest.buttons.1 hw
  have hids' : (buttons.map Button.id).Nodup := by
    rw [hbuttons, List.map_map] at hids
    exact hids
  have halike := fun {text : String} {b : Button} (hb : buttons.find? (sameLabel ·.label text) =
    some b) => answersAlike_of_label hstatus hw hnode hids' hb
  refine ⟨nodeId, buttons, hnode, hbuttons, fun text b hb => halike hb, ?_⟩
  intro hwritten label hlabel text htext
  have hshown : t.output.buttons = buttons.map (fun b => ⟨b.id, b.label⟩) := by
    rw [hbuttons]
    exact List.map_congr_left fun b hb => by rw [hwritten b hb]
  rw [hshown] at hlabel ⊢
  -- The button of the label reads like it, so there is a first one that does.
  obtain ⟨b, hb⟩ : ∃ b, buttons.find? (sameLabel ·.label label) = some b := by
    rw [List.map_map] at hlabel
    obtain ⟨b, hmem, rfl⟩ := List.mem_map.1 hlabel
    refine Option.isSome_iff_exists.1 (List.find?_isSome.2 ⟨b, hmem, ?_⟩)
    exact beq_self_eq_true _
  have hb' : buttons.find? (sameLabel ·.label text) = some b := by
    simp only [sameLabel_congr htext, hb]
  refine ⟨⟨b.id, b.label⟩, ?_, halike hb'⟩
  rw [List.find?_map]
  exact congrArg (Option.map _) hb

/-- Whoever writes that they will not come has clicked on it. -/
theorem typing_a_label_is_choosing_invitation :
    Turn.run (Graph.ofDefinition Invitation.flow) Invitation.setting 0 Invitation.begun none =
        .ok Invitation.offering ∧
      AnswersAlike (Graph.ofDefinition Invitation.flow) Invitation.setting 0
        Invitation.offering.state { text := some " nO " } { buttonId := some "no" } := by
  have hbegin : State.begin (Graph.ofDefinition Invitation.flow) "s" "f" 1 ⟨0, 0⟩ =
      .ok Invitation.begun := rfl
  have hrun : Turn.run (Graph.ofDefinition Invitation.flow) Invitation.setting 0
      Invitation.begun none = .ok Invitation.offering := by decide +kernel
  obtain ⟨nodeId, buttons, hnode, -, -, hshown⟩ :=
    typing_a_label_is_choosing Invitation.flow (.start hbegin) hrun rfl (by decide)
  cases hnode
  obtain ⟨b, hb, halike⟩ :=
    hshown (by decide +kernel) "No" (by decide) " nO " (sameLabel_iff.2 (by decide))
  have hno : Invitation.offering.output.buttons.find? (sameLabel ·.label "No") =
      some ⟨"no", "No"⟩ := by decide +kernel
  cases hb.symm.trans hno
  exact ⟨hrun, halike Invitation.setting 0⟩

/-! ### A button with a name on it -/

namespace Badge

/-- A flow that knows a name, shows it on a button, and lets in who presses the button. -/
def flow : Definition where
  containers :=
    [⟨"door", [⟨"name", .assignment { variableName := "name", value := "Bob" }⟩,
        ⟨"who", .buttons [⟨"me", "I am {{name}}", none⟩]⟩]⟩,
      ⟨"hall", [⟨"hello", .textBubble "Hello"⟩]⟩]
  edges := [⟨"door", some "who-btn-me", "hall"⟩]

/-- The turn that shows the button. -/
def offering : Turn where
  state :=
    { Invitation.begun with
      nodeIndex := 1
      vars := Dictionary.empty.insert "name" "Bob"
      waitingFor := some .buttons }
  buttons := [⟨"me", "I am Bob"⟩]

end Badge

/-- The label that is shown is not the one that a reply is compared with. -/
theorem typing_a_shown_label_is_not_choosing :
    ¬∀ (d : Definition) (env : Environment) (drawn : Nat) (s : State) (t : Turn),
      Reachable (Graph.ofDefinition d) s →
      Turn.run (Graph.ofDefinition d) env drawn s none = .ok t →
      t.state.waitingFor = some .buttons → (t.output.buttons.map ButtonOption.id).Nodup →
      ∀ b ∈ t.output.buttons,
        AnswersAlike (Graph.ofDefinition d) env drawn t.state { text := some b.label }
          { buttonId := (t.output.buttons.find? (sameLabel ·.label b.label)).map (·.id) } := by
  -- The shown label is not the stored one, so typing it chooses nothing.
  intro h
  have hbegin : State.begin (Graph.ofDefinition Badge.flow) "s" "f" 1 ⟨0, 0⟩ =
      .ok Invitation.begun := rfl
  have hrun : Turn.run (Graph.ofDefinition Badge.flow) Invitation.setting 0
      Invitation.begun none = .ok Badge.offering := by decide +kernel
  have halike := h Badge.flow Invitation.setting 0 Invitation.begun Badge.offering (.start hbegin)
    hrun rfl (by decide) ⟨"me", "I am Bob"⟩ List.mem_cons_self
  exact absurd halike.output_eq (by decide +kernel)

end Dialogue.Session
