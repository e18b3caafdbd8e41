import Dialogue.Proofs.Flow.Reordered
import Dialogue.Proofs.Session.Idle

namespace Dialogue.Session

open Dialogue.Flow

/-!
# Conversations on a flow in another order

A turn asks the graph for containers and for where exits lead, and for nothing else. So on graphs
that answer alike every turn is the same, and with it every conversation.

* `Turn.execute_congr`, `Turn.visit_congr`, `Visit.follow_congr`, `Turn.answer_congr`: the parts of
  a turn on graphs that answer alike.
* `Turn.run_congr`, `exchanges_congr`: whole turns, and conversations.
* `order_carries_no_meaning`: the order of containers and edges is not seen in conversations.
-/

variable {g g' : Graph} {env : Environment}

namespace Turn

/-! ### Nodes -/

/-- The node at the cursor is the same. -/
theorem node?_congr (h : g.SameAnswers g') (t : Turn) : t.node? g' = t.node? g := by
  unfold node?
  rw [h.nodeAt]

/-- A handle leads to the same container. -/
theorem handleTarget_congr (h : g.SameAnswers g') (handle : Handle) (t : Turn) :
    t.handleTarget g' handle = t.handleTarget g handle := by
  unfold handleTarget Graph.handleTarget
  rw [h.resolve]

/-- An exit is followed alike. -/
theorem followExit_congr (h : g.SameAnswers g') (handle : Handle) (t : Turn) :
    t.followExit g' handle = t.followExit g handle := by
  unfold followExit
  rw [handleTarget_congr h, node?_congr h]

/-- Only conditions look at the graph. -/
theorem execute_congr (h : g.SameAnswers g') (node : Node) (t : Turn) :
    t.execute g' env node = t.execute g env node := by
  unfold execute
  cases node.kind with
  | condition groups => exact followExit_congr h _ t
  | _ => rfl

/-! ### Containers and walks -/

/-- The nodes of a container do the same. -/
theorem visitNodes_congr (h : g.SameAnswers g') (nodes : List Node) (t : Turn) :
    visitNodes g' env nodes t = visitNodes g env nodes t := by
  induction nodes generalizing t with
  | nil =>
    unfold visitNodes Graph.fallThroughTarget
    -- Behind the last node the exit without a handle is looked up, and that is answered alike.
    rw [h.resolve]
  | cons node rest ih =>
    unfold visitNodes
    rw [execute_congr h]
    congr 1
    funext step
    cases step with
    | next t => exact ih t
    | done v => rfl

/-- A container is visited alike. -/
theorem visit_congr (h : g.SameAnswers g') (t : Turn) : t.visit g' env = t.visit g env := by
  unfold visit
  rw [h.container]
  congr 1
  funext c
  exact visitNodes_congr h _ t

end Turn

/-- The containers that follow are visited alike. -/
theorem Visit.follow_congr (h : g.SameAnswers g') (hops : Nat) (v : Visit) :
    v.follow g' env hops = v.follow g env hops := by
  induction hops generalizing v with
  | zero => cases v <;> rfl
  | succ hops ih =>
    cases v with
    | rest t => rfl
    -- A container that is left for another one takes a hop, whichever graph answers.
    | leave t target =>
      unfold Visit.follow
      rw [Turn.visit_congr h]
      congr 1
      funext v
      exact ih v

namespace Turn

/-- A walk is the same. -/
theorem walk_congr (h : g.SameAnswers g') (t : Turn) : t.walk g' env = t.walk g env := by
  unfold walk
  rw [visit_congr h]
  congr 1
  funext v
  exact v.follow_congr h env.maxHops

/-- What follows a node is the same. -/
theorem followStep_congr (h : g.SameAnswers g') (step : Step) :
    step.follow g' env = step.follow g env := by
  cases step with
  | next t => exact walk_congr h t
  | done v => exact v.follow_congr h env.maxHops

/-! ### Answers and turns -/

/-- A choice is answered by the same handle. -/
theorem choiceHandle_congr (h : g.SameAnswers g') (nodeId : String) (choice : Option Button)
    (t : Turn) : t.choiceHandle g' nodeId choice = t.choiceHandle g nodeId choice := by
  unfold choiceHandle
  cases choice with
  | none => rfl
  | some b =>
    dsimp only
    rw [handleTarget_congr h]

/-- A choice is taken in alike. -/
theorem choose_congr (h : g.SameAnswers g') (nodeId : String) (options : List Button)
    (payload : Inbound) (t : Turn) :
    t.choose g' nodeId options payload = t.choose g nodeId options payload := by
  unfold choose
  dsimp only
  rw [choiceHandle_congr h]
  congr 1
  funext handle
  exact followExit_congr h handle _

/-- An answer is taken in alike. -/
theorem answer_congr (h : g.SameAnswers g') (payload : Inbound) (t : Turn) :
    t.answer g' env payload = t.answer g env payload := by
  unfold answer atQuestion
  rw [node?_congr h]
  congr 1
  funext node
  -- Only buttons look anything up behind the node; an input keeps the answer or refuses it.
  split
  · exact choose_congr h _ _ payload t
  · rfl
  · rfl

/-- What is asked again is the same. -/
theorem askAgain_congr (h : g.SameAnswers g') (t : Turn) :
    t.askAgain g' env = t.askAgain g env := by
  unfold askAgain atQuestion
  rw [node?_congr h]

/-- A turn reacts alike. -/
theorem react_congr (h : g.SameAnswers g') (inbound : Option Inbound) (t : Turn) :
    t.react g' env inbound = t.react g env inbound := by
  unfold react
  -- The turn goes on after a redirect, waits for nothing, asks again, or takes an answer in.
  split
  · exact walk_congr h t.resume
  · exact walk_congr h t
  · exact askAgain_congr h t
  · rw [answer_congr h]
    congr 1
    funext step
    exact followStep_congr h step

/-- On graphs that answer alike a turn comes to the same result, or fails in the same way. -/
theorem run_congr (h : g.SameAnswers g') (env : Environment) (drawn : Nat) (s : State)
    (inbound : Option Inbound) : run g' env drawn s inbound = run g env drawn s inbound := by
  unfold run
  cases s.status with
  | ended => rfl
  | active => exact congrArg (finish env <$> ·) (react_congr h _ _)
  | yielded => exact congrArg (finish env <$> ·) (react_congr h _ _)

end Turn

/-- On graphs that answer alike a conversation goes on alike: every event has the same reply, or the
same failure, and leads to the same session. -/
theorem exchanges_congr (h : g.SameAnswers g') (c : Conversation) (events : List Event) :
    exchanges g' c events = exchanges g c events := by
  have hexchange : ∀ c e, Conversation.exchange g' c e = Conversation.exchange g c e := by
    intro c e
    unfold Conversation.exchange
    rw [Turn.run_congr h]
  induction events generalizing c with
  | nil => rfl
  | cons e rest ih =>
    unfold exchanges
    rw [hexchange, ih]

/-! ### A museum -/

namespace Museum

/-- The visitors choose where to go first, and see the other room afterwards. -/
def flow : Definition where
  containers :=
    [⟨"lobby", [⟨"way", .buttons [⟨"left", "Left", none⟩, ⟨"right", "Right", none⟩]⟩]⟩,
      ⟨"hall", [⟨"statues", .textBubble "Statues"⟩]⟩,
      ⟨"garden", [⟨"roses", .textBubble "Roses"⟩]⟩]
  edges :=
    [⟨"lobby", some "way-btn-left", "hall"⟩, ⟨"lobby", some "way-btn-right", "garden"⟩,
      ⟨"garden", none, "hall"⟩]
  startContainerId := some "lobby"

/-- The flow with its containers and edges in another order. -/
def turned : Definition :=
  { flow with containers := flow.containers.reverse, edges := flow.edges.reverse }

/-- The museum turned around is the museum in another order. -/
theorem reorders : flow.Reorders turned where
  edges := List.reverse_perm _
  containers := .inr ⟨rfl, List.reverse_perm _⟩
  start := rfl

/-- A visitor who goes to the right. -/
def visit : List Event :=
  [GuestBook.sent 1 none, GuestBook.sent 2 (some "right")]

end Museum

/-- The order of edges carries no meaning, nor does that of containers where the start is named. A
flow that can be published can be published in another order as well. There a session begins in the
same way; from every session, reachable or not, and under all circumstances every turn comes to the
same result, or the same failure, with as many tokens drawn; so every conversation is the same from
the beginning to the end. -/
theorem order_carries_no_meaning {d d' : Definition} {patterns : Pattern.Engine}
    (hd : d.isPublishable patterns) (horder : d.Reorders d') :
    let g := Graph.ofDefinition d
    let g' := Graph.ofDefinition d'
    d'.isPublishable patterns ∧
      (∀ sessionId flowId flowVersion now,
        State.begin g' sessionId flowId flowVersion now =
          State.begin g sessionId flowId flowVersion now) ∧
      (∀ env drawn s inbound, Turn.run g' env drawn s inbound = Turn.run g env drawn s inbound) ∧
      ∀ c events, exchanges g' c events = exchanges g c events := by
  have hanswers := horder.sameAnswers hd
  have hstart := horder.startContainer_eq hd
  refine ⟨horder.isPublishable hd, ?_, ?_, ?_⟩
  -- A session begins at the start container, which is the same in both orders.
  · intro sessionId flowId flowVersion now
    unfold State.begin
    rw [hstart]
  · exact Turn.run_congr hanswers
  · exact exchanges_congr hanswers

/-- In whichever order the museum is written down, who goes to the right sees the roses first. -/
theorem order_carries_no_meaning_museum :
    let start : Conversation := ⟨{ GuestBook.begun with containerId := "lobby" }, 0⟩
    let options : List ButtonOption := [⟨"left", "Left"⟩, ⟨"right", "Right"⟩]
    (Museum.flow.isPublishable .refusing ∧ Museum.flow.Reorders Museum.turned) ∧
      Museum.turned.isPublishable .refusing ∧
      (exchanges (Graph.ofDefinition Museum.turned) start Museum.visit).map Exchange.reply =
        [.ok { buttons := options, waitingFor := some .buttons },
          .ok { messages := [.ofText "Roses", .ofText "Statues"], status := .ended }] := by
  intro start options
  -- The turned museum is not run: what it answers follows from the museum as it was.
  have hpublishable : Museum.flow.isPublishable .refusing := by decide +kernel
  have hreplies : (exchanges (Graph.ofDefinition Museum.flow) start Museum.visit).map
      Exchange.reply =
        [.ok { buttons := options, waitingFor := some .buttons },
          .ok { messages := [.ofText "Roses", .ofText "Statues"], status := .ended }] := by
    decide +kernel
  obtain ⟨hturned, -, -, hsame⟩ := order_carries_no_meaning hpublishable Museum.reorders
  refine ⟨⟨hpublishable, Museum.reorders⟩, hturned, ?_⟩
  rw [hsame start Museum.visit]
  exact hreplies

end Dialogue.Session
