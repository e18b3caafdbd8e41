import Dialogue.Proofs.Flow.Publishable
import Dialogue.Proofs.Session.Suspension

namespace Dialogue.Session

open Dialogue.Flow

/-!
# Flows that pass the checks are safe to run

A flow without errors can be begun, and no turn of a conversation on it fails for a reason that
lies in the flow: what is left are the limit on hops and, where they are to fail a turn, scripts.

* `run_ends_of_isPublishable`: what a turn on such a flow may end in.
* `published_flow_is_safe`: the whole conversation.
-/

variable {d : Definition} {patterns : Pattern.Engine}

/-- A turn of a conversation on a flow without errors succeeds or fails in a tolerated way. -/
theorem run_ends_of_isPublishable (h : d.isPublishable patterns) {s : State}
    (hs : Reachable (Graph.ofDefinition d) s) (env : Environment) (drawn : Nat)
    (inbound : Option Inbound) :
    Ends (Error.Tolerated env) (AtRest (Graph.ofDefinition d))
      (Turn.run (Graph.ofDefinition d) env drawn s inbound) := by
  have hg := Graph.coherent_ofDefinition d
  have hresolves := resolves_of_wellLinked (wellLinked_of_isPublishable h)
  exact (Turn.run_ends hg (settled_of_reachable hg hs) drawn inbound).mono
    (fun _ he => he hresolves) fun _ ht => ht

/-- On a flow without errors a conversation begins, and each of its turns succeeds, or runs into
the limit on hops, or fails by a script where scripts are to be tried again. Which engine builds
patterns, when the flow is checked or in the turn, makes no difference. -/
theorem published_flow_is_safe (h : d.isPublishable patterns) :
    (∀ sessionId flowId flowVersion now, ∃ s,
      State.begin (Graph.ofDefinition d) sessionId flowId flowVersion now = .ok s) ∧
    ∀ s, Reachable (Graph.ofDefinition d) s → ∀ env drawn inbound,
      (∃ t, Turn.run (Graph.ofDefinition d) env drawn s inbound = .ok t) ∨
      (∃ n, Turn.run (Graph.ofDefinition d) env drawn s inbound =
        .error ⟨.graph (.traversalLimit env.maxHops), n⟩) ∨
      (env.policy = .retry ∧ ∃ nodeId failure n,
        Turn.run (Graph.ofDefinition d) env drawn s inbound =
          .error ⟨.script nodeId failure, n⟩) := by
  constructor
  · intro sessionId flowId flowVersion now
    obtain ⟨c, hc⟩ := exists_start_of_wellLinked (wellLinked_of_isPublishable h)
    exact ⟨_, State.begin_eq_ok_iff.2 ⟨c, hc, rfl⟩⟩
  · intro s hs env drawn inbound
    have hends := run_ends_of_isPublishable h hs env drawn inbound
    cases hrun : Turn.run (Graph.ofDefinition d) env drawn s inbound with
    | ok t => exact .inl ⟨t, rfl⟩
    | error abort =>
      -- The errors that are tolerated are the two that the flow is not to blame for.
      obtain ⟨e, n⟩ := abort
      cases hends.error hrun with
      | hops => exact .inr (.inl ⟨n, rfl⟩)
      | script hretry nodeId failure => exact .inr (.inr ⟨hretry, nodeId, failure, n, rfl⟩)

/-- The invitation can be published, so it can be begun, and whoever is offered its buttons gets a
turn or reaches the limit on hops. -/
theorem published_flow_is_safe_invitation :
    Invitation.flow.isPublishable .refusing ∧
      (∃ s, State.begin (Graph.ofDefinition Invitation.flow) "s" "f" 1 Invitation.setting.now =
        .ok s) ∧
      ((∃ t, Turn.run (Graph.ofDefinition Invitation.flow) Invitation.setting 0
          Invitation.offering.state none = .ok t) ∨
        ∃ n, Turn.run (Graph.ofDefinition Invitation.flow) Invitation.setting 0
          Invitation.offering.state none = .error ⟨.graph (.traversalLimit 64), n⟩) := by
  have hpublishable : Invitation.flow.isPublishable .refusing := by decide +kernel
  obtain ⟨hbegin, hrun⟩ := published_flow_is_safe hpublishable
  refine ⟨hpublishable, hbegin "s" "f" 1 Invitation.setting.now, ?_⟩
  rcases hrun _ Invitation.reachable_offering Invitation.setting 0 none with h | h | h
  · exact .inl h
  · exact .inr h
  · exact absurd h.1 (by decide)

end Dialogue.Session
