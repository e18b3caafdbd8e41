import Dialogue.Proofs.Session.Course

namespace Dialogue.Session

open Dialogue.Flow

/-!
# The path of a turn

A turn opens with what the session awaits, and then goes on by passes: each pass executes the node
of the cursor, or leaves the container behind its last node. The passes of a turn are its path.

* `Turn.opening`, `Turn.pass`: what a turn begins with, and what it does where its cursor stands.
* `Path`: passes that follow one another until the session rests.
* `Step.follow_eq_ok_iff`, `Turn.run_eq_ok_iff`: a turn succeeds exactly when there is a path to
  where it rests, with no more hops than are allowed.
* `Path.keeps`: what every pass keeps holds all along a path.
-/

/-! ### Passes -/

namespace Step

/-- The turn that goes on after a step; none when the session rests. -/
def onward? : Step → Option Turn
  | .next t => some t
  | .done (.leave t target) => some (t.enter target)
  | .done (.rest _) => none

/-- How many containers a step leaves. -/
def hops : Step → Nat
  | .done (.leave _ _) => 1
  | _ => 0

end Step

namespace Turn

/-- What a turn does where its cursor stands. -/
def pass (g : Graph) (env : Environment) (t : Turn) : Except Abort Step := do
  match ← t.node? g with
  | some node => t.execute g env node
  | none =>
    match ← t.lift (g.fallThroughTarget t.state.containerId) with
    | some target => return .done (.leave t target)
    | none => return .done (.rest t.close)

/-- What a turn begins with: it takes in the answer, asks for it again, or goes on. -/
def opening (g : Graph) (env : Environment) (inbound : Option Inbound) (t : Turn) :
    Except Abort Step :=
  match t.state.status, t.state.waitingFor, inbound with
  | .yielded, _, _ => .ok (.next t.resume)
  | _, none, _ => .ok (.next t)
  | _, some _, none => (fun t => .done (.rest t)) <$> t.askAgain g env
  | _, some _, some payload => t.answer g env payload

end Turn

/-- A pass: the turn at the place where it is made, and what it leads to. -/
structure Pass where
  turn : Turn
  step : Step

/-- How many containers passes leave. -/
def hopsOf : List Pass → Nat
  | [] => 0
  | p :: rest => p.step.hops + hopsOf rest

/-- Passes that follow one another from a step on, until the session rests. -/
inductive Path (g : Graph) (env : Environment) : Step → List Pass → Turn → Prop
  | rest (t : Turn) : Path g env (.done (.rest t)) [] t
  | pass {step next : Step} {t last : Turn} {passes : List Pass} (ht : step.onward? = some t)
    (h : t.pass g env = .ok next) (hpath : Path g env next passes last) :
    Path g env step (⟨t, next⟩ :: passes) last

variable {g : Graph} {env : Environment} {t last : Turn} {step : Step} {passes : List Pass}

/-! ### Visits are made of passes -/

/-- A node that is executed in full moves the cursor to the next one, and the rest of where the turn
stands stays. -/
theorem Turn.course_execute (node : Node) :
    Ends (fun _ => True) (fun step => ∀ t', step = .next t' → t'.course = t.advance.course)
      (t.execute g env node) := by
  -- Scripts go on through `leaveScript`, which may redirect; all other nodes just advance.
  have hleave : ∀ (t' : Turn) (url : Option String), t'.course = t.course →
      ∀ t'', t'.leaveScript env url = .next t'' → t''.course = t.advance.course := by
    intro t' url ht' t'' h
    cases url with
    | none =>
      cases h
      rw [course_advance, course_advance, ht']
    | some url => cases h
  have hnext : ∀ t' : Turn, t'.course = t.course →
      ∀ t'', Step.next t'.advance = .next t'' → t''.course = t.advance.course := by
    rintro t' ht' t'' h
    cases h
    rw [course_advance, course_advance, ht']
  unfold execute
  cases node.kind with
  | textBubble content => exact hnext _ (by simp)
  | numberBubble content => exact hnext _ (by simp)
  | mediaBubble kind url alt => exact hnext _ (by simp)
  | input kind i => exact fun t' h => by cases h
  | buttons buttons => exact fun t' h => by cases h
  | condition groups =>
    refine Ends.look fun target => ?_
    cases target with
    | some target => exact fun t' h => by cases h
    | none =>
      refine Ends.look fun node => ?_
      cases node with
      | some node => exact hnext t rfl
      | none => exact fun t' h => by cases h
  | assignment a =>
    dsimp only [assign]
    split
    · refine Ends.look fun outcome => ?_
      cases outcome with
      | none => exact hnext t.ran rfl
      | some outcome => exact hleave _ _ (by simp)
    · exact hnext _ (by simp)
  | script s =>
    refine Ends.look fun outcome => ?_
    cases outcome with
    | none => exact hnext t.ran rfl
    | some outcome => exact hleave _ _ (by simp)

/-- The node at the cursor is that of the container. -/
theorem Turn.node?_of_container {c : Container} (h : g.container t.state.containerId = .ok c) :
    t.node? g = .ok c.nodes[t.state.nodeIndex]? := by
  unfold node? Graph.nodeAt
  rw [h]
  rfl

/-- A pass over a node executes it. -/
theorem Turn.pass_of_node {node : Node} (h : t.node? g = .ok (some node)) :
    t.pass g env = t.execute g env node := by
  unfold pass
  rw [h]
  rfl

/-- A pass behind the last node falls through to the next container, or closes. -/
theorem Turn.pass_of_none (h : t.node? g = .ok none) :
    t.pass g env = t.lift (g.fallThroughTarget t.state.containerId) >>= fun
      | some target => .ok (.done (.leave t target))
      | none => .ok (.done (.rest t.close)) := by
  unfold pass
  rw [h]
  rfl

/-- A visit goes over the nodes from the cursor on. -/
theorem Turn.visit_of_container {c : Container} (h : g.container t.state.containerId = .ok c) :
    t.visit g env = visitNodes g env (c.nodes.drop t.state.nodeIndex) t := by
  unfold visit
  rw [h]
  rfl

/-- A pass that goes on in the same container executes a node of it. -/
theorem Turn.exists_node_of_pass {t' : Turn} (h : t.pass g env = .ok (.next t')) :
    t'.course = t.advance.course ∧ ∃ c node, g.container t.state.containerId = .ok c ∧
      c.nodes[t.state.nodeIndex]? = some node ∧ t.execute g env node = .ok (.next t') := by
  cases hc : g.container t.state.containerId with
  | error e =>
    unfold pass node? Graph.nodeAt at h
    rw [hc] at h
    cases h
  | ok c =>
    cases hget : c.nodes[t.state.nodeIndex]? with
    | none =>
      -- Behind the last node a pass leaves the container or rests; it never goes on in it.
      rw [pass_of_none (by rw [node?_of_container hc, hget])] at h
      cases hlook : t.lift (g.fallThroughTarget t.state.containerId) with
      | error a =>
        rw [hlook] at h
        cases h
      | ok target =>
        rw [hlook] at h
        cases target <;> cases h
    | some node =>
      rw [pass_of_node (by rw [node?_of_container hc, hget])] at h
      exact ⟨(course_execute node).ok h t' rfl, c, node, rfl, hget, h⟩

/-- A pass that goes on in the same container moves the cursor to the next node. -/
theorem Turn.cursor_of_pass {t' : Turn} (h : t.pass g env = .ok (.next t')) :
    t'.state.containerId = t.state.containerId ∧ t'.state.nodeIndex = t.state.nodeIndex + 1 := by
  have hcourse := (exists_node_of_pass h).1
  exact ⟨congrArg Course.containerId hcourse, congrArg Course.nodeIndex hcourse⟩

/-- A visit makes a pass, and goes on with the next node unless the pass ends it. -/
theorem Turn.visit_eq (t : Turn) :
    t.visit g env = t.pass g env >>= fun
      | .next t => t.visit g env
      | .done v => .ok v := by
  cases hc : g.container t.state.containerId with
  | error e =>
    unfold visit pass node? Graph.nodeAt
    rw [hc]
    rfl
  | ok c =>
    rw [visit_of_container hc]
    cases hget : c.nodes[t.state.nodeIndex]? with
    | none =>
      have hnode : t.node? g = .ok none := by rw [node?_of_container hc, hget]
      rw [List.drop_eq_nil_iff.2 (List.getElem?_eq_none_iff.1 hget), visitNodes, pass_of_none hnode]
      cases t.lift (g.fallThroughTarget t.state.containerId) with
      | error a => rfl
      | ok target => cases target <;> rfl
    | some node =>
      have hnode : t.node? g = .ok (some node) := by rw [node?_of_container hc, hget]
      obtain ⟨hlt, hget⟩ := List.getElem?_eq_some_iff.1 hget
      rw [List.drop_eq_getElem_cons hlt, hget, visitNodes, pass_of_node hnode]
      cases hexecute : t.execute g env node with
      | error a => rfl
      | ok step =>
        cases step with
        | done v => rfl
        | next t' =>
          -- The cursor moves along with the nodes that are left, so the next visit has them.
          have hcourse := (course_execute node).ok hexecute t' rfl
          have hid : t'.state.containerId = t.state.containerId :=
            congrArg Course.containerId hcourse
          have hindex : t'.state.nodeIndex = t.state.nodeIndex + 1 :=
            congrArg Course.nodeIndex hcourse
          have hvisit : t'.visit g env =
              visitNodes g env (c.nodes.drop (t.state.nodeIndex + 1)) t' := by
            rw [visit_of_container (by rw [hid, hc]), hindex]
          exact hvisit.symm

/-! ### Walks are made of passes -/

/-- Goes on after a step with so many hops left. -/
def Step.followWith (g : Graph) (env : Environment) (left : Nat) : Step → Except Abort Turn
  | .next t => t.visit g env >>= (·.follow g env left)
  | .done v => v.follow g env left

/-- A step is followed with all the hops there are. -/
theorem Step.follow_eq_followWith (step : Step) :
    step.follow g env = step.followWith g env env.maxHops := by
  cases step <;> rfl

/-- A visit that has come to rest is followed to where it rests. -/
theorem Visit.follow_rest (t : Turn) (left : Nat) : (Visit.rest t).follow g env left = .ok t := by
  cases left <;> rfl

/-- Going on from a turn is a pass, and going on after it. -/
theorem Turn.visit_follow_eq (t : Turn) (left : Nat) :
    (t.visit g env >>= (·.follow g env left)) = t.pass g env >>= (·.followWith g env left) := by
  rw [visit_eq]
  cases t.pass g env with
  | error a => rfl
  | ok step => cases step <;> rfl

@[simp] theorem hopsOf_nil : hopsOf [] = 0 := rfl

@[simp] theorem hopsOf_cons (t : Turn) (step : Step) (passes : List Pass) :
    hopsOf (⟨t, step⟩ :: passes) = step.hops + hopsOf passes := rfl

@[simp] theorem hopsOf_append (front passes : List Pass) :
    hopsOf (front ++ passes) = hopsOf front + hopsOf passes := by
  induction front with
  | nil => exact (Nat.zero_add _).symm
  | cons p rest ih =>
    show p.step.hops + hopsOf (rest ++ passes) = p.step.hops + hopsOf rest + hopsOf passes
    rw [ih, Nat.add_assoc]

/-- A step whose path has no more hops than are left is followed to where the path ends. -/
theorem Path.followWith_eq (h : Path g env step passes last) {left : Nat}
    (hhops : step.hops + hopsOf passes ≤ left) : step.followWith g env left = .ok last := by
  induction h generalizing left with
  | rest t => exact Visit.follow_rest t left
  | @pass step next t last passes ht hpass hpath ih =>
    rw [hopsOf_cons] at hhops
    cases step with
    | next t' =>
      cases ht
      rw [Step.followWith, Turn.visit_follow_eq, hpass]
      exact ih (by omega)
    | done v =>
      cases v with
      | rest t' => cases ht
      | leave t' target =>
        cases ht
        -- Only this step takes a hop, and the path has counted it.
        rw [Step.hops] at hhops
        obtain ⟨left, rfl⟩ : ∃ n, left = n + 1 := ⟨left - 1, by omega⟩
        rw [Step.followWith, Visit.follow, Turn.visit_follow_eq, hpass]
        exact ih (by omega)

/-- A visit that succeeds ends with its first pass, or goes on from there. -/
theorem Turn.pass_of_visit {v : Visit} (h : t.visit g env = .ok v) :
    t.pass g env = .ok (.done v) ∨
      ∃ t', t.pass g env = .ok (.next t') ∧ t'.visit g env = .ok v := by
  -- The first pass ends the visit, or it leaves the rest of it.
  rw [visit_eq] at h
  cases hpass : t.pass g env with
  | error a =>
    rw [hpass] at h
    cases h
  | ok step =>
    rw [hpass] at h
    cases step with
    | next t' => exact .inr ⟨t', rfl, h⟩
    | done v' =>
      cases h
      exact .inl rfl

/-- The passes of a visit lead on to a path from where the visit ends. -/
theorem exists_path_of_visit {v : Visit} (left : Nat)
    (hleft : ∀ c, g.container t.state.containerId = .ok c →
      c.nodes.length ≤ t.state.nodeIndex + left)
    (h : t.visit g env = .ok v) (hpath : Path g env (.done v) passes last) :
    ∃ front, Path g env (.next t) (front ++ passes) last ∧ hopsOf front = (Step.done v).hops := by
  -- The induction is on the number of nodes that are left behind the cursor at most.
  induction left generalizing t with
  | zero =>
    rcases Turn.pass_of_visit h with hpass | ⟨t', hpass, -⟩
    · exact ⟨[⟨t, .done v⟩], .pass rfl hpass hpath, by simp⟩
    · -- The cursor would have to be at a node, but none is left.
      obtain ⟨-, c, node, hc, hget, -⟩ := Turn.exists_node_of_pass hpass
      have hlt := (List.getElem?_eq_some_iff.1 hget).1
      have hle := hleft c hc
      omega
  | succ left ih =>
    rcases Turn.pass_of_visit h with hpass | ⟨t', hpass, h'⟩
    · exact ⟨[⟨t, .done v⟩], .pass rfl hpass hpath, by simp⟩
    · obtain ⟨hid, hindex⟩ := Turn.cursor_of_pass hpass
      have hleft' : ∀ c, g.container t'.state.containerId = .ok c →
          c.nodes.length ≤ t'.state.nodeIndex + left := by
        intro c hc
        rw [hid] at hc
        have hle := hleft c hc
        omega
      obtain ⟨front, hfront, hhops⟩ := ih hleft' h'
      refine ⟨⟨t, .next t'⟩ :: front, .pass rfl hpass hfront, ?_⟩
      rw [hopsOf_cons, hhops]
      exact Nat.zero_add _

/-- A visit that is followed on leads to a path when what follows it does. -/
theorem exists_path_of_next {v : Visit} (h : t.visit g env = .ok v)
    (hpath : Path g env (.done v) passes last) :
    ∃ passes', Path g env (.next t) passes' last ∧
      hopsOf passes' = (Step.done v).hops + hopsOf passes := by
  -- The container is there, as the visit succeeds.
  cases hc : g.container t.state.containerId with
  | error e =>
    unfold Turn.visit at h
    rw [hc] at h
    cases h
  | ok c =>
    obtain ⟨front, hfront, hhops⟩ := exists_path_of_visit (t := t) c.nodes.length
      (fun c' hc' => by rw [hc] at hc'; cases hc'; omega) h hpath
    exact ⟨front ++ passes, hfront, by rw [hopsOf_append, hhops]⟩

/-- What follows a visit has a path. -/
theorem exists_path_of_follow {left : Nat} {v : Visit} (h : v.follow g env left = .ok last) :
    ∃ passes, Path g env (.done v) passes last ∧ (Step.done v).hops + hopsOf passes ≤ left := by
  induction left generalizing v with
  | zero =>
    cases v with
    | rest t =>
      cases h
      exact ⟨[], .rest last, Nat.le_refl 0⟩
    | leave t target => cases h
  | succ left ih =>
    cases v with
    | rest t =>
      cases h
      exact ⟨[], .rest last, Nat.zero_le _⟩
    | leave t target =>
      rw [Visit.follow] at h
      cases hvisit : (t.enter target).visit g env with
      | error a =>
        rw [hvisit] at h
        cases h
      | ok v =>
        rw [hvisit] at h
        obtain ⟨passes, hpath, hhops⟩ := ih h
        obtain ⟨passes', hpath', hhops'⟩ := exists_path_of_next hvisit hpath
        -- The path of the visit begins in `target`; leaving for it begins the same way.
        cases hpath' with
        | pass ht hpass hrest =>
          cases ht
          refine ⟨_, .pass rfl hpass hrest, ?_⟩
          show 1 + _ ≤ left + 1
          omega

/-- A step is followed to where the session rests exactly when a path leads there, with no more hops
than are allowed. -/
theorem Step.follow_eq_ok_iff :
    step.follow g env = .ok last ↔
      ∃ passes, Path g env step passes last ∧ step.hops + hopsOf passes ≤ env.maxHops := by
  -- From a turn to a path: the passes of the visit stand before those of the hops.
  constructor
  · intro h
    cases step with
    | done v => exact exists_path_of_follow h
    | next t =>
      have h : (t.visit g env >>= (·.follow g env env.maxHops)) = .ok last := h
      cases hvisit : t.visit g env with
      | error a =>
        rw [hvisit] at h
        cases h
      | ok v =>
        rw [hvisit] at h
        obtain ⟨passes, hpath, hhops⟩ := exists_path_of_follow h
        obtain ⟨passes', hpath', hhops'⟩ := exists_path_of_next hvisit hpath
        refine ⟨passes', hpath', ?_⟩
        show 0 + _ ≤ _
        omega
  -- From a path to a turn: the path tells what each pass does.
  · rintro ⟨passes, hpath, hhops⟩
    rw [follow_eq_followWith]
    exact hpath.followWith_eq hhops

/-! ### Turns -/

/-- What a turn does with a session that has not ended is its opening, and what follows it. -/
theorem Turn.react_eq (inbound : Option Inbound) :
    t.react g env inbound = t.opening g env inbound >>= (·.follow g env) := by
  unfold react opening
  -- Only a turn that waits and is active or ended asks again, and then nothing follows.
  generalize t.state.status = status, t.state.waitingFor = waitingFor
  cases waitingFor with
  | none => cases status <;> rfl
  | some w =>
    cases inbound with
    | some payload => cases status <;> rfl
    | none =>
      have hask : t.askAgain g env =
          ((fun t => Step.done (.rest t)) <$> t.askAgain g env) >>= (·.follow g env) := by
        cases t.askAgain g env with
        | error a => rfl
        | ok t => exact (Visit.follow_rest t env.maxHops).symm
      cases status with
      | yielded => rfl
      | active => exact hask
      | ended => exact hask

/-- The turn at the beginning of its path: what the user sent is written down. -/
def Turn.received (env : Environment) (drawn : Nat) (s : State) (inbound : Option Inbound) : Turn :=
  receive env (inbound.filter (!·.isEmpty)) { state := s, drawn }

/-- A turn of a session that has not ended is its opening, and what follows it; then it is over. -/
theorem Turn.run_eq_opening {drawn : Nat} {s : State} {inbound : Option Inbound}
    (hs : s.status ≠ .ended) :
    run g env drawn s inbound = finish env <$>
      ((received env drawn s inbound).opening g env (inbound.filter (!·.isEmpty)) >>=
        (·.follow g env)) := by
  rw [← react_eq]
  unfold run received
  cases hstatus : s.status with
  | ended => exact absurd hstatus hs
  | active => rfl
  | yielded => rfl

/-- A turn of a session that has not ended succeeds exactly when there is a path from its opening to
where it rests, with no more hops than are allowed; there it is stamped. -/
theorem Turn.run_eq_ok_iff {drawn : Nat} {s : State} {inbound : Option Inbound}
    (hs : s.status ≠ .ended) :
    run g env drawn s inbound = .ok t ↔
      ∃ opening passes last,
        (received env drawn s inbound).opening g env (inbound.filter (!·.isEmpty)) = .ok opening ∧
        Path g env opening passes last ∧ opening.hops + hopsOf passes ≤ env.maxHops ∧
        t = last.finish env := by
  rw [run_eq_opening hs]
  cases (received env drawn s inbound).opening g env (inbound.filter (!·.isEmpty)) with
  | error a => simp [bind, Except.bind, Functor.map, Except.map]
  -- The opening succeeds, so the two sides differ in how what follows it is told.
  | ok opening =>
    constructor
    · intro h
      cases hfollow : opening.follow g env with
      | error a => simp [bind, Except.bind, Functor.map, Except.map, hfollow] at h
      | ok last =>
        obtain ⟨passes, hpath, hhops⟩ := Step.follow_eq_ok_iff.1 hfollow
        refine ⟨opening, passes, last, rfl, hpath, hhops, ?_⟩
        simpa [bind, Except.bind, Functor.map, Except.map, hfollow] using h.symm
    · rintro ⟨opening', passes, last, hopening, hpath, hhops, rfl⟩
      cases hopening
      have hfollow := Step.follow_eq_ok_iff.2 ⟨passes, hpath, hhops⟩
      simp [bind, Except.bind, Functor.map, Except.map, hfollow]

/-! ### What is kept all along -/

/-- A step meets one condition where the turn goes on, and another one where it rests. -/
structure Step.Meets (under : Turn → Prop) (atRest : Turn → Prop) (step : Step) : Prop where
  under : ∀ t, step.onward? = some t → under t
  atRest : ∀ t, step = .done (.rest t) → atRest t

namespace Step.Meets

variable {under atRest : Turn → Prop}

/-- A turn that goes on is under way. -/
theorem next (h : under t) : (Step.next t).Meets under atRest :=
  ⟨by rintro t' ⟨⟩; exact h, by rintro t' ⟨⟩⟩

/-- A turn that hops is under way in its target. -/
theorem leave {target : Container} (h : under (t.enter target)) :
    (Step.done (.leave t target)).Meets under atRest :=
  ⟨by rintro t' ⟨⟩; exact h, by rintro t' ⟨⟩⟩

/-- A turn that rests is at rest. -/
theorem rest (h : atRest t) : (Step.done (.rest t)).Meets under atRest :=
  ⟨by rintro t' ⟨⟩, by rintro t' ⟨⟩; exact h⟩

end Step.Meets

/-- What each pass keeps as long as the turn goes on holds at every pass of a path; and what a pass
may rest with holds where the path ends. -/
theorem Path.keeps {under atRest : Turn → Prop} (hpath : Path g env step passes last)
    (hpass : ∀ t step, under t → t.pass g env = .ok step → step.Meets under atRest)
    (h : step.Meets under atRest) :
    atRest last ∧ ∀ p ∈ passes, under p.turn ∧ p.turn.pass g env = .ok p.step := by
  induction hpath with
  | rest t => exact ⟨h.atRest t rfl, by simp⟩
  | @pass step next t last passes ht hstep hpath ih =>
    have hunder := h.under t ht
    obtain ⟨hlast, hpasses⟩ := ih (hpass t next hunder hstep)
    refine ⟨hlast, fun p hp => ?_⟩
    rcases List.mem_cons.1 hp with rfl | hp
    · exact ⟨hunder, hstep⟩
    · exact hpasses p hp

end Dialogue.Session
