import Dialogue.Proofs.Script.Overlay
import Dialogue.Proofs.Script.Simulation

namespace Dialogue.Script

open Effects

/-!
# Watched runs

A run that is watched does what the run does, and keeps what it did step by step, also when it
fails. So what holds of all moments of a watched run holds all along the run.

* `Act`, `Moment`: what a script does, and the machine behind it.
* `Watched`: computations that are watched.
* `Program.watch`, `Program.watch_outcome`: watching does not change the outcome.
* `Move`, `Course`: what an act does to the machine, and the machines that are reached by acts.
* `Program.watch_course`: every run, also one that fails, follows a course.
* `Watched.eval_comes_up`, `Watched.evalAll_come_up`: no value of an expression is missed.
-/

/-! ### Computations of a run -/

/-- Parts of a script run one after the other. -/
theorem Eval.bind_apply {α β : Type} (x : Eval α) (f : α → Eval β) (c : Context) (m : Machine) :
    (x >>= f) c m =
      match x c m with
      | .ok (a, m') => f a c m'
      | .error e => .error e := by
  rcases h : x c m with e | ⟨a, m'⟩ <;> simp [bind, ReaderT.bind, StateT.bind, Except.bind, h]

/-- A step counts itself and does nothing else. -/
theorem Eval.eq_of_tick {c : Context} {m m' : Machine} (h : tick c m = .ok ((), m')) :
    m' = { m with steps := m.steps + 1 } := by
  unfold tick at h
  simp only at h
  split at h
  · cases h
  · split at h <;> cases h
    rfl

/-- Storing a variable writes the overlay. -/
theorem Eval.write_of_store {c : Context} {m m' : Machine} {name text : String}
    (h : store name text c m = .ok ((), m')) :
    ∃ o, m.overlay.write c.limits name text = .ok o ∧ m' = { m with overlay := o } := by
  unfold store at h
  rcases ho : m.overlay.write c.limits name text with e | o
  all_goals rw [ho] at h
  · cases h
  · cases h
    exact ⟨o, rfl, rfl⟩

/-! ### Moments -/

/-- What a script does to what surrounds it. -/
inductive Act
  | step
  /-- A value has come up. -/
  | came (value : Value)
  | read (name : String) (found : Option String)
  | wrote (name text : String)
  | redirected (url : String)
  | completed (value : Value)
  /-- What is known about the page was looked at. -/
  | looked
  | rescoped

/-- Something that a script did, and the machine behind it. -/
structure Moment where
  act : Act
  machine : Machine

/-- A computation that is watched. The moments outlast a failure. -/
abbrev Watched (α : Type) :=
  ReaderT Context (StateT Machine (ExceptT Failure (StateM (List Moment)))) α

namespace Watched

variable {α β : Type}

/-- A computation of which nothing is kept. -/
def quietly (x : Eval α) : Watched α := fun c m log => (x c m, log)

/-- A computation that is kept as a moment, if it succeeds. -/
def acting (x : Eval α) (act : α → Act) : Watched α := fun c m log =>
  match x c m with
  | .ok (a, m') => (.ok (a, m'), log ++ [⟨act a, m'⟩])
  | .error e => (.error e, log)

instance : Effects Watched where
  fail f := quietly (fail f)
  tick := acting tick fun _ => .step
  stepsLeft := quietly stepsLeft
  note v := acting (note v) fun _ => .came v
  stored? name := acting (stored? name) (.read name)
  store name text := acting (store name text) fun _ => .wrote name text
  redirectTo url := acting (redirectTo url) fun _ => .redirected url
  complete v := acting (complete v) fun _ => .completed v
  mode := quietly mode
  client := acting client fun _ => .looked
  scopes := quietly scopes
  setScopes s := acting (setScopes s) fun _ => .rescoped

/-- Watched parts run one after the other, and the log goes on. -/
theorem bind_apply (x : Watched α) (f : α → Watched β) (c : Context) (m : Machine)
    (log : List Moment) :
    (x >>= f) c m log =
      match x c m log with
      | (.ok (a, m'), log') => f a c m' log'
      | (.error e, log') => (.error e, log') := by
  change ((x c m >>= fun p => f p.1 c p.2 : ExceptT Failure (StateM (List Moment)) _) :
    List Moment → _) log = _
  rcases h : x c m log with ⟨r, log'⟩
  cases r <;> simp [bind, ExceptT.bind, ExceptT.mk, ExceptT.bindCont, StateT.bind, h]
  all_goals rfl

end Watched

/-! ### Watching changes nothing -/

namespace Watched

variable {α : Type}

/-- The watched computation has the result of the computation, which satisfies `post`. -/
def Erases (post : α → Prop) (x : Eval α) (y : Watched α) : Prop := ∀ c m log,
  (y c m log).1 = x c m ∧ ∀ a m', x c m = .ok (a, m') → post a

/-- What is watched quietly ends as it does unwatched. -/
theorem erases_quietly {post : α → Prop} (h : ∀ a, post a) (x : Eval α) :
    Erases post x (quietly x) := fun _ _ _ => ⟨rfl, fun a _ _ => h a⟩

/-- What is watched as an act ends as it does unwatched. -/
theorem erases_acting (x : Eval α) (act : α → Act) :
    Erases (fun _ => True) x (acting x act) := fun c m log => by
  refine ⟨?_, fun _ _ _ => trivial⟩
  unfold acting
  split <;> simp_all

/-- Watching a computation does not change its result. -/
def erasing : Correspondence Eval Watched where
  Rel := Erases
  pure h := fun _ _ _ => ⟨rfl, fun _ _ ha => by
    cases ha
    exact h⟩
  bind {α β _ post' x y f g} hx hf := fun c m log => by
    obtain ⟨hy, hpost⟩ := hx c m log
    rw [bind_apply, Eval.bind_apply]
    generalize y c m log = after at hy
    obtain ⟨r, log'⟩ := after
    obtain rfl : r = x c m := hy
    rcases hxm : x c m with e | ⟨a, m'⟩
    · exact ⟨rfl, fun _ _ h => by cases h⟩
    · exact hf a (hpost a m' hxm) c m' log'
  fail e := fun _ _ _ => ⟨rfl, fun _ _ h => by cases h⟩
  tick := erases_acting _ _

/-- Every effect is watched in this way. -/
def erasure : Simulation Eval Watched True where
  toCorrespondence := erasing
  loop := erasing.loop (erases_quietly (fun _ => trivial) _)
  note _ := erases_acting _ _
  stored? _ := erases_acting _ _
  store _ _ := erases_acting _ _
  redirectTo _ := erases_acting _ _
  complete _ := erases_acting _ _
  mode := erases_quietly (fun _ _ => trivial) _
  client _ := erases_acting _ _
  scopes := erases_quietly (fun _ => .of_pages trivial) _
  setScopes _ := erases_acting _ _

end Watched

/-- What comes of a run that is watched, and its moments. -/
def Program.watch (program : Program) (context : Context) :
    Except Failure Outcome × List Moment :=
  match (Statement.runAll program : Watched Signal) context {} [] with
  | (.ok (signal, machine), log) => (.ok (machine.outcome signal), log)
  | (.error e, log) => (.error e, log)

/-- Watching a program changes nothing about its outcome. -/
theorem Program.watch_outcome (program : Program) (context : Context) :
    (program.watch context).1 = program.run context := by
  have h := (Watched.erasure.runAll program context {} []).1
  unfold Program.watch Program.run
  rw [← h]
  rcases (Statement.runAll program : Watched Signal) context {} [] with ⟨_ | ⟨signal, m⟩, log⟩ <;>
    rfl

/-! ### The course of a run -/

/-- What an act does to a machine. Page objects take part only if `pages`. -/
inductive Move (pages : Prop) (c : Context) (m : Machine) : Act → Machine → Prop
  | step : Move pages c m .step { m with steps := m.steps + 1 }
  | came {v : Value} (h : v.Fits pages) : Move pages c m (.came v) m
  | read (name : String) : Move pages c m (.read name (m.overlay.through c.vars name)) m
  | wrote {name text : String} {o : Overlay} (h : m.overlay.write c.limits name text = .ok o) :
    Move pages c m (.wrote name text) { m with overlay := o }
  | redirected (url : String) :
    Move pages c m (.redirected url) { m with redirectUrl := some url }
  | completed {v : Value} (h : v.Fits pages) :
    Move pages c m (.completed v) { m with completion := v }
  | looked (h : pages) : Move pages c m .looked m
  | rescoped {s : Scopes} (h : s.Fits pages) : Move pages c m .rescoped { m with scopes := s }

/-- The machine that is reached by moves, and the moments of the way there. -/
inductive Course (pages : Prop) (c : Context) : Machine → List Moment → Prop
  | start : Course pages c {} []
  | move {m m' : Machine} {log : List Moment} {act : Act} :
    Course pages c m log → Move pages c m act m' → Course pages c m' (log ++ [⟨act, m'⟩])

/-- Contexts that cannot be told apart by scripts that see pages only if `pages`. -/
structure Context.Alike (pages : Prop) (c c' : Context) : Prop where
  eq : c' = { c with client := c'.client }
  client : pages → c'.client = c.client
  mode : c.mode = .client → pages

/-- Page objects get into the names and the completion value only by moves that allow it. -/
theorem Course.fits {pages : Prop} {c : Context} {m : Machine} {log : List Moment}
    (h : Course pages c m log) : m.scopes.Fits pages ∧ m.completion.Fits pages := by
  induction h with
  | start => exact ⟨.init, .of_plain rfl⟩
  | move _ hm ih =>
    cases hm with
    | completed hv => exact ⟨ih.1, hv⟩
    | rescoped hs => exact ⟨hs, ih.2⟩
    | _ => exact ih

namespace Watched

variable {pages : Prop} {α : Type}

/-- In contexts that are alike both do the same, keep the moments so far, and go on by moves. A
failure comes after some moves as well. -/
def GoesOn (pages : Prop) (post : α → Prop) (x y : Watched α) : Prop :=
  ∀ c c' m log, c.Alike pages c' → Course pages c m log →
    y c' m log = x c m log ∧ log <+: (x c m log).2 ∧
    match x c m log with
    | (.ok (a, m'), log') => post a ∧ Course pages c m' log'
    | (.error _, log') => ∃ m', Course pages c m' log'

/-- A computation of which nothing is kept must leave the machine as it is. -/
theorem goesOn_quietly {post : α → Prop} {x : Eval α}
    (h : ∀ c c' m log, c.Alike pages c' → Course pages c m log →
      x c' m = x c m ∧ ∀ a m', x c m = .ok (a, m') → post a ∧ m' = m) :
    GoesOn pages post (quietly x) (quietly x) := by
  intro c c' m log hc hm
  obtain ⟨he, hx⟩ := h c c' m log hc hm
  unfold quietly
  rw [he]
  refine ⟨rfl, List.prefix_rfl, ?_⟩
  -- Where it succeeds the machine stays; where it fails the log is as before.
  rcases hxm : x c m with e | ⟨a, m'⟩
  · exact ⟨m, hm⟩
  · obtain ⟨ha, rfl⟩ := hx a m' hxm
    exact ⟨ha, hm⟩

/-- A computation that is kept as a moment must do what the moment says. -/
theorem goesOn_acting {x : Eval α} {act : α → Act}
    (h : ∀ c c' m, c.Alike pages c' →
      x c' m = x c m ∧ ∀ a m', x c m = .ok (a, m') → Move pages c m (act a) m') :
    GoesOn pages (fun _ => True) (acting x act) (acting x act) := by
  intro c c' m log hc hm
  obtain ⟨he, hx⟩ := h c c' m hc
  unfold acting
  rw [he]
  refine ⟨rfl, ?_⟩
  -- A failure logs nothing; a success logs its act.
  rcases hxm : x c m with e | ⟨a, m'⟩
  · exact ⟨List.prefix_rfl, m, hm⟩
  · exact ⟨List.prefix_append _ _, trivial, hm.move (hx a m' hxm)⟩

/-- An act that always succeeds and does not depend on the context. -/
theorem goesOn_acting_plain {x : Eval α} {act : α → Act} {a : α} {after : Machine → Machine}
    (hx : ∀ c m, x c m = .ok (a, after m))
    (h : ∀ c m, Move pages c m (act a) (after m)) :
    GoesOn pages (fun _ => True) (acting x act) (acting x act) :=
  goesOn_acting fun c c' m _ => ⟨by rw [hx, hx], fun a' m' h' => by
    rw [hx] at h'
    cases h'
    exact h c m⟩

/-- To go on is kept in sequence. -/
def going (pages : Prop) : Correspondence Watched Watched where
  Rel := GoesOn pages
  pure h := fun _ _ _ _ _ hm => ⟨rfl, List.prefix_rfl, h, hm⟩
  bind {_ _ _ _ x _ _ _} hx hf := fun c c' m log hc hm => by
    obtain ⟨he, hl, hk⟩ := hx c c' m log hc hm
    simp only [bind_apply, he]
    generalize x c m log = after at hl hk ⊢
    obtain ⟨_ | ⟨a, m'⟩, log'⟩ := after
    · exact ⟨rfl, hl, hk⟩
    · obtain ⟨he', hl', hk'⟩ := hf a hk.1 c c' m' log' hc hk.2
      exact ⟨he', hl.trans hl', hk'⟩
  fail _ := goesOn_quietly fun _ _ _ _ _ _ => ⟨rfl, fun _ _ h => by cases h⟩
  tick := goesOn_acting fun c c' m hc => by
    rw [hc.eq]
    refine ⟨rfl, fun _ m' h => ?_⟩
    rw [Eval.eq_of_tick h]
    exact .step

/-- The steps that are left are the same for both. -/
theorem goesOn_stepsLeft : GoesOn pages (fun _ => True) stepsLeft stepsLeft :=
  goesOn_quietly (x := stepsLeft) fun c c' m _ hc _ => by
    rw [hc.eq]
    refine ⟨rfl, fun _ _ h => ?_⟩
    cases h
    exact ⟨trivial, rfl⟩

/-- So is the mode. -/
theorem goesOn_mode : GoesOn pages (fun mode => mode = .client → pages) mode mode :=
  goesOn_quietly (x := mode) fun c c' m _ hc _ => by
    rw [hc.eq]
    refine ⟨rfl, fun _ _ h => ?_⟩
    cases h
    exact ⟨hc.mode, rfl⟩

/-- So are the scopes. -/
theorem goesOn_scopes : GoesOn pages (Scopes.Fits pages) scopes scopes :=
  goesOn_quietly (x := scopes) fun _ _ _ _ _ hm => by
    refine ⟨rfl, fun _ _ h => ?_⟩
    cases h
    exact ⟨hm.fits.1, rfl⟩

/-- Every effect goes on by the move that it is watched as. -/
def progress (pages : Prop) : Simulation Watched Watched pages where
  toCorrespondence := going pages
  loop := (going pages).loop goesOn_stepsLeft
  note h := goesOn_acting_plain (fun _ _ => rfl) fun _ _ => .came h
  stored? name := goesOn_acting fun c c' m hc => by
    rw [hc.eq]
    refine ⟨rfl, fun _ _ h => ?_⟩
    cases h
    exact .read name
  store name text := goesOn_acting fun c c' m hc => by
    rw [hc.eq]
    refine ⟨rfl, fun _ m' h => ?_⟩
    obtain ⟨o, ho, rfl⟩ := Eval.write_of_store h
    exact .wrote ho
  redirectTo url := goesOn_acting_plain (fun _ _ => rfl) fun _ _ => .redirected url
  complete h := goesOn_acting_plain (fun _ _ => rfl) fun _ _ => .completed h
  mode := goesOn_mode
  client h := goesOn_acting fun c c' m hc => by
    rw [hc.eq, hc.client h]
    refine ⟨rfl, fun _ _ h' => ?_⟩
    cases h'
    exact .looked h
  scopes := goesOn_scopes
  setScopes h := goesOn_acting_plain (fun _ _ => rfl) fun _ _ => .rescoped h

/-! ### All values come up -/

/-- A value that is noted is in the log. -/
theorem noting_comes_up {x : Watched Value} {c : Context} {m m' : Machine}
    {log log' : List Moment} {v : Value} (h : noting x c m log = (.ok (v, m'), log')) :
    ⟨.came v, m'⟩ ∈ log' := by
  unfold noting at h
  rw [bind_apply] at h
  split at h
  · cases h
    exact List.mem_append_right _ (List.mem_singleton_self _)
  · cases h

/-- The value of an expression has come up when it is evaluated. -/
theorem eval_comes_up (e : Expr) {c : Context} {m m' : Machine} {log log' : List Moment}
    {v : Value} (h : (e.eval : Watched Value) c m log = (.ok (v, m'), log')) :
    ⟨.came v, m'⟩ ∈ log' := by
  obtain ⟨x, hx⟩ : ∃ x : Watched Value, e.eval = evaluating x := by
    unfold Expr.eval
    split <;> exact ⟨_, rfl⟩
  rw [hx, evaluating, bind_apply] at h
  split at h
  · exact noting_comes_up h
  · cases h

/-- All arguments of a call have come up when it is made. -/
theorem evalAll_come_up (es : List Expr) {c : Context} {m m' : Machine} {log log' : List Moment}
    {vs : List Value} (hm : Course True c m log)
    (h : (Expr.evalAll es : Watched (List Value)) c m log = (.ok (vs, m'), log')) :
    ∀ v ∈ vs, ∃ moment ∈ log', moment.act = .came v := by
  have hc : c.Alike True c := ⟨rfl, fun _ => rfl, fun _ => trivial⟩
  induction es generalizing m log vs with
  | nil =>
    cases h
    exact List.forall_mem_nil _
  | cons e rest ih =>
    -- the value of the first argument stays among the moments while the others are evaluated
    rw [Expr.evalAll, bind_apply] at h
    obtain ⟨-, -, hgo⟩ := (progress True).eval e c c m log hc hm
    rcases he : (e.eval : Watched Value) c m log with ⟨_ | ⟨v, m₁⟩, log₁⟩
    all_goals rw [he] at h hgo
    · cases h
    · dsimp only at h
      rw [bind_apply] at h
      obtain ⟨-, hl, -⟩ := ((progress True).eval_and_evalAll.2 rest) c c m₁ log₁ hc hgo.2
      rcases hr : (Expr.evalAll rest : Watched (List Value)) c m₁ log₁ with
        ⟨_ | ⟨vs', m₂⟩, log₂⟩
      all_goals rw [hr] at h hl
      · cases h
      · cases h
        exact List.forall_mem_cons.2 ⟨⟨_, hl.subset (eval_comes_up e he), rfl⟩, ih hgo.2 hr⟩

end Watched

/-- In contexts that are alike, watching shows the same. -/
theorem Program.watch_alike {pages : Prop} {c c' : Context} (h : c.Alike pages c')
    (program : Program) : program.watch c' = program.watch c := by
  unfold watch
  rw [((Watched.progress pages).runAll program c c' {} [] h .start).1]

/-- A watched run goes on by moves up to its end. -/
theorem Program.watch_course {pages : Prop} {c : Context} (h : c.mode = .client → pages)
    (program : Program) :
    ∃ m, Course pages c m (program.watch c).2 ∧
      ∀ outcome, (program.watch c).1 = .ok outcome → ∃ signal, outcome = m.outcome signal := by
  have hc : c.Alike pages c := ⟨rfl, fun _ => rfl, h⟩
  -- The log is a course whether the run succeeds or fails.
  have hrun := ((Watched.progress pages).runAll program c c {} [] hc .start).2.2
  unfold watch
  split at hrun
  · rename_i signal m log hw
    rw [hw]
    refine ⟨m, hrun.2, fun outcome ho => ?_⟩
    cases ho
    exact ⟨signal, rfl⟩
  · rename_i e log hw
    rw [hw]
    obtain ⟨m, hm⟩ := hrun
    exact ⟨m, hm, fun outcome ho => by cases ho⟩

end Dialogue.Script
