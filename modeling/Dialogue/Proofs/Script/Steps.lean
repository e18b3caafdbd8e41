import Dialogue.Proofs.Script.Budget

namespace Dialogue.Script

open Effects

/-!
# Runs end within their steps

A loop of a script may turn for ever as far as the syntax goes. What ends it is that every
statement, every expression and every turn of a loop takes a step, so that fewer steps are left each
time it turns. The interpreter gives a loop as many turns as there are steps left; this number shows
nowhere: the loop is the one computation that does a turn and then goes on as itself.

* `Spends`: a computation takes a step before anything else, and goes on by taking steps.
* `loop`, `loopTurn`, `unroll`: a loop, one turn of it, and a turn with what comes after it.
* `loop_eq_unroll`, `eq_loop_of_unroll`: a loop is the only solution of its equation.
* `stepsTaken`: the steps among the moments of a run.
* `runs_end_within_their_steps`: no run takes more steps than it may, and one that needs more fails.
-/

/-! ### Steps go up -/

/-- No step is taken back, and none is taken that may not be. -/
structure Machine.Onward (c : Context) (m m' : Machine) : Prop where
  le : m.steps ≤ m'.steps
  within : m.steps ≤ c.limits.maxSteps → m'.steps ≤ c.limits.maxSteps

/-- Doing nothing spends nothing. -/
theorem Machine.Onward.refl (c : Context) (m : Machine) : m.Onward c m := ⟨Nat.le_refl _, id⟩

/-- What one part spends comes on top of the part before. -/
theorem Machine.Onward.trans {c : Context} {m m' m'' : Machine} (h : m.Onward c m')
    (h' : m'.Onward c m'') : m.Onward c m'' :=
  ⟨Nat.le_trans h.le h'.le, fun hm => h'.within (h.within hm)⟩

namespace Eval

variable {α : Type} {c : Context} {m m' : Machine}

/-- The last step that may be taken is the one of the budget. -/
theorem tick_exhausted (h : c.limits.maxSteps ≤ m.steps) : tick c m = .error .stepLimit :=
  if_pos (Nat.lt_succ_of_le h)

/-- A step that is taken was left. -/
theorem lt_of_tick {u : Unit} (h : tick c m = .ok (u, m')) : m.steps < c.limits.maxSteps := by
  by_contra hnot
  rw [tick_exhausted (Nat.not_lt.1 hnot)] at h
  cases h

/-- A step goes onward. -/
theorem onward_of_tick {u : Unit} (h : tick c m = .ok (u, m')) : m.Onward c m' := by
  have hlt := lt_of_tick h
  have hm' := eq_of_tick h
  subst hm'
  exact ⟨Nat.le_succ _, fun _ => hlt⟩

/-- A computation that succeeds has taken its steps one after the other. -/
def GoesOnward (post : α → Prop) (x : Eval α) : Prop :=
  ∀ c m a m', x c m = .ok (a, m') → post a ∧ m.Onward c m'

/-- A computation that takes no step. -/
theorem goesOnward_of_steps {post : α → Prop} {x : Eval α} (hpost : ∀ a, post a)
    (h : ∀ c m a m', x c m = .ok (a, m') → m'.steps = m.steps) : GoesOnward post x := by
  intro c m a m' hx
  have hsteps := h c m a m' hx
  exact ⟨hpost a, by omega, fun hm => by omega⟩

/-- One part after another goes onward if both do. -/
theorem goesOnward_bind {β : Type} {post : α → Prop} {post' : β → Prop} {x : Eval α}
    {f : α → Eval β} (hx : GoesOnward post x) (hf : ∀ a, post a → GoesOnward post' (f a)) :
    GoesOnward post' (x >>= f) := by
  intro c m b m₂ hb
  rw [bind_apply] at hb
  rcases hxm : x c m with e | ⟨a, m₁⟩
  all_goals rw [hxm] at hb
  · cases hb
  · obtain ⟨ha, hfirst⟩ := hx c m a m₁ hxm
    obtain ⟨hb, hsecond⟩ := hf a ha c m₁ b m₂ hb
    exact ⟨hb, hfirst.trans hsecond⟩

/-- To go onward is kept in sequence. -/
def onward : Correspondence Eval Eval where
  Rel post x _ := GoesOnward post x
  pure h := by
    intro c m a m' hx
    cases hx
    exact ⟨h, .refl c m⟩
  bind := goesOnward_bind
  fail e := fun _ _ _ _ hx => by cases hx
  tick := fun _ _ _ _ hx => ⟨trivial, onward_of_tick hx⟩

/-- Every effect goes onward. -/
def going : Simulation Eval Eval True where
  toCorrespondence := onward
  loop := onward.loop <| goesOnward_of_steps (fun _ => trivial) fun _ _ _ _ hx => by cases hx; rfl
  note _ := goesOnward_of_steps (fun _ => trivial) fun _ _ _ _ hx => by cases hx; rfl
  stored? _ := goesOnward_of_steps (fun _ => trivial) fun _ _ _ _ hx => by cases hx; rfl
  store _ _ := goesOnward_of_steps (fun _ => trivial) fun _ _ _ _ hx => by
    obtain ⟨o, -, rfl⟩ := write_of_store hx
    rfl
  redirectTo _ := goesOnward_of_steps (fun _ => trivial) fun _ _ _ _ hx => by cases hx; rfl
  complete _ := goesOnward_of_steps (fun _ => trivial) fun _ _ _ _ hx => by cases hx; rfl
  mode := goesOnward_of_steps (fun _ _ => trivial) fun _ _ _ _ hx => by cases hx; rfl
  client _ := goesOnward_of_steps (fun _ => trivial) fun _ _ _ _ hx => by cases hx; rfl
  scopes := goesOnward_of_steps (fun _ => .of_pages trivial) fun _ _ _ _ hx => by cases hx; rfl
  setScopes _ := goesOnward_of_steps (fun _ => trivial) fun _ _ _ _ hx => by cases hx; rfl

end Eval

/-! ### What takes a step -/

/-- A computation that takes a step before anything else. So it fails when none is left, and when it
succeeds there are fewer left than before. -/
structure Spends {α : Type} (x : Eval α) : Prop where
  begins : ∃ rest : Eval α, x = do tick; rest
  lt {c : Context} {m m' : Machine} {a : α} : x c m = .ok (a, m') → m.steps < m'.steps
  within {c : Context} {m m' : Machine} {a : α} :
    x c m = .ok (a, m') → m'.steps ≤ c.limits.maxSteps
  exhausted {c : Context} {m : Machine} :
    c.limits.maxSteps ≤ m.steps → x c m = .error .stepLimit

/-- What goes onward after a step spends steps. -/
theorem Spends.of_rest {α : Type} {post : α → Prop} {rest : Eval α}
    (h : Eval.GoesOnward post rest) : Spends (do tick; rest) := by
  -- The step comes first, and everything behind it only adds to it.
  have hsplit : ∀ {c : Context} {m m' : Machine} {a : α},
      (do tick; rest : Eval α) c m = .ok (a, m') →
        m.steps < c.limits.maxSteps ∧ Machine.Onward c { m with steps := m.steps + 1 } m' := by
    intro c m m' a hx
    rw [Eval.bind_apply] at hx
    rcases htick : (tick : Eval Unit) c m with e | ⟨u, m₁⟩
    all_goals rw [htick] at hx
    · cases hx
    · have hm₁ := Eval.eq_of_tick htick
      subst hm₁
      exact ⟨Eval.lt_of_tick htick, (h c _ a m' hx).2⟩
  refine ⟨⟨rest, rfl⟩, fun hx => ?_, fun hx => ?_, fun {c m} hm => ?_⟩
  · exact Nat.lt_of_lt_of_le (Nat.lt_succ_self _) (hsplit hx).2.le
  · exact (hsplit hx).2.within (hsplit hx).1
  · have htick : (tick : Eval Unit) c m = .error .stepLimit := Eval.tick_exhausted hm
    rw [Eval.bind_apply, htick]

/-- What goes along with itself behind a step spends one. -/
theorem Spends.of_stepped {α : Type} {post : α → Prop} {x : Eval α}
    (h : Eval.going.Stepped post x x) : Spends x := by
  obtain ⟨rest, _, hx, -, hrest⟩ := h
  rw [hx]
  exact .of_rest hrest

/-- Every expression spends a step. -/
theorem Expr.spends_eval (e : Expr) : Spends (e.eval : Eval Value) :=
  .of_stepped (Eval.going.eval_and_evalAll.1 e)

/-- Every statement spends a step. -/
theorem Statement.spends_run (s : Statement) : Spends (s.run : Eval Signal) :=
  .of_stepped (Eval.going.run_and_runAll.1 s)

/-! ### Loops -/

section Loops

variable (condition : Expr) (body : Program)

/-- A loop. -/
def loop : Eval Signal := do
  repeatWhile condition.eval (inBlock (Statement.runAll body)) (← stepsLeft)

/-- A turn of a loop: how its body ends, or nothing when the condition does not hold. -/
def loopTurn : Eval (Option Signal) := do
  if (← condition.eval).truthy then
    tick
    return some (← inBlock (Statement.runAll body))
  else return none

/-- A turn of a loop, and what comes after it unless the loop ends. -/
def unroll (rest : Eval Signal) : Eval Signal := do
  match ← loopTurn condition body with
  | none => return .next
  | some .next => rest
  | some (.finish v) => return .finish v

/-- A turn takes a step, if only for the condition. -/
theorem spends_loopTurn : Spends (loopTurn condition body) := by
  obtain ⟨rest, _, hcondition, -, hrest⟩ := Eval.going.eval_and_evalAll.1 condition
  -- The condition of a loop takes its step before the turn decides anything.
  have hturn : loopTurn condition body = (do
      tick
      let v ← rest
      if v.truthy then
        tick
        return some (← inBlock (Statement.runAll body))
      else return none) := by
    unfold loopTurn
    rw [hcondition, bind_assoc]
  rw [hturn]
  refine @Spends.of_rest _ (fun _ => True) _ (Eval.goesOnward_bind hrest fun v _ => ?_)
  split
  · refine Eval.goesOnward_bind Eval.onward.tick fun _ _ => ?_
    exact Eval.goesOnward_bind (Eval.going.inBlock (Eval.going.runAll body)) fun _ _ =>
      Eval.onward.pure trivial
  · exact Eval.onward.pure trivial

variable {condition body}
variable {c : Context} {m : Machine} {rest rest' : Eval Signal}

/-- Where the steps are used up, the loop stops at the limit. -/
theorem unroll_exhausted (h : c.limits.maxSteps ≤ m.steps) :
    unroll condition body rest c m = .error .stepLimit := by
  unfold unroll
  rw [Eval.bind_apply, (spends_loopTurn condition body).exhausted h]

/-- What comes after a turn matters only for machines that have taken more steps. -/
theorem unroll_congr (h : ∀ m', m.steps < m'.steps → rest c m' = rest' c m') :
    unroll condition body rest c m = unroll condition body rest' c m := by
  unfold unroll
  rw [Eval.bind_apply, Eval.bind_apply]
  rcases hturn : loopTurn condition body c m with e | ⟨signal, m'⟩
  · rfl
  · have hlt := (spends_loopTurn condition body).lt hturn
    match signal with
    | none => rfl
    | some .next => exact h m' hlt
    | some (.finish v) => rfl

/-- A loop that may turn so many times. -/
def loopWithin (condition : Expr) (body : Program) (turns : Nat) : Eval Signal :=
  repeatWhile condition.eval (inBlock (Statement.runAll body)) turns

/-- A loop may turn as often as there are steps left. -/
theorem loop_apply (c : Context) (m : Machine) :
    loop condition body c m = loopWithin condition body (c.limits.maxSteps - m.steps) c m :=
  Eval.bind_apply stepsLeft (loopWithin condition body) c m

/-- A loop that may turn once more does a turn first. -/
theorem loopWithin_succ (turns : Nat) :
    loopWithin condition body (turns + 1) =
      unroll condition body (loopWithin condition body turns) := by
  unfold unroll loopTurn loopWithin
  rw [repeatWhile, bind_assoc]
  -- The last turn that is counted is the same as one that is unrolled.
  congr 1
  funext v
  split
  · simp only [bind_assoc, pure_bind]
    congr 1
    funext _
    congr 1
    funext signal
    cases signal <;> rfl
  · rfl

/-- However many turns there are, the loop stops when the steps are used up. -/
theorem loopWithin_exhausted (h : c.limits.maxSteps ≤ m.steps) (turns : Nat) :
    loopWithin condition body turns c m = .error .stepLimit := by
  cases turns with
  | zero => rfl
  | succ turns => rw [loopWithin_succ, unroll_exhausted h]

/-- It does not matter how often a loop may turn, as long as it may for each step that is left. -/
theorem loopWithin_eq {turns turns' : Nat} (h : c.limits.maxSteps - m.steps ≤ turns)
    (h' : c.limits.maxSteps - m.steps ≤ turns') :
    loopWithin condition body turns c m = loopWithin condition body turns' c m := by
  induction turns generalizing turns' m with
  | zero =>
    have hm : c.limits.maxSteps ≤ m.steps := by omega
    rw [loopWithin_exhausted hm, loopWithin_exhausted hm]
  | succ turns ih =>
    by_cases hm : c.limits.maxSteps ≤ m.steps
    · rw [loopWithin_exhausted hm, loopWithin_exhausted hm]
    · obtain ⟨turns', rfl⟩ : ∃ n, turns' = n + 1 := ⟨turns' - 1, by omega⟩
      rw [loopWithin_succ, loopWithin_succ]
      -- after a turn there are fewer steps left, and each loop may still turn for each of them
      refine unroll_congr fun m' hlt => ?_
      exact ih (by omega) (by omega)

/-- A loop does a turn, and then goes on as itself. -/
theorem loop_eq_unroll (condition : Expr) (body : Program) :
    loop condition body = unroll condition body (loop condition body) := by
  funext c m
  have hmore : loop condition body c m =
      loopWithin condition body (c.limits.maxSteps - m.steps + 1) c m := by
    rw [loop_apply]
    exact loopWithin_eq (Nat.le_refl _) (Nat.le_succ _)
  rw [hmore, loopWithin_succ]
  refine unroll_congr fun m' hlt => ?_
  rw [loop_apply]
  exact loopWithin_eq (by omega) (Nat.le_refl _)

/-- Whatever does a turn and then goes on as itself is the loop. -/
theorem eq_loop_of_unroll {other : Eval Signal} (h : other = unroll condition body other) :
    other = loop condition body := by
  have hleft : ∀ (c : Context) (left : Nat) (m : Machine), c.limits.maxSteps - m.steps ≤ left →
      other c m = loop condition body c m := by
    intro c left
    -- the induction is on the number of steps that are left, which every turn brings down
    induction left with
    | zero =>
      intro m hm
      have hm : c.limits.maxSteps ≤ m.steps := by omega
      rw [h, loop_eq_unroll, unroll_exhausted hm, unroll_exhausted hm]
    | succ left ih =>
      intro m hm
      rw [h, loop_eq_unroll]
      refine unroll_congr fun m' hlt => ?_
      exact ih m' (by omega)
  funext c m
  exact hleft c _ m (Nat.le_refl _)

end Loops

/-! ### The steps of a run -/

/-- Whether an act is a step. -/
def Act.isStep : Act → Bool
  | .step => true
  | _ => false

/-- How many steps there are among moments. -/
def stepsTaken (moments : List Moment) : Nat := moments.countP (·.act.isStep)

/-- A log that goes on by a moment goes on by its step, if it is one. -/
theorem stepsTaken_concat (moments : List Moment) (moment : Moment) :
    stepsTaken (moments ++ [moment]) =
      stepsTaken moments + if moment.act.isStep then 1 else 0 := by
  unfold stepsTaken
  rw [List.countP_append, List.countP_singleton]

namespace Watched

variable {α β : Type} {c : Context} {many : Nat} {post : α → Prop} {x y : Watched α}

/-- The steps of the machine are those among the moments, and no more than there may be. -/
structure Counted (c : Context) (m : Machine) (log : List Moment) : Prop where
  eq : stepsTaken log = m.steps
  le : m.steps ≤ c.limits.maxSteps

/-- What comes of a computation at a machine: no more steps are taken than there may be, and with
as many steps as `many` the other computation does the same, unless the steps have run out. -/
structure Outlasts (c : Context) (many : Nat) (post : α → Prop) (x y : Watched α) (m : Machine)
    (log : List Moment) : Prop where
  same : (x c m log).1 = .error .stepLimit ∨ y (c.withSteps many) m log = x c m log
  counted : ∀ a m', (x c m log).1 = .ok (a, m') → post a ∧ Counted c m' (x c m log).2
  le : stepsTaken (x c m log).2 ≤ c.limits.maxSteps

/-- The steps are counted all along, and more of them change nothing unless they run out. -/
def Outlasting (c : Context) (many : Nat) (post : α → Prop) (x y : Watched α) : Prop :=
  ∀ m log, Counted c m log → Outlasts c many post x y m log

/-- What outlasts a limit, part after part, outlasts it as a whole. -/
theorem outlasts_bind {post' : β → Prop} {f g : α → Watched β}
    (hx : Outlasting c many post x y)
    (hf : ∀ a, post a → Outlasting c many post' (f a) (g a)) :
    Outlasting c many post' (x >>= f) (y >>= g) := by
  intro m log hm
  obtain ⟨hsame, hcounted, hle⟩ := hx m log hm
  have hxf := bind_apply x f c m log
  have hyg := bind_apply y g (c.withSteps many) m log
  rcases hxm : x c m log with ⟨_ | ⟨a, m'⟩, log'⟩
  all_goals rw [hxm] at hsame hcounted hle hxf
  · -- the first part fails, and with it the whole
    refine ⟨?_, ?_, ?_⟩
    · rcases hsame with hout | hsame
      · left
        rw [hxf]
        cases hout
        rfl
      · right
        rw [hxf, hyg, hsame]
    · intro b m₂ hb
      rw [hxf] at hb
      cases hb
    · rw [hxf]
      exact hle
  -- The first part is the same under both limits, so the second one starts at the same machine.
  · have hsame : y (c.withSteps many) m log = (.ok (a, m'), log') := by
      rcases hsame with hout | hsame
      · cases hout
      · exact hsame
    obtain ⟨ha, hm'⟩ := hcounted a m' rfl
    obtain ⟨hsame', hcounted', hle'⟩ := hf a ha m' log' hm'
    rw [hsame] at hyg
    exact ⟨by rw [hxf, hyg]; exact hsame', by rw [hxf]; exact hcounted', by rw [hxf]; exact hle'⟩

/-- A computation that fails for lack of steps is outlasted by any other one. -/
theorem outlasts_stepLimit (y : Watched α) :
    Outlasting c many post (quietly (fail .stepLimit)) y := fun _ _ hm =>
  ⟨.inl rfl, fun _ _ h => (by cases h), hm.eq.trans_le hm.le⟩

/-- A computation of which nothing is kept leaves the steps as they are. -/
theorem outlasts_quietly {z : Eval α} (hsame : ∀ m, z (c.withSteps many) m = z c m)
    (hz : ∀ m a m', z c m = .ok (a, m') → post a ∧ m' = m) :
    Outlasting c many post (quietly z) (quietly z) := by
  intro m log hm
  refine ⟨.inr ?_, fun a m' h => ?_, hm.eq.trans_le hm.le⟩
  · show (z (c.withSteps many) m, log) = (z c m, log)
    rw [hsame]
  · obtain ⟨ha, rfl⟩ := hz m a m' h
    exact ⟨ha, hm⟩

/-- An act that fails leaves the log alone. -/
theorem acting_of_error {z : Eval α} {act : α → Act} {m : Machine} {log : List Moment}
    {e : Failure} (h : z c m = .error e) : acting z act c m log = (.error e, log) := by
  unfold acting
  rw [h]

/-- An act that succeeds is logged with the machine it leads to. -/
theorem acting_of_ok {z : Eval α} {act : α → Act} {m m' : Machine} {log : List Moment} {a : α}
    (h : z c m = .ok (a, m')) : acting z act c m log = (.ok (a, m'), log ++ [⟨act a, m'⟩]) := by
  unfold acting
  rw [h]

/-- A computation that is kept as a moment must count its steps as the moment does. -/
theorem outlasts_acting {z : Eval α} {act : α → Act}
    (hsame : ∀ m, z c m = .error .stepLimit ∨ z (c.withSteps many) m = z c m)
    (hz : ∀ m a m', z c m = .ok (a, m') → m.steps ≤ c.limits.maxSteps →
      m'.steps = (m.steps + if (act a).isStep then 1 else 0) ∧ m'.steps ≤ c.limits.maxSteps) :
    Outlasting c many (fun _ => True) (acting z act) (acting z act) := by
  -- Either the limit ends the act here, or both limits see the same.
  intro m log hm
  have hother : (acting z act c m log).1 = .error .stepLimit ∨
      acting z act (c.withSteps many) m log = acting z act c m log := by
    rcases hsame m with hout | hsame
    · left
      rw [acting_of_error hout]
    · right
      unfold acting
      rw [hsame]
  rcases hzm : z c m with e | ⟨a, m'⟩
  · have hfails : acting z act c m log = (.error e, log) := acting_of_error hzm
    refine ⟨hother, fun a m' h => ?_, ?_⟩
    · rw [hfails] at h
      cases h
    · rw [hfails]
      exact hm.eq.trans_le hm.le
  · obtain ⟨hsteps, hle⟩ := hz m a m' hzm hm.le
    have hacts : acting z act c m log = (.ok (a, m'), log ++ [⟨act a, m'⟩]) := acting_of_ok hzm
    have hcounted : Counted c m' (log ++ [⟨act a, m'⟩]) := by
      refine ⟨?_, hle⟩
      rw [stepsTaken_concat, hm.eq, hsteps]
    refine ⟨hother, fun b m₂ h => ?_, ?_⟩
    · rw [hacts] at h ⊢
      cases h
      exact ⟨trivial, hcounted⟩
    · rw [hacts]
      exact hcounted.eq.trans_le hcounted.le

/-- An act other than a step, which leaves the number of steps as it is. -/
theorem outlasts_other {z : Eval α} {act : α → Act} (hact : ∀ a, (act a).isStep = false)
    (hsame : ∀ m, z (c.withSteps many) m = z c m)
    (hz : ∀ m a m', z c m = .ok (a, m') → m'.steps = m.steps) :
    Outlasting c many (fun _ => True) (acting z act) (acting z act) := by
  refine outlasts_acting (fun m => .inr (hsame m)) fun m a m' h hle => ?_
  have hsteps := hz m a m' h
  rw [hact, hsteps]
  exact ⟨rfl, hle⟩

/-- A step is counted, and it can be taken as well if there are more of them. -/
theorem outlasts_tick (hmany : c.limits.maxSteps ≤ many) :
    Outlasting c many (fun _ => True) tick tick := by
  refine outlasts_acting (fun m => ?_) fun m u m' h _ => ?_
  -- A step is left under the lower limit, and then also under the higher one, or it is not.
  · by_cases hlt : m.steps < c.limits.maxSteps
    · right
      have hhere : ¬c.limits.maxSteps < m.steps + 1 := by omega
      have hthere : ¬many < m.steps + 1 := by omega
      show Eval.tick (c.withSteps many) m = Eval.tick c m
      unfold Eval.tick Context.withSteps
      dsimp only
      rw [if_neg hhere, if_neg hthere]
    · left
      exact Eval.tick_exhausted (Nat.not_lt.1 hlt)
  · have hlt := Eval.lt_of_tick h
    have hm' := Eval.eq_of_tick h
    subst hm'
    exact ⟨rfl, hlt⟩

/-- To outlast is kept in sequence. -/
def outlast (hmany : c.limits.maxSteps ≤ many) : Correspondence Watched Watched where
  Rel := Outlasting c many
  pure h := fun m log hm => by
    refine ⟨.inr rfl, fun a m' ha => ?_, hm.eq.trans_le hm.le⟩
    cases ha
    exact ⟨h, hm⟩
  bind := outlasts_bind
  fail e := outlasts_quietly (fun _ => rfl) fun _ _ _ h => by cases h
  tick := outlasts_tick hmany

/-- A loop may turn more often when more steps are left. -/
theorem outlasts_repeatWhile (hmany : c.limits.maxSteps ≤ many)
    {condition condition' : Watched Value} {body body' : Watched Signal}
    (hcondition : Outlasting c many (Value.Fits True) condition condition')
    (hbody : Outlasting c many (Signal.Fits True) body body') {turns turns' : Nat}
    (hturns : turns ≤ turns') :
    Outlasting c many (Signal.Fits True) (repeatWhile condition body turns)
      (repeatWhile condition' body' turns') := by
  -- On the turns of the lower limit. The higher one allows for as many, so its turn goes along.
  induction turns generalizing turns' with
  | zero => exact outlasts_stepLimit _
  | succ turns ih =>
    obtain ⟨more, rfl⟩ := Nat.exists_eq_add_of_le' hturns
    refine outlasts_bind hcondition fun v _ => ?_
    split
    · exact outlasts_bind (outlasts_tick hmany) fun _ _ =>
        (outlast hmany).andThen hbody (ih (Nat.le_add_left turns more))
    · exact (outlast hmany).pure trivial

/-- A loop outlasts a limit: under the higher one it may turn at least as often. -/
theorem outlasts_loop (hmany : c.limits.maxSteps ≤ many) {condition condition' : Watched Value}
    {body body' : Watched Signal}
    (hcondition : Outlasting c many (Value.Fits True) condition condition')
    (hbody : Outlasting c many (Signal.Fits True) body body') :
    Outlasting c many (Signal.Fits True) (stepsLeft >>= repeatWhile condition body)
      (stepsLeft >>= repeatWhile condition' body') := by
  intro m log hm
  have hhere : (stepsLeft >>= repeatWhile condition body) c m log =
      repeatWhile condition body (c.limits.maxSteps - m.steps) c m log :=
    bind_apply stepsLeft (repeatWhile condition body) c m log
  have hthere : (stepsLeft >>= repeatWhile condition' body') (c.withSteps many) m log =
      repeatWhile condition' body' (many - m.steps) (c.withSteps many) m log :=
    bind_apply stepsLeft (repeatWhile condition' body') (c.withSteps many) m log
  have hturns : c.limits.maxSteps - m.steps ≤ many - m.steps := by omega
  obtain ⟨hsame, hcounted, hle⟩ := outlasts_repeatWhile hmany hcondition hbody hturns m log hm
  rw [← hhere] at hsame hcounted hle
  rw [← hthere] at hsame
  exact ⟨hsame, hcounted, hle⟩

/-- Every effect is counted, and outlasts a larger budget of steps. -/
def patience (hmany : c.limits.maxSteps ≤ many) : Simulation Watched Watched True where
  toCorrespondence := outlast hmany
  loop := outlasts_loop hmany
  note _ := outlasts_other (fun _ => rfl) (fun _ => rfl) fun _ _ _ h => by cases h; rfl
  stored? _ := outlasts_other (fun _ => rfl) (fun _ => rfl) fun _ _ _ h => by cases h; rfl
  store _ _ := outlasts_other (fun _ => rfl) (fun _ => rfl) fun _ _ _ h => by
    obtain ⟨o, -, rfl⟩ := Eval.write_of_store h
    rfl
  redirectTo _ := outlasts_other (fun _ => rfl) (fun _ => rfl) fun _ _ _ h => by cases h; rfl
  complete _ := outlasts_other (fun _ => rfl) (fun _ => rfl) fun _ _ _ h => by cases h; rfl
  mode := outlasts_quietly (fun _ => rfl) fun _ _ _ h => by cases h; exact ⟨fun _ => trivial, rfl⟩
  client _ := outlasts_other (fun _ => rfl) (fun _ => rfl) fun _ _ _ h => by cases h; rfl
  scopes := outlasts_quietly (fun _ => rfl) fun _ _ _ h => by
    cases h
    exact ⟨.of_pages trivial, rfl⟩
  setScopes _ := outlasts_other (fun _ => rfl) (fun _ => rfl) fun _ _ _ h => by cases h; rfl

end Watched

/-- A run takes no more steps than it may, and with more steps the same happens at every moment,
unless the run has run out of steps. -/
theorem Program.watch_withSteps (program : Program) {c : Context} {many : Nat}
    (hmany : c.limits.maxSteps ≤ many) :
    stepsTaken (program.watch c).2 ≤ c.limits.maxSteps ∧
      (program.run c = .error .stepLimit ∨
        program.watch (c.withSteps many) = program.watch c) := by
  have hstart : Watched.Counted c {} [] := ⟨rfl, Nat.zero_le _⟩
  -- The log counts its steps from the first machine on.
  obtain ⟨hsame, -, hle⟩ := (Watched.patience hmany).runAll program {} [] hstart
  have hlog : (program.watch c).2 = ((Statement.runAll program : Watched Signal) c {} []).2 := by
    unfold watch
    rcases (Statement.runAll program : Watched Signal) c {} [] with ⟨_ | ⟨signal, m⟩, log⟩ <;> rfl
  refine ⟨hlog ▸ hle, ?_⟩
  rcases hsame with hout | hsame
  · left
    rw [← program.watch_outcome]
    unfold watch
    rcases hrun : (Statement.runAll program : Watched Signal) c {} [] with ⟨e | ⟨signal, m⟩, log⟩
    all_goals rw [hrun] at hout
    all_goals cases hout
    rfl
  · right
    unfold watch
    rw [hsame]

/-- Every run ends within its steps. Whatever is executed, evaluated or turned takes a step; a loop
is the one computation that does a turn and goes on as itself. No run, also none that fails, takes
more steps than it may; and with more steps everything happens as it does with fewer, so that a run
for which these are not enough runs out of steps. -/
theorem runs_end_within_their_steps (program : Program) (c : Context) :
    (∀ s : Statement, Spends (s.run : Eval Signal)) ∧
    (∀ e : Expr, Spends (e.eval : Eval Value)) ∧
    (∀ (condition : Expr) (body : Program), Spends (loopTurn condition body) ∧
      (Statement.repeat condition body).run = (do tick; loop condition body) ∧
      ∀ x : Eval Signal, x = unroll condition body x ↔ x = loop condition body) ∧
    (program.watch c).1 = program.run c ∧
    stepsTaken (program.watch c).2 ≤ c.limits.maxSteps ∧
    ∀ many, c.limits.maxSteps ≤ many →
      (program.run c = .error .stepLimit ∨
        program.watch (c.withSteps many) = program.watch c) ∧
      (c.limits.maxSteps < stepsTaken (program.watch (c.withSteps many)).2 →
        program.run c = .error .stepLimit) := by
  have hle : stepsTaken (program.watch c).2 ≤ c.limits.maxSteps :=
    (program.watch_withSteps (Nat.le_refl _)).1
  refine ⟨Statement.spends_run, Expr.spends_eval, fun condition body => ?_,
    program.watch_outcome c, hle, fun many hmany => ?_⟩
  · refine ⟨spends_loopTurn condition body, rfl, fun x => ⟨eq_loop_of_unroll, ?_⟩⟩
    rintro rfl
    exact loop_eq_unroll condition body
  · have hsame := (program.watch_withSteps hmany).2
    refine ⟨hsame, fun hneeds => ?_⟩
    -- What happens with more steps would happen here, but it is more than may happen here.
    rcases hsame with hout | hsame
    · exact hout
    · rw [hsame] at hneeds
      exact absurd hle (Nat.not_le.2 hneeds)

end Dialogue.Script
