import Dialogue.Proofs.Script.Watch
import Mathlib.Order.Nat

namespace Dialogue.Script

open Effects

/-!
# Budgets only cut off

A budget is looked at where a step is taken and where a variable is written. There it either cuts
the run off or leaves no trace. So a run that was not cut off goes the same way under larger
budgets, and for every such run there is a least budget of steps.

* `Failure.isCutOff`: the failures of runs that a budget has cut off.
* `Context.Widens`: what two contexts need to have in common for this.
* `cutting`: under the wider context a computation is the same, unless the other one is cut off.
* `budgets_only_cut_off`: larger budgets do not change what was not cut off.
-/

/-- The failures of runs that a budget has cut off. The time that a run takes is no budget here. -/
def Failure.isCutOff : Failure → Bool
  | .stepLimit | .tooManyVariables _ | .variableBytes _ => true
  | _ => false

/-- Every budget is at most as large as the other one. -/
structure Limits.Within (l l' : Limits) : Prop where
  steps : l.maxSteps ≤ l'.maxSteps
  names : l.maxVariables ≤ l'.maxVariables
  bytes : l.maxVariableBytes ≤ l'.maxVariableBytes

/-- No look at the clock finds a run late. -/
def Context.Punctual (c : Context) : Prop :=
  ∀ steps, steps % Eval.clockInterval = 0 → c.elapsed steps ≤ c.limits.timeout * 1000000

/-- The context with another budget of steps. -/
def Context.withSteps (c : Context) (steps : Nat) : Context :=
  { c with limits.maxSteps := steps }

/-! ### Where budgets are looked at -/

/-- With a clock that is never late, only the number of steps ends a script. -/
theorem Eval.tick_of_punctual {c : Context} (h : c.Punctual) (m : Machine) :
    tick c m = if c.limits.maxSteps < m.steps + 1 then .error .stepLimit
      else .ok ((), { m with steps := m.steps + 1 }) := by
  have hclock : ¬((m.steps + 1) % clockInterval = 0 ∧
      c.limits.timeout * 1000000 < c.elapsed (m.steps + 1)) := by
    rintro ⟨hlook, hlate⟩
    exact absurd (h _ hlook) (Nat.not_le.2 hlate)
  unfold tick
  dsimp only
  rw [if_neg hclock]

/-- A write that larger budgets do not leave as it is has been cut off. -/
theorem Overlay.write_of_within {l l' : Limits} (h : l.Within l') (o : Overlay)
    (name text : String) :
    (∃ e, e.isCutOff ∧ o.write l name text = .error e) ∨
      o.write l' name text = o.write l name text := by
  -- Both budgets are looked at in the order of `write`: what fits the narrower one fits the wider.
  unfold write
  by_cases hbytes : l.maxVariableBytes < o.bytesAfter name text
  · exact .inl ⟨.variableBytes l.maxVariableBytes, rfl, if_pos hbytes⟩
  by_cases hnames : (o.get? name).isNone ∧ l.maxVariables ≤ o.written.length
  · exact .inl ⟨.tooManyVariables l.maxVariables, rfl, by rw [if_neg hbytes, if_pos hnames]⟩
  · have hbytes' : ¬l'.maxVariableBytes < o.bytesAfter name text := fun h' =>
      hbytes (Nat.lt_of_le_of_lt h.bytes h')
    have hnames' : ¬((o.get? name).isNone ∧ l'.maxVariables ≤ o.written.length) := fun h' =>
      hnames ⟨h'.1, Nat.le_trans h.names h'.2⟩
    exact .inr (by rw [if_neg hbytes, if_neg hbytes', if_neg hnames, if_neg hnames'])

/-! ### Two runs side by side -/

/-- The second context lets a run go on at least as long as the first one, and by the same way.
Where only the first one stops it, it does so by a failure of the kind `cut`. -/
structure Context.Widens (cut : Failure → Prop) (c c' : Context) : Prop where
  vars : c'.vars = c.vars
  mode : c'.mode = c.mode
  client : c'.client = c.client
  punctual : c.Punctual
  punctual' : c'.Punctual
  steps : c.limits.maxSteps ≤ c'.limits.maxSteps
  stepLimit : cut .stepLimit
  write : ∀ (o : Overlay) (name text : String),
    (∃ e, cut e ∧ o.write c.limits name text = .error e) ∨
      o.write c'.limits name text = o.write c.limits name text

namespace Eval

variable {cut : Failure → Prop} {c c' : Context} {α : Type} {post : α → Prop}

/-- The first computation is cut off, or the second one does the same, to an end with `post`. -/
def UnlessCut (cut : Failure → Prop) (c c' : Context) (post : α → Prop) (x y : Eval α) : Prop :=
  ∀ m, (∃ e, cut e ∧ x c m = .error e) ∨
    (y c' m = x c m ∧ ∀ a m', x c m = .ok (a, m') → post a)

/-- A computation that does the same in both contexts. -/
theorem unlessCut_of_eq {x : Eval α} (h : ∀ m, x c' m = x c m) (hpost : ∀ a, post a) :
    UnlessCut cut c c' post x x := fun m => .inr ⟨h m, fun a _ _ => hpost a⟩

/-- A step is the same under the wider limits, or it cuts off. -/
theorem unlessCut_tick (h : c.Widens cut c') : UnlessCut cut c c' (fun _ => True) tick tick := by
  intro m
  rw [tick_of_punctual h.punctual, tick_of_punctual h.punctual']
  by_cases hsteps : c.limits.maxSteps < m.steps + 1
  · exact .inl ⟨_, h.stepLimit, if_pos hsteps⟩
  · have hsteps' : ¬c'.limits.maxSteps < m.steps + 1 := fun h' =>
      hsteps (Nat.lt_of_le_of_lt h.steps h')
    rw [if_neg hsteps, if_neg hsteps']
    exact .inr ⟨rfl, fun _ _ _ => trivial⟩

/-- So is storing a variable. -/
theorem unlessCut_store (h : c.Widens cut c') (name text : String) :
    UnlessCut cut c c' (fun _ => True) (store name text) (store name text) := by
  intro m
  unfold store
  rcases h.write m.overlay name text with ⟨e, he, hwrite⟩ | hwrite
  · exact .inl ⟨e, he, by rw [hwrite]; rfl⟩
  · exact .inr ⟨by rw [hwrite], fun _ _ _ => trivial⟩

/-- To do the same unless cut off is kept in sequence. -/
def cutting (h : c.Widens cut c') : Correspondence Eval Eval where
  Rel := UnlessCut cut c c'
  pure h := fun _ => .inr ⟨rfl, fun _ _ ha => by
    cases ha
    exact h⟩
  bind {_ _ _ _ x y _ _} hx hf := fun m => by
    rw [bind_apply, bind_apply]
    rcases hx m with ⟨e, he, hxm⟩ | ⟨hy, hpost⟩
    · exact .inl ⟨e, he, by rw [hxm]⟩
    · rw [hy]
      rcases hxm : x c m with e | ⟨a, m'⟩
      · exact .inr ⟨rfl, fun _ _ h => by cases h⟩
      · exact hf a (hpost a m' hxm) m'
  fail e := fun _ => .inr ⟨rfl, fun _ _ h => by cases h⟩
  tick := unlessCut_tick h

/-- A loop may turn more often when more steps are left. One that runs out of turns has run out of
steps. -/
theorem unlessCut_repeatWhile (h : c.Widens cut c') {condition condition' : Eval Value}
    {body body' : Eval Signal}
    (hcondition : UnlessCut cut c c' (Value.Fits True) condition condition')
    (hbody : UnlessCut cut c c' (Signal.Fits True) body body') {turns turns' : Nat}
    (hturns : turns ≤ turns') :
    UnlessCut cut c c' (Signal.Fits True) (repeatWhile condition body turns)
      (repeatWhile condition' body' turns') := by
  -- On the turns of the narrower limits. The wider ones allow for as many.
  induction turns generalizing turns' with
  | zero => exact fun _ => .inl ⟨.stepLimit, h.stepLimit, rfl⟩
  | succ turns ih =>
    obtain ⟨more, rfl⟩ := Nat.exists_eq_add_of_le' hturns
    refine (cutting h).bind hcondition fun v _ => ?_
    split
    · exact (cutting h).bind (unlessCut_tick h) fun _ _ =>
        (cutting h).andThen hbody (ih (Nat.le_add_left turns more))
    · exact (cutting h).pure trivial

/-- A loop is the same under the wider limits, or it is cut off. -/
theorem unlessCut_loop (h : c.Widens cut c') {condition condition' : Eval Value}
    {body body' : Eval Signal}
    (hcondition : UnlessCut cut c c' (Value.Fits True) condition condition')
    (hbody : UnlessCut cut c c' (Signal.Fits True) body body') :
    UnlessCut cut c c' (Signal.Fits True) (stepsLeft >>= repeatWhile condition body)
      (stepsLeft >>= repeatWhile condition' body') := by
  intro m
  rw [bind_apply, bind_apply]
  exact unlessCut_repeatWhile h hcondition hbody (Nat.sub_le_sub_right h.steps m.steps) m

/-- Every effect does the same in both contexts, unless the first one is cut off. -/
def cutOff (h : c.Widens cut c') : Simulation Eval Eval True where
  toCorrespondence := cutting h
  loop := unlessCut_loop h
  note _ := unlessCut_of_eq (fun _ => rfl) fun _ => trivial
  stored? name := unlessCut_of_eq (fun m => by
    show Except.ok ((m.overlay.get? name).or (c'.vars.get? name), m) = _
    rw [h.vars]
    rfl) fun _ => trivial
  store := unlessCut_store h
  redirectTo _ := unlessCut_of_eq (fun _ => rfl) fun _ => trivial
  complete _ := unlessCut_of_eq (fun _ => rfl) fun _ => trivial
  mode := unlessCut_of_eq (fun m => congrArg (fun mode => Except.ok (mode, m)) h.mode)
    fun _ _ => trivial
  client _ := unlessCut_of_eq (fun m => congrArg (fun client => Except.ok (client, m)) h.client)
    fun _ => trivial
  scopes := unlessCut_of_eq (fun _ => rfl) fun _ => .of_pages trivial
  setScopes _ := unlessCut_of_eq (fun _ => rfl) fun _ => trivial

end Eval

/-- A program that is not cut off has the same outcome in a wider context. -/
theorem Program.run_of_widens {cut : Failure → Prop} {c c' : Context} (h : c.Widens cut c')
    {program : Program} (hcut : ∀ e, program.run c = .error e → ¬cut e) :
    program.run c' = program.run c := by
  unfold Program.run at hcut ⊢
  rcases (Eval.cutOff h).runAll program {} with ⟨e, he, hrun⟩ | ⟨hrun, -⟩
  · rw [hrun] at hcut
    exact absurd he (hcut e rfl)
  · rw [hrun]

/-! ### Budgets -/

namespace Context

variable {c c' : Context}

/-- Larger budgets make a context wider. -/
theorem widens_of_within (hvars : c'.vars = c.vars) (hmode : c'.mode = c.mode)
    (hclient : c'.client = c.client) (h : c.limits.Within c'.limits) (hc : c.Punctual)
    (hc' : c'.Punctual) : c.Widens (fun e => e.isCutOff) c' where
  vars := hvars
  mode := hmode
  client := hclient
  punctual := hc
  punctual' := hc'
  steps := h.steps
  stepLimit := rfl
  write := Overlay.write_of_within h

/-- With more steps alone, only running out of steps can be put off. -/
theorem widens_withSteps (h : c.Punctual) {few many : Nat} (hsteps : few ≤ many) :
    (c.withSteps few).Widens (· = .stepLimit) (c.withSteps many) where
  vars := rfl
  mode := rfl
  client := rfl
  punctual := h
  punctual' := h
  steps := hsteps
  stepLimit := rfl
  write _ _ _ := .inr rfl

end Context

/-- There is a least budget of steps for which a run does not run out of steps, if there is any.
From it on the outcome is the same. -/
theorem Program.exists_least_steps {program : Program} {c : Context} (hc : c.Punctual)
    (h : program.run c ≠ .error .stepLimit) :
    ∃ least, (∀ steps, least ≤ steps → program.run (c.withSteps steps) = program.run c) ∧
      ∀ steps < least, program.run (c.withSteps steps) = .error .stepLimit := by
  classical
  -- Once the steps are enough, more of them change nothing.
  have hsame : ∀ {few many : Nat}, few ≤ many →
      program.run (c.withSteps few) ≠ .error .stepLimit →
      program.run (c.withSteps many) = program.run (c.withSteps few) := by
    intro few many hsteps hfew
    refine run_of_widens (c.widens_withSteps hc hsteps) ?_
    rintro _ he rfl
    exact hfew he
  have hown : program.run (c.withSteps c.limits.maxSteps) = program.run c := rfl
  have hsome : ∃ steps, program.run (c.withSteps steps) ≠ .error .stepLimit :=
    ⟨c.limits.maxSteps, by rwa [hown]⟩
  -- The least budget that does not run out is the one looked for.
  refine ⟨Nat.find hsome, fun steps hsteps => ?_, fun steps hsteps => ?_⟩
  · rw [hsame hsteps (Nat.find_spec hsome), ← hown]
    exact (hsame (Nat.find_min' hsome (by rwa [hown])) (Nat.find_spec hsome)).symm
  · exact not_not.1 (Nat.find_min hsome hsteps)

/-- Larger budgets do not change the outcome of a run that was not cut off, whatever the outcome is,
as long as the clock stops neither run. So among the budgets of steps there is one from which on the
outcome is the one outcome of the program, and below which the run runs out of steps. -/
theorem budgets_only_cut_off (program : Program) (c : Context) (hc : c.Punctual)
    (h : ∀ e, program.run c = .error e → ¬e.isCutOff) :
    (∀ c' : Context, c'.vars = c.vars → c'.mode = c.mode → c'.client = c.client →
      c.limits.Within c'.limits → c'.Punctual → program.run c' = program.run c) ∧
    ∃! least, (∀ steps, least ≤ steps → program.run (c.withSteps steps) = program.run c) ∧
      ∀ steps < least, program.run (c.withSteps steps) = .error .stepLimit := by
  have hsteps : program.run c ≠ .error .stepLimit := fun hrun => h _ hrun rfl
  refine ⟨fun c' hvars hmode hclient hwithin hc' => ?_, ?_⟩
  · exact Program.run_of_widens (Context.widens_of_within hvars hmode hclient hwithin hc hc') h
  · obtain ⟨least, hfrom, hbelow⟩ := Program.exists_least_steps hc hsteps
    refine ⟨least, ⟨hfrom, hbelow⟩, fun other ⟨hfrom', hbelow'⟩ => ?_⟩
    -- at the smaller one of two such budgets the run would both end and run out of steps
    rcases Nat.lt_trichotomy other least with hlt | rfl | hlt
    · exact absurd ((hfrom' other Nat.le.refl).symm.trans (hbelow other hlt)) hsteps
    · rfl
    · exact absurd ((hfrom least Nat.le.refl).symm.trans (hbelow' least hlt)) hsteps

namespace Roll

/-- A script that counts on a roll of marks and gives up when there are three. -/
def script : Program :=
  [.declare "roll" (some (.literal (.text ""))),
   .repeat (.literal (.bool true))
     [.assign (.name "roll") true (.literal (.text "x")),
      .assign (.member (.name "variables") "roll") false (.name "roll"),
      .choose (.binary .strictEqual (.name "roll") (.literal (.text "xxx")))
        [.throw (.name "roll")] []]]

/-- A context with so many steps, and room for one variable of eight bytes. -/
def context (steps : Nat) : Context where
  vars := .empty
  mode := .server
  client := {}
  limits := { maxSteps := steps, maxVariables := 1, maxVariableBytes := 8 }
  elapsed := fun _ => 0

/-- Its clock stands still. -/
theorem punctual (steps : Nat) : (context steps).Punctual := fun _ _ => Nat.zero_le _

end Roll

/-- With more room the script gives up all the same. It takes 38 steps to do so. -/
theorem budgets_only_cut_off_roll :
    (Roll.context 100).Punctual ∧
      Roll.script.run (Roll.context 100) = .error (.thrown "xxx") ∧
      Roll.script.run { Roll.context 100 with limits := {} } = .error (.thrown "xxx") ∧
      (∀ steps, 38 ≤ steps → Roll.script.run (Roll.context steps) = .error (.thrown "xxx")) ∧
      ∀ steps < 38, Roll.script.run (Roll.context steps) = .error .stepLimit := by
  have hrun : Roll.script.run (Roll.context 100) = .error (.thrown "xxx") := by decide +kernel
  have hlast : Roll.script.run (Roll.context 37) = .error .stepLimit := by decide +kernel
  have hfirst : Roll.script.run (Roll.context 38) = .error (.thrown "xxx") := by decide +kernel
  obtain ⟨hwider, least, ⟨hfrom, hbelow⟩, -⟩ :=
    budgets_only_cut_off Roll.script (Roll.context 100) (Roll.punctual 100) fun e he => by
      cases hrun.symm.trans he
      decide
  -- At 37 steps the script is cut off and at 38 it is not, so 38 is the least budget.
  have hleast : least = 38 := by
    rcases Nat.lt_trichotomy least 38 with hlt | rfl | hlt
    · exact absurd ((hfrom 37 (by omega)).symm.trans hlast) (by rw [hrun]; simp)
    · rfl
    · exact absurd (hfirst.symm.trans (hbelow 38 hlt)) (by simp)
  subst hleast
  have hwithin : (Roll.context 100).limits.Within {} := by constructor <;> simp [Roll.context]
  refine ⟨Roll.punctual 100, hrun, ?_, fun steps hsteps => (hfrom steps hsteps).trans hrun, hbelow⟩
  exact (hwider { Roll.context 100 with limits := {} } rfl rfl rfl hwithin
    fun _ _ => Nat.zero_le _).trans hrun

end Dialogue.Script
