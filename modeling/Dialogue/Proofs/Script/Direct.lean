import Dialogue.Proofs.Script.Watch
import Dialogue.Session.Turn

namespace Dialogue.Script

open Effects

/-!
# Writing the variables directly

A run keeps what it writes in an overlay, and its outcome is a list of variables to set. A run that
had a copy of the variables of its own, and wrote each one there at once, would read the same, end
alike, and leave the copy as the session is once the variables of the outcome are set.

* `Direct`: computations that read and write a copy of the variables.
* `Direct.mirroring`: what an overlay holds above the variables is what the copy holds.
* `overlay_writes_through`: a run with an overlay is a run on a copy.
-/

/-! ### Runs on a copy -/

/-- A computation on a copy of the variables. Its writes are not limited. -/
abbrev Direct (α : Type) := StateT (Dictionary String) Eval α

namespace Direct

variable {α β : Type}

instance : Effects Direct where
  fail f := StateT.lift (fail f)
  tick := StateT.lift tick
  stepsLeft := StateT.lift stepsLeft
  note v := StateT.lift (note v)
  stored? name := fun vars => return (vars.get? name, vars)
  store name text := fun vars => return ((), vars.insert name text)
  redirectTo url := StateT.lift (redirectTo url)
  complete v := StateT.lift (complete v)
  mode := StateT.lift mode
  client := StateT.lift client
  scopes := StateT.lift scopes
  setScopes s := StateT.lift (setScopes s)

/-- Parts run one after the other, on the variables and on the machine. -/
theorem bind_apply (x : Direct α) (f : α → Direct β) (vars : Dictionary String) (c : Context)
    (m : Machine) :
    (x >>= f) vars c m =
      match x vars c m with
      | .ok ((a, vars'), m') => f a vars' c m'
      | .error e => .error e := by
  refine (Eval.bind_apply (x vars) (fun p => f p.1 p.2) c m).trans ?_
  rcases x vars c m with _ | ⟨⟨_, _⟩, _⟩ <;> rfl

/-- What does not touch the variables runs as it does on its own. -/
theorem lift_apply (x : Eval α) (vars : Dictionary String) (c : Context) (m : Machine) :
    (StateT.lift x : Direct α) vars c m =
      match x c m with
      | .ok (a, m') => .ok ((a, vars), m')
      | .error e => .error e :=
  Eval.bind_apply x (fun a => pure (a, vars)) c m

end Direct

/-- What comes of a run on a copy of the variables. -/
structure Settlement where
  redirectUrl : Option String
  result : Option String
  /-- The copy at the end. -/
  vars : Dictionary String

/-- A context whose variables are out of reach. -/
def Context.withoutVars (c : Context) : Context := { c with vars := .empty }

/-- A machine that has written nothing. -/
def Machine.withoutOverlay (m : Machine) : Machine := { m with overlay := {} }

/-- The run of a program on a copy of the variables, which are all that it can reach. -/
def Program.runDirectly (program : Program) (c : Context) : Except Failure Settlement := do
  let ((signal, vars), m) ← (Statement.runAll program : Direct Signal) c.vars c.withoutVars {}
  return ⟨m.redirectUrl, (m.outcome signal).result, vars⟩

/-! ### What the overlay holds, the copy holds -/

/-- A copy that holds what is read through the overlay. -/
structure Mirrors (c : Context) (m : Machine) (vars : Dictionary String) : Prop where
  coherent : m.overlay.Coherent
  get? (name : String) : vars.get? name = m.overlay.through c.vars name

namespace Direct

variable {α : Type}

/-- If the one computation succeeds, the other does the same on a copy. -/
def Mirroring (post : α → Prop) (x : Eval α) (y : Direct α) : Prop :=
  ∀ c m vars a m', Mirrors c m vars → x c m = .ok (a, m') →
    post a ∧ ∃ vars', y vars c.withoutVars m.withoutOverlay = .ok ((a, vars'), m'.withoutOverlay) ∧
      Mirrors c m' vars'

/-- A computation that neither writes variables nor reads them. -/
theorem mirroring_lift {post : α → Prop} {x : Eval α}
    (h : ∀ c m a m', x c m = .ok (a, m') → post a ∧ m'.overlay = m.overlay ∧
      x c.withoutVars m.withoutOverlay = .ok (a, m'.withoutOverlay)) :
    Mirroring post x (StateT.lift x) := by
  intro c m vars a m' hm hx
  obtain ⟨ha, ho, hy⟩ := h c m a m' hx
  -- The variables stay, and so does the overlay that they mirror.
  refine ⟨ha, vars, ?_, ?_, fun name => ?_⟩
  · rw [lift_apply, hy]
  · rw [ho]
    exact hm.coherent
  · rw [ho]
    exact hm.get? name

/-- A step goes along with itself. -/
theorem mirroring_tick : Mirroring (fun _ => True) tick tick := by
  refine mirroring_lift fun c m u m' h => ⟨trivial, by rw [Eval.eq_of_tick h], ?_⟩
  -- a step looks at nothing but the budgets, the clock and the number of steps
  change Eval.tick c m = _ at h
  change Eval.tick c.withoutVars m.withoutOverlay = _
  unfold Eval.tick at h ⊢
  simp only at h
  split at h
  · cases h
  · rename_i hsteps
    split at h
    · cases h
    · rename_i hclock
      cases h
      exact (if_neg hsteps).trans (if_neg hclock)

/-- What is read through the overlay is read from the copy. -/
theorem mirroring_stored? (name : String) :
    Mirroring (fun _ => True) (stored? name) (stored? name) := by
  intro c m vars text m' hm hx
  cases hx
  refine ⟨trivial, vars, ?_, hm⟩
  change Except.ok ((vars.get? name, vars), m.withoutOverlay) = _
  rw [hm.get? name]
  rfl

/-- What is written to the overlay is written to the copy. -/
theorem mirroring_store (name text : String) :
    Mirroring (fun _ => True) (store name text) (store name text) := by
  intro c m vars _ m' hm hx
  obtain ⟨o, ho, rfl⟩ := Eval.write_of_store hx
  refine ⟨trivial, vars.insert name text, rfl, hm.coherent.write ho, fun other => ?_⟩
  rw [Dictionary.get?_insert, Overlay.through_write ho, hm.get? other]

/-- Mirroring is kept in sequence. -/
def mirroring : Correspondence Eval Direct where
  Rel := Mirroring
  pure h := fun c m vars a m' hm hx => by
    cases hx
    exact ⟨h, vars, rfl, hm⟩
  bind {_ _ _ _ x y _ _} hx hf := fun c m vars b m₂ hm hb => by
    rw [Eval.bind_apply] at hb
    rcases hxm : x c m with e | ⟨a, m₁⟩
    all_goals rw [hxm] at hb
    · cases hb
    · obtain ⟨ha, vars₁, hy, hm₁⟩ := hx c m vars a m₁ hm hxm
      obtain ⟨hpost, vars₂, hg, hm₂⟩ := hf a ha c m₁ vars₁ b m₂ hm₁ hb
      refine ⟨hpost, vars₂, ?_, hm₂⟩
      rw [bind_apply, hy]
      exact hg
  fail e := fun _ _ _ _ _ _ hx => by cases hx
  tick := mirroring_tick

/-- Effects that leave the variables alone are the same on a copy. -/
theorem mirroring_plain {post : α → Prop} {x : Eval α} {a : Context → Machine → α}
    {f : Machine → Machine} (hpost : ∀ a, post a) (hx : ∀ c m, x c m = .ok (a c m, f m))
    (ha : ∀ c m, a c.withoutVars m.withoutOverlay = a c m)
    (hf : ∀ m, (f m).overlay = m.overlay ∧ f m.withoutOverlay = (f m).withoutOverlay) :
    Mirroring post x (StateT.lift x) :=
  mirroring_lift fun c m b m' h => by
    rw [hx] at h
    cases h
    exact ⟨hpost _, (hf m).1, by rw [hx, ha, (hf m).2]⟩

/-- Every effect is mirrored. -/
def mirror : Simulation Eval Direct True where
  toCorrespondence := mirroring
  loop := mirroring.loop <|
    mirroring_plain (fun _ => trivial) (fun _ _ => rfl) (fun _ _ => rfl) fun _ => ⟨rfl, rfl⟩
  note _ := mirroring_plain (fun _ => trivial) (fun _ _ => rfl) (fun _ _ => rfl) fun _ => ⟨rfl, rfl⟩
  stored? := mirroring_stored?
  store := mirroring_store
  redirectTo _ :=
    mirroring_plain (fun _ => trivial) (fun _ _ => rfl) (fun _ _ => rfl) fun _ => ⟨rfl, rfl⟩
  complete _ :=
    mirroring_plain (fun _ => trivial) (fun _ _ => rfl) (fun _ _ => rfl) fun _ => ⟨rfl, rfl⟩
  mode := mirroring_plain (fun _ _ => trivial) (fun _ _ => rfl) (fun _ _ => rfl) fun _ => ⟨rfl, rfl⟩
  client _ :=
    mirroring_plain (fun _ => trivial) (fun _ _ => rfl) (fun _ _ => rfl) fun _ => ⟨rfl, rfl⟩
  scopes :=
    mirroring_plain (fun _ => .of_pages trivial) (fun _ _ => rfl) (fun _ _ => rfl) fun _ =>
      ⟨rfl, rfl⟩
  setScopes _ :=
    mirroring_plain (fun _ => trivial) (fun _ _ => rfl) (fun _ _ => rfl) fun _ => ⟨rfl, rfl⟩

end Direct

/-- The statements of a program that succeed do the same on a copy of the variables, which then
holds what is read through the overlay. -/
theorem Program.mirrors_of_runAll {program : Program} {c : Context} {signal : Signal} {m : Machine}
    (h : (Statement.runAll program : Eval Signal) c {} = .ok (signal, m)) :
    ∃ vars, (Statement.runAll program : Direct Signal) c.vars c.withoutVars {} =
      .ok ((signal, vars), m.withoutOverlay) ∧ Mirrors c m vars := by
  have hstart : Mirrors c {} c.vars := ⟨.empty, fun _ => rfl⟩
  exact (Direct.mirror.runAll program c {} c.vars signal m hstart h).2

/-- A run that succeeds ends alike on a copy of the variables, which then holds what is read through
the overlay. -/
theorem Program.runDirectly_of_run {program : Program} {c : Context} {outcome : Outcome}
    (h : program.run c = .ok outcome) :
    ∃ m vars, program.runDirectly c = .ok ⟨outcome.redirectUrl, outcome.result, vars⟩ ∧
      outcome.mutations = m.overlay.mutations ∧ Mirrors c m vars := by
  unfold Program.run at h
  rcases hr : (Statement.runAll program : Eval Signal) c {} with e | ⟨signal, m⟩
  all_goals rw [hr] at h
  · cases h
  · cases h
    obtain ⟨vars, hd, hm⟩ := Program.mirrors_of_runAll hr
    -- The variables that the direct run ends with are those the overlay mirrors.
    refine ⟨m, vars, ?_, rfl, hm⟩
    unfold Program.runDirectly
    rw [hd]
    rfl

/-! ### What is read -/

/-- The text that an act writes to a variable. -/
def Act.written? (name : String) : Act → Option String
  | .wrote other text => if other = name then some text else none
  | _ => none

/-- The text that was written last to a variable. -/
def lastWrite? (name : String) (moments : List Moment) : Option String :=
  (moments.filterMap fun moment => moment.act.written? name).getLast?

/-- Every read finds what was written last, else what the session holds. -/
def ReadsLatest (vars : Dictionary String) (moments : List Moment) : Prop :=
  ∀ before name found machine after, moments = before ++ ⟨.read name found, machine⟩ :: after →
    found = (lastWrite? name before).or (vars.get? name)

/-- A moment that writes the name is its latest write. -/
theorem lastWrite?_concat (name : String) (moments : List Moment) (moment : Moment) :
    lastWrite? name (moments ++ [moment]) =
      (moment.act.written? name).or (lastWrite? name moments) := by
  unfold lastWrite?
  rw [List.filterMap_append]
  cases h : moment.act.written? name <;> simp [h]

/-- A log that reads the latest goes on by a moment that does. -/
theorem ReadsLatest.concat {vars : Dictionary String} {moments : List Moment} {moment : Moment}
    (h : ReadsLatest vars moments)
    (hm : ∀ name found, moment.act = .read name found →
      found = (lastWrite? name moments).or (vars.get? name)) :
    ReadsLatest vars (moments ++ [moment]) := by
  intro before name found machine after he
  rcases after.eq_nil_or_concat with rfl | ⟨after', last, rfl⟩
  · -- the read is the last moment
    obtain ⟨rfl, hl⟩ := List.append_inj' he rfl
    cases hl
    exact hm name found rfl
  · -- the read is an earlier moment
    rw [List.concat_eq_append, ← List.cons_append, ← List.append_assoc] at he
    exact h before name found machine after' (List.append_inj' he rfl).1

/-- Along a course the overlay holds what was written last, and so that is what is read. -/
theorem Course.reads {pages : Prop} {c : Context} {m : Machine} {log : List Moment}
    (h : Course pages c m log) :
    (∀ name, m.overlay.get? name = lastWrite? name log) ∧ ReadsLatest c.vars log := by
  induction h with
  | start =>
    refine ⟨fun _ => rfl, fun before name found machine after he => ?_⟩
    exact absurd he.symm (by simp)
  | @move m m' log act _ hm ih =>
    obtain ⟨hoverlay, hreads⟩ := ih
    cases hm with
    | read name =>
      refine ⟨fun other => ?_, hreads.concat fun other found he => ?_⟩
      · rw [lastWrite?_concat]
        exact hoverlay other
      · cases he
        rw [← hoverlay]
        rfl
    | @wrote name text o ho =>
      refine ⟨fun other => ?_, hreads.concat fun _ _ he => by cases he⟩
      rw [lastWrite?_concat, Overlay.get?_write ho, hoverlay]
      by_cases hn : other = name
      · simp [Act.written?, hn]
      · simp [Act.written?, hn, Ne.symm hn]
    | _ =>
      -- the other moves leave the overlay as it is
      refine ⟨fun other => ?_, hreads.concat fun _ _ he => by cases he⟩
      rw [lastWrite?_concat]
      exact hoverlay other

/-! ### The overlay and the session -/

/-- Setting the variables of an outcome writes them one after the other. -/
theorem vars_apply (outcome : Outcome) (t : Session.Turn) :
    (t.apply outcome).state.vars =
      outcome.mutations.foldl (fun vars e => vars.insert e.1 e.2) t.state.vars := by
  unfold Session.Turn.apply
  induction outcome.mutations generalizing t with
  | nil => rfl
  | cons e rest ih => exact ih (t.set e.1 e.2)

/-- A run that succeeds ends alike when it works on a copy of the variables instead of an overlay.
The copy then holds what the session holds once the variables of the outcome are set, in any order;
those that the outcome does not name are as before. All along the run, a read finds what was written
last under its name, else what the session holds. -/
theorem overlay_writes_through {program : Program} {c : Context} {outcome : Outcome}
    (h : program.run c = .ok outcome) :
    ∃ vars, program.runDirectly c = .ok ⟨outcome.redirectUrl, outcome.result, vars⟩ ∧
      (∀ (t : Session.Turn) writes, t.state.vars = c.vars → writes.Perm outcome.mutations →
        (t.apply { outcome with mutations := writes }).state.vars = vars) ∧
      (∀ name, name ∉ outcome.mutations.map Prod.fst → vars.get? name = c.vars.get? name) ∧
      (program.watch c).1 = .ok outcome ∧ ReadsLatest c.vars (program.watch c).2 := by
  obtain ⟨m, vars, hd, hmutations, hm⟩ := Program.runDirectly_of_run h
  -- The direct run, the names that are not written, and the watched run each have their own lemma.
  refine ⟨vars, hd, fun t writes ht hp => ?_, fun name hn => ?_, ?_, ?_⟩
  · rw [hmutations] at hp
    refine Dictionary.ext_get? fun name => ?_
    rw [vars_apply, ht, hm.get? name]
    exact Overlay.get?_written_out hm.coherent hp c.vars name
  · rw [hmutations] at hn
    rw [hm.get? name]
    unfold Overlay.through
    rw [← hm.coherent.lookup_mutations, Overlay.lookup_eq_none hn]
    rfl
  · rw [program.watch_outcome, h]
  · obtain ⟨m', hc, -⟩ := program.watch_course (fun _ => trivial : _ → True)
    exact hc.reads.2

namespace Greeting

/-- A script that greets a user by the nickname, if there is one. -/
def script : Program :=
  [.evaluate (.call (.name "setVariable")
      [.literal (.text "name"),
       .or (.member (.name "variables") "nick") (.literal (.text "you"))]),
   .assign (.member (.name "variables") "greeting") false (.literal (.text "Hello ")),
   .assign (.member (.name "variables") "greeting") true
     (.call (.name "getVariable") [.literal (.text "name")]),
   .finish (some (.call (.name "getVariable") [.literal (.text "greeting")]))]

/-- The session knows a nickname. -/
def context : Context where
  vars := Dictionary.empty.insert "nick" "Ada"
  mode := .server
  client := {}
  limits := {}
  elapsed := fun _ => 0

/-- What the script asks for. -/
def outcome : Outcome where
  mutations := [("name", "Ada"), ("greeting", "Hello Ada")]
  result := some "Hello Ada"

end Greeting

/-- The user is greeted by the nickname, and the session holds what a direct run writes. -/
theorem overlay_writes_through_greeting :
    ∃ vars, Greeting.script.runDirectly Greeting.context = .ok ⟨none, some "Hello Ada", vars⟩ ∧
      (∀ (t : Session.Turn) writes, t.state.vars = Greeting.context.vars →
        writes.Perm [("name", "Ada"), ("greeting", "Hello Ada")] →
        (t.apply { Greeting.outcome with mutations := writes }).state.vars = vars) ∧
      (∀ name, name ∉ ["name", "greeting"] →
        vars.get? name = Greeting.context.vars.get? name) ∧
      (Greeting.script.watch Greeting.context).1 = .ok Greeting.outcome ∧
      ReadsLatest Greeting.context.vars (Greeting.script.watch Greeting.context).2 :=
  have h : Greeting.script.run Greeting.context = .ok Greeting.outcome := by decide +kernel
  overlay_writes_through h

end Dialogue.Script
