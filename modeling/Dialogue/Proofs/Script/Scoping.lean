import Dialogue.Proofs.Script.Placed
import Dialogue.Proofs.Script.Slots

namespace Dialogue.Script

open Effects

/-!
# Blocks do not leak

A block opens a scope, runs its statements and closes the scope again, also when a statement in it
ends the script. Names that are introduced in it are gone with it. What reaches the scopes around it
are assignments to names that it has not introduced; such an assignment sets the name where it was
introduced, and adds a global if that is nowhere.

* `Statement.assigns`: whether a statement assigns to a name that it has not introduced.
* `Eval.keeping`: expressions leave the scopes alone.
* `Statement.rescopes_run_and_runAll`: what statements do to scopes.
* `Statement.Confined`: what a statement leaves of the scopes around its blocks.
* `blocks_do_not_leak`: scopes are balanced, and a name that a block introduces hides the same name
  outside of it.
-/

/-! ### Names that are assigned to -/

/-- The name that a statement introduces where it stands. -/
def Statement.declared? : Statement → Option String
  | .declare name _ => some name
  | _ => none

mutual

/-- Whether a statement assigns to a name that it has not introduced itself. -/
def Statement.assigns (name : String) : Statement → Bool
  | .assign (.name other) _ _ => other == name
  | .choose _ yes no => Statement.assignsIn name yes || Statement.assignsIn name no
  | .repeat _ body => Statement.assignsIn name body
  | .block body => Statement.assignsIn name body
  | _ => false

/-- Whether statements assign to a name that they have not introduced before. -/
def Statement.assignsIn (name : String) : List Statement → Bool
  | [] => false
  | s :: rest => s.assigns name || (s.declared? != some name && Statement.assignsIn name rest)

end

/-! ### Expressions -/

namespace Eval

variable {α β : Type} {post : α → Prop} {R : Scopes → Scopes → Prop} {x : Eval α} {f : α → Eval β}

/-- A computation that leaves the scopes as they are. -/
def KeepsScopes (post : α → Prop) (x : Eval α) : Prop :=
  ∀ c m a m', x c m = .ok (a, m') → post a ∧ m'.scopes = m.scopes

/-- A computation by which scopes change in a certain way. -/
def Rescopes (R : Scopes → Scopes → Prop) (x : Eval α) : Prop :=
  ∀ c m a m', x c m = .ok (a, m') → R m.scopes m'.scopes

/-- What never writes the scopes keeps them. -/
theorem keepsScopes_of (hpost : ∀ a, post a)
    (h : ∀ c m a m', x c m = .ok (a, m') → m'.scopes = m.scopes) : KeepsScopes post x :=
  fun c m a m' hx => ⟨hpost a, h c m a m' hx⟩

/-- Keeping the scopes goes through one part after another. -/
theorem keepsScopes_bind {post' : β → Prop} (hx : KeepsScopes post x)
    (hf : ∀ a, post a → KeepsScopes post' (f a)) : KeepsScopes post' (x >>= f) := by
  intro c m b m' h
  obtain ⟨a, n, ha, hb⟩ := bind_eq_ok_iff.1 h
  obtain ⟨hpost, hn⟩ := hx c m a n ha
  obtain ⟨hpost', hm'⟩ := hf a hpost c n b m' hb
  exact ⟨hpost', hm'.trans hn⟩

/-- To leave the scopes as they are is kept in sequence, and all effects of expressions do. -/
def keeping : Evaluation Eval Eval True where
  Rel post x _ := KeepsScopes post x
  pure h := fun _ _ _ _ hx => by cases hx; exact ⟨h, rfl⟩
  bind := keepsScopes_bind
  fail _ := fun _ _ _ _ hx => by cases hx
  tick := keepsScopes_of (fun _ => trivial) fun _ _ _ _ hx => by rw [eq_of_tick hx]
  note _ := keepsScopes_of (fun _ => trivial) fun _ _ _ _ hx => by cases hx; rfl
  stored? _ := keepsScopes_of (fun _ => trivial) fun _ _ _ _ hx => by cases hx; rfl
  store _ _ := keepsScopes_of (fun _ => trivial) fun _ _ _ _ hx => by
    obtain ⟨o, -, rfl⟩ := write_of_store hx
    rfl
  redirectTo _ := keepsScopes_of (fun _ => trivial) fun _ _ _ _ hx => by cases hx; rfl
  mode := keepsScopes_of (fun _ _ => trivial) fun _ _ _ _ hx => by cases hx; rfl
  client _ := keepsScopes_of (fun _ => trivial) fun _ _ _ _ hx => by cases hx; rfl
  scopes := keepsScopes_of (fun _ => .of_pages trivial) fun _ _ _ _ hx => by cases hx; rfl

/-! ### What computations do to scopes -/

/-- What holds of the scopes before and after may be weakened. -/
theorem Rescopes.mono {R' : Scopes → Scopes → Prop} (h : Rescopes R x)
    (hR : ∀ s s', R s s' → R' s s') : Rescopes R' x :=
  fun c m a m' hx => hR _ _ (h c m a m' hx)

/-- What keeps the scopes may come before. -/
theorem KeepsScopes.before (hx : KeepsScopes post x) (hf : ∀ a, Rescopes R (f a)) :
    Rescopes R (x >>= f) := by
  intro c m b m' h
  obtain ⟨a, n, ha, hb⟩ := bind_eq_ok_iff.1 h
  rw [← (hx c m a n ha).2]
  exact hf a c n b m' hb

/-- What keeps the scopes may come after. -/
theorem Rescopes.andThen (hx : Rescopes R x) (hf : ∀ a, KeepsScopes (fun _ => True) (f a)) :
    Rescopes R (x >>= f) := by
  intro c m b m' h
  obtain ⟨a, n, ha, hb⟩ := bind_eq_ok_iff.1 h
  rw [(hf a c n b m' hb).2]
  exact hx c m a n ha

/-- Scopes that are kept are changed at most as seen from outside. -/
theorem KeepsScopes.outside (h : KeepsScopes post x) (may : String → Prop) :
    Rescopes (Scopes.Outside may) x := by
  intro c m a m' hx
  rw [(h c m a m' hx).2]
  exact .refl may m.scopes

/-! ### Statements -/

/-- A block is run with an empty scope in front, which is closed however its statements end. -/
theorem inBlock_eq_ok_iff {c : Context} {m m' : Machine} {a : α} :
    inBlock x c m = .ok (a, m') ↔
      ∃ n, x c { m with scopes := m.scopes.enter } = .ok (a, n) ∧
        m' = { n with scopes := n.scopes.leave } := by
  constructor
  · intro h
    obtain ⟨_, _, hscopes, h⟩ := bind_eq_ok_iff.1 h
    cases hscopes
    obtain ⟨_, _, henter, h⟩ := bind_eq_ok_iff.1 h
    cases henter
    obtain ⟨a', n, hx, h⟩ := bind_eq_ok_iff.1 h
    cases h
    exact ⟨n, hx, rfl⟩
  -- Leaving reads the scopes that the block came to.
  · rintro ⟨n, hx, rfl⟩
    have hrest : (x >>= fun a => scopes >>= fun s => setScopes s.leave >>= fun _ => pure a) c
        { m with scopes := m.scopes.enter } = .ok (a, { n with scopes := n.scopes.leave }) :=
      bind_eq_ok_iff.2 ⟨a, n, hx, rfl⟩
    exact hrest

/-- Inside a block names may be added to its own scope, which is dropped at the end. -/
theorem rescopes_inBlock {may : String → Prop} (h : Rescopes (Scopes.Inside may) x) :
    Rescopes (Scopes.Outside may) (inBlock x) := by
  intro c m a m' hx
  obtain ⟨n, hn, rfl⟩ := inBlock_eq_ok_iff.1 hx
  exact (h c _ a n hn).leave

/-- Turn after turn, a loop does to the scopes around it what its body does. -/
theorem rescopes_repeatWhile {may : String → Prop} {condition : Eval Value} {body : Eval Signal}
    (hcondition : KeepsScopes (Value.Fits True) condition)
    (hbody : Rescopes (Scopes.Outside may) body) (turns : Nat) :
    Rescopes (Scopes.Outside may) (repeatWhile condition body turns) := by
  -- On the turns: each one is a block, and what the blocks do one after the other adds up.
  induction turns with
  | zero => exact fun _ _ _ _ h => by cases h
  | succ turns ih =>
    refine hcondition.before fun v => ?_
    split
    · refine keeping.tick.before fun _ c m signal m' h => ?_
      obtain ⟨first, n, hturn, hrest⟩ := bind_eq_ok_iff.1 h
      have hfirst := hbody c m first n hturn
      cases first with
      | next => exact hfirst.trans (ih c n signal m' hrest)
      | finish v =>
        cases hrest
        exact hfirst
    · have hend : KeepsScopes (Signal.Fits True) (pure .next) := keeping.pure trivial
      exact hend.outside may

/-- A name that was introduced nowhere becomes a global, unless it is that of a built-in. -/
theorem rescopes_assignGlobal (name : String) (v : Value) :
    Rescopes (fun s s' => s.assign? name v = none → s.Outside (name = ·) s')
      (assignGlobal name v) := by
  unfold assignGlobal
  -- The location redirects, a builtin is refused, and any other name becomes a global.
  split
  case h_1 =>
    have hredirect : KeepsScopes (fun _ => True) (requireClient "location" >>= fun _ =>
        redirect v) := keeping.bind (keeping.requireClient _) fun _ _ => keeping.redirect v
    exact (hredirect.outside _).mono fun _ _ h _ => h
  case h_8 =>
    intro c m u m' h hassign
    cases h
    exact Scopes.outside_of_assigned (Scopes.slots_setGlobal_of_assign? hassign)
  all_goals exact fun _ _ _ _ h => by cases h

/-- An assignment sets the name where it was introduced, or adds a global. -/
theorem rescopes_assignName (name : String) (v : Value) :
    Rescopes (Scopes.Outside (name = ·)) (assignName name v) := by
  intro c m u m' h
  obtain ⟨_, _, hscopes, h⟩ := bind_eq_ok_iff.1 h
  cases hscopes
  -- The name is found in the scopes, or it is assigned as a global.
  cases hassign : m.scopes.assign? name v with
  | some s' =>
    rw [hassign] at h
    cases h
    exact Scopes.outside_of_assigned (Scopes.slots_assign? hassign)
  | none =>
    rw [hassign] at h
    exact rescopes_assignGlobal name v c m u m' h hassign

/-- An assignment reaches the name it assigns to, and no other one. -/
theorem rescopes_assign (target : Target) (append : Bool) (value : Expr) :
    Rescopes (Scopes.Outside fun name => (Statement.assign target append value).assigns name)
      (target.assign append value) := by
  cases target with
  | name n =>
    refine KeepsScopes.before (keeping.eval value) fun v => ?_
    have hv : v.Fits True := .of_pages trivial
    refine KeepsScopes.before (keeping.appended append (keeping.lookup n) hv) fun w => ?_
    refine (rescopes_assignName n w).mono fun s s' h => h.mono fun name hname => ?_
    simp [Statement.assigns, hname]
  | member object property => exact (keeping.assignMember append value object property).outside _
  | index object i => exact (keeping.assignIndex append value object i).outside _

end Eval

namespace Statement

open Eval

variable {c : Context} {m m' : Machine} {signal : Signal} {name : String} {value : Option Expr}
  {s : Statement} {rest : Program}

/-- The names that a statement assigns to without having introduced them. -/
abbrev Reaches (s : Statement) (name : String) : Prop := s.assigns name = true

/-- The names that statements assign to without having introduced them before. -/
abbrev ReachIn (body : Program) (name : String) : Prop := assignsIn name body = true

/-- A branch reaches what one of its bodies reaches. -/
theorem reaches_choose {condition : Expr} {yes no : Program} :
    (choose condition yes no).Reaches name ↔ ReachIn yes name ∨ ReachIn no name := by
  simp [Reaches, ReachIn, assigns]

/-- A list reaches what its head reaches, and behind a declaration of that name nothing more. -/
theorem reachIn_cons : ReachIn (s :: rest) name ↔
    s.Reaches name ∨ ¬s.declared? = some name ∧ ReachIn rest name := by
  simp [Reaches, ReachIn, assignsIn]

/-- A declaration puts its name into the innermost scope. -/
theorem run_declare (h : ((declare name value).run : Eval Signal) c m = .ok (signal, m')) :
    ∃ v, m'.scopes = m.scopes.declare name v := by
  rw [run] at h
  obtain ⟨⟨⟩, n, htick, h⟩ := bind_eq_ok_iff.1 h
  obtain ⟨v, n', hv, h⟩ := bind_eq_ok_iff.1 h
  cases h
  have hvalue := (keeping.evalOptional value c n v n' hv).2
  exact ⟨v, by rw [hvalue, eq_of_tick htick]⟩

/-- What a statement does to the slots of a name. If it introduces the name, the innermost slot
holds something afterwards. -/
theorem inside_of_run
    (hs : s.declared? = none → Rescopes (Scopes.Outside s.Reaches) (s.run : Eval Signal))
    (h : (s.run : Eval Signal) c m = .ok (signal, m')) (name : String) :
    Slots.Inside (s.Reaches name) (m.scopes.slots name) (m'.scopes.slots name) ∧
      (s.declared? = some name → ∃ v outer, m'.scopes.slots name = some v :: outer) := by
  cases hdeclared : s.declared? with
  | none => exact ⟨(hs hdeclared c m signal m' h).inside name, fun hname => by cases hname⟩
  | some other =>
    cases s with
    | declare other' value =>
      cases hdeclared
      obtain ⟨v, hv⟩ := run_declare h
      rw [hv]
      refine ⟨(Scopes.inside_declare m.scopes other v name).mono False.elim, fun hname => ?_⟩
      cases hname
      exact ⟨v, _, by rw [Scopes.slots_declare, if_pos rfl]⟩
    | _ => cases hdeclared

/-- A branch runs one of its bodies as a block. -/
theorem rescopes_choose {condition : Expr} {yes no : Program}
    (hyes : Rescopes (Scopes.Inside (ReachIn yes)) (runAll yes : Eval Signal))
    (hno : Rescopes (Scopes.Inside (ReachIn no)) (runAll no : Eval Signal)) :
    Rescopes (Scopes.Outside (choose condition yes no).Reaches)
      ((choose condition yes no).run : Eval Signal) := by
  rw [run]
  refine keeping.tick.before fun _ => KeepsScopes.before (keeping.eval condition) fun v => ?_
  split
  · refine (rescopes_inBlock hyes).mono fun s s' h => h.mono fun name hname => ?_
    exact reaches_choose.2 (.inl hname)
  · refine (rescopes_inBlock hno).mono fun s s' h => h.mono fun name hname => ?_
    exact reaches_choose.2 (.inr hname)

/-- A loop runs its body as a block, turn by turn. -/
theorem rescopes_repeat {condition : Expr} {body : Program}
    (h : Rescopes (Scopes.Inside (ReachIn body)) (runAll body : Eval Signal)) :
    Rescopes (Scopes.Outside (Statement.repeat condition body).Reaches)
      ((Statement.repeat condition body).run : Eval Signal) := by
  rw [run]
  have hturns : KeepsScopes (fun _ => True) (stepsLeft : Eval Nat) :=
    keepsScopes_of (fun _ => trivial) fun _ _ _ _ h => by cases h; rfl
  refine keeping.tick.before fun _ => hturns.before fun turns => ?_
  exact rescopes_repeatWhile (keeping.eval condition) (rescopes_inBlock h) turns

/-- A statement and those behind it: what the first one introduces, the others do not reach. -/
theorem rescopes_runAll_cons
    (hs : s.declared? = none → Rescopes (Scopes.Outside s.Reaches) (s.run : Eval Signal))
    (hrest : Rescopes (Scopes.Inside (ReachIn rest)) (runAll rest : Eval Signal)) :
    Rescopes (Scopes.Inside (ReachIn (s :: rest))) (runAll (s :: rest) : Eval Signal) := by
  intro c m signal m' h name
  rw [runAll] at h
  obtain ⟨first, n, hfirst, hmore⟩ := bind_eq_ok_iff.1 h
  obtain ⟨hinside, hdeclared⟩ := inside_of_run hs hfirst name
  rw [reachIn_cons]
  cases first with
  | next => exact hinside.cons hdeclared (hrest c n signal m' hmore name)
  | finish v =>
    -- the statements behind do not run
    cases hmore
    exact hinside.mono .inl

/-- A statement that introduces no name does to the scopes around it what its assignments do. -/
theorem rescopes_run_and_runAll :
    (∀ s : Statement, s.declared? = none →
      Rescopes (Scopes.Outside s.Reaches) (s.run : Eval Signal)) ∧
    ∀ body : Program, Rescopes (Scopes.Inside (ReachIn body)) (runAll body : Eval Signal) := by
  -- The cases are those of `Statement.run`, in its order, and then those of a list of statements.
  apply run.mutual_induct
    (fun s => s.declared? = none → Rescopes (Scopes.Outside s.Reaches) (s.run : Eval Signal))
    (fun body => Rescopes (Scopes.Inside (ReachIn body)) (runAll body : Eval Signal))
  case case1 =>
    -- a declaration introduces a name
    intro name value h
    cases h
  case case2 =>
    intro target append value _
    rw [run]
    exact keeping.tick.before fun _ => (rescopes_assign target append value).andThen fun _ =>
      keeping.pure trivial
  case case3 => exact fun _ _ _ ihy ihn _ => rescopes_choose ihy ihn
  case case4 => exact fun _ _ ih _ => rescopes_repeat ih
  case case5 =>
    -- `return` only computes its value
    intro value _
    rw [run]
    have hvalue : KeepsScopes (fun _ => True) (do return Signal.finish (← evalOptional value)) :=
      keeping.bind (keeping.evalOptional value) fun _ _ => keeping.pure trivial
    exact keeping.tick.before fun _ => hvalue.outside _
  case case6 =>
    -- `throw` comes to no end
    intro value _
    rw [run]
    refine keeping.tick.before fun _ => KeepsScopes.before (keeping.eval value) fun _ => ?_
    exact fun _ _ _ _ h => by cases h
  case case7 =>
    -- an expression computes its value, which the machine keeps beside the scopes
    intro value _
    rw [run]
    refine keeping.tick.before fun _ => KeepsScopes.before (keeping.eval value) fun v => ?_
    intro c m signal m' h
    cases h
    exact .refl _ _
  case case8 =>
    intro body ih _
    rw [run]
    exact keeping.tick.before fun _ => rescopes_inBlock ih
  case case9 =>
    intro c m signal m' h
    rw [runAll] at h
    cases h
    exact (Scopes.Outside.refl _ _).inside
  case case10 => exact fun _ _ ihs ihr => rescopes_runAll_cons ihs ihr

/-- What a statement does to scopes, one that introduces a name included. -/
theorem rescopes_run (s : Statement) :
    Rescopes (Scopes.Inside s.Reaches) (s.run : Eval Signal) :=
  fun _ _ _ _ h name => (inside_of_run (rescopes_run_and_runAll.1 s) h name).1

/-- What comes after statements that have not ended the script. -/
theorem runAll_append {before : Program} (h : (runAll before : Eval Signal) c m = .ok (.next, m')) :
    (runAll (before ++ rest) : Eval Signal) c m = (runAll rest : Eval Signal) c m' := by
  induction before generalizing m with
  | nil =>
    rw [runAll] at h
    cases h
    rfl
  | cons s before ih =>
    rw [runAll] at h
    obtain ⟨first, n, hs, hbefore⟩ := bind_eq_ok_iff.1 h
    rw [List.cons_append, runAll, bind_apply, hs]
    cases first with
    | next => exact ih hbefore
    | finish v => cases hbefore

/-- From the introduction of a name on, the slots of the name around stay as they are. -/
theorem tail_slots_of_declare
    (h : (runAll (declare name value :: rest) : Eval Signal) c m = .ok (signal, m')) :
    (m'.scopes.slots name).tail = (m.scopes.slots name).tail := by
  rw [runAll] at h
  obtain ⟨first, n, hfirst, hrest⟩ := bind_eq_ok_iff.1 h
  obtain ⟨v, hv⟩ := run_declare hfirst
  have hn : n.scopes.slots name = some v :: (m.scopes.slots name).tail := by
    rw [hv, Scopes.slots_declare, if_pos rfl]
  cases first with
  | next =>
    have hinside := rescopes_run_and_runAll.2 rest c n signal m' hrest name
    rw [hn] at hinside
    obtain ⟨w, hw⟩ := hinside.of_declared
    rw [hw, List.tail_cons]
  | finish v =>
    cases hrest
    rw [hn, List.tail_cons]

end Statement

/-! ### Blocks do not leak -/

/-- Scopes before and after a statement whose blocks do not leak. -/
structure Statement.Confined (s : Statement) (before after : Scopes) : Prop where
  /-- Each of the blocks around has the names that it had. -/
  blocks : after.blocks.map Dictionary.names = before.blocks.map Dictionary.names
  /-- No global is lost. -/
  globals : before.globals.names ⊆ after.globals.names
  /-- A new global is assigned to, and was introduced nowhere. -/
  added : ∀ name ∈ after.globals.names, name ∉ before.globals.names →
    s.Reaches name ∧ before.find? name = none
  /-- Where a statement assigns to a name only behind its own introduction of it, the name has
  around it all the values that it had. -/
  values : ∀ name, ¬s.Reaches name → after.slots name = before.slots name

/-- Seen from outside, the blocks keep their names, and only names that are nowhere are added. -/
theorem Statement.confined_of_outside {s : Statement} {before after : Scopes}
    (h : before.Outside s.Reaches after) : s.Confined before after where
  blocks := Scopes.names_blocks fun name => (h name).declared.1
  globals name := by
    rw [Dictionary.mem_names_iff, Dictionary.mem_names_iff]
    exact (h name).declared.2.1
  added name hafter hbefore := by
    rw [Dictionary.mem_names_iff] at hafter hbefore
    obtain hold | ⟨hreaches, hblocks⟩ := (h name).declared.2.2 hafter
    · contradiction
    -- The slots of a name are those of the blocks and the one of the globals.
    · refine ⟨hreaches, ?_⟩
      rw [Scopes.find?_eq, List.findSome?_eq_none_iff]
      intro slot hslot
      rcases List.mem_append.1 hslot with hslot | hslot
      · exact hblocks slot hslot
      · rw [List.mem_singleton.1 hslot]
        simpa using hbefore
  values name hname := by
    have hslots := h name
    generalize after.slots name = slots at hslots ⊢
    cases hslots with
    | kept => rfl
    | assigned hreaches => contradiction

/-- Scopes are balanced, and blocks do not leak. A statement that comes to an end leaves as many
scopes as there were. Unless it introduces a name where it stands, the scopes around have the names
and values that they had, but for assignments to names that it has not introduced; these may add
globals. Blocks, branches and the turns of loops are run in scopes of their own: from where one of
them introduces a name until it is left, in whatever way, the name outside keeps its values. -/
theorem blocks_do_not_leak :
    (∀ (s : Statement) (c : Context) (m : Machine) (signal : Signal) (m' : Machine),
      (s.run : Eval Signal) c m = .ok (signal, m') →
        m'.scopes.height = m.scopes.height ∧
        (s.declared? = none → s.Confined m.scopes m'.scopes)) ∧
    ∀ (before : Program) (name : String) (value : Option Expr) (rest : Program) (c : Context)
      (m m₁ : Machine) (signal : Signal) (m' : Machine),
      (Statement.runAll before : Eval Signal) c { m with scopes := m.scopes.enter } =
        .ok (.next, m₁) →
      (inBlock (Statement.runAll (before ++ .declare name value :: rest)) : Eval Signal) c m =
        .ok (signal, m') →
      m'.scopes.slots name = m₁.scopes.leave.slots name := by
  constructor
  · intro s c m signal m' h
    -- A statement that is no declaration stands as it is seen from outside.
    refine ⟨(s.rescopes_run c m signal m' h).height_eq, fun hdeclared => ?_⟩
    exact Statement.confined_of_outside
      (Statement.rescopes_run_and_runAll.1 s hdeclared c m signal m' h)
  · intro before name value rest c m m₁ signal m' hbefore h
    -- Both runs start in the new scope, and the second one goes on where the first one ended.
    obtain ⟨n, hn, rfl⟩ := Eval.inBlock_eq_ok_iff.1 h
    have hinside := Statement.rescopes_run_and_runAll.2 _ c _ signal n hn
    have hinside₁ := Statement.rescopes_run_and_runAll.2 before c _ .next m₁ hbefore
    rw [Statement.runAll_append hbefore] at hn
    rw [Scopes.slots_leave hinside.blocks_ne_nil, Scopes.slots_leave hinside₁.blocks_ne_nil]
    exact Statement.tail_slots_of_declare hn

namespace Doorman

/-- The body of a loop: it greets a guest of its own, and the second time round it ends the script
with the greeting. -/
def greeting : Program :=
  [.declare "name" (some (.literal (.text "guest"))),
   .assign (.name "name") true (.literal (.text "!")),
   .choose (.name "seen") [.finish (some (.name "name"))] [],
   .assign (.name "seen") false (.name "name"),
   .assign (.name "greeted") false (.name "name")]

def loop : Statement := .repeat (.literal (.bool true)) greeting

def context : Context where
  vars := .empty
  mode := .server
  client := {}
  limits := {}
  elapsed := fun _ => 0

/-- A block around the loop has the name as well. -/
def machine : Machine where
  scopes :=
    { blocks := [Dictionary.empty.insert "name" (.text "Ada")]
      globals := Dictionary.empty.insert "seen" (.text "") }

end Doorman

/-- A run whose outcome is known ends. -/
theorem Eval.exists_end {x : Eval Signal} {c : Context} {m : Machine} {outcome : Outcome}
    (h : (x c m).map (fun r => r.2.outcome r.1) = .ok outcome) :
    ∃ signal m', x c m = .ok (signal, m') ∧ m'.outcome signal = outcome := by
  rcases hx : x c m with e | ⟨signal, m'⟩
  all_goals rw [hx] at h
  · cases h
  · exact ⟨signal, m', rfl, Except.ok.inj h⟩

/-- The loop ends the script from within its block, and a turn of it is left at its end. The name
around is as it was. -/
theorem blocks_do_not_leak_doorman :
    (∃ signal m', (Doorman.loop.run : Eval Signal) Doorman.context Doorman.machine =
        .ok (signal, m') ∧ m'.outcome signal = { result := some "guest!" } ∧
      m'.scopes.height = 2 ∧ m'.scopes.blocks.map Dictionary.names = [["name"]] ∧
      m'.scopes.slots "name" = [some (.text "Ada"), none]) ∧
    ∃ signal m', (inBlock (Statement.runAll Doorman.greeting) : Eval Signal) Doorman.context
        Doorman.machine = .ok (signal, m') ∧ m'.outcome signal = {} ∧
      m'.scopes.slots "name" = [some (.text "Ada"), none] := by
  constructor
  · obtain ⟨signal, m', hrun, houtcome⟩ : ∃ signal m', (Doorman.loop.run : Eval Signal)
        Doorman.context Doorman.machine = .ok (signal, m') ∧
          m'.outcome signal = { result := some "guest!" } :=
      Eval.exists_end (by decide +kernel)
    obtain ⟨hheight, hconfined⟩ := blocks_do_not_leak.1 _ _ _ _ _ hrun
    have hloop := hconfined rfl
    refine ⟨signal, m', hrun, houtcome, hheight, ?_, ?_⟩
    · rw [hloop.blocks]
      rfl
    · rw [hloop.values "name" (by decide)]
      rfl
  · obtain ⟨signal, m', hrun, houtcome⟩ : ∃ signal m',
        (inBlock (Statement.runAll Doorman.greeting) : Eval Signal) Doorman.context
          Doorman.machine = .ok (signal, m') ∧ m'.outcome signal = {} :=
      Eval.exists_end (by decide +kernel)
    refine ⟨signal, m', hrun, houtcome, ?_⟩
    rw [blocks_do_not_leak.2 [] "name" _ _ _ _ _ _ _ rfl hrun]
    rfl

end Dialogue.Script
