import Dialogue.Proofs.Script.Overlay
import Dialogue.Proofs.Script.Watch

namespace Dialogue.Script

open Effects

/-!
# What does not depend on the steps

How many steps were taken before, which limits there are, and how fast the clock runs decides on
whether a run comes to an end. It does not decide on what it comes to. So an expression has one
value wherever it stands in a script, as long as the names and variables are the same.

* `Machine.Alike`, `Context.SameData`: machines that differ in their steps at most, and contexts
  that differ in their limits and clocks at most.
* `Eval.SameEnd`: two computations that come to the same, if they both come to something.
* `Eval.sameEnds`: this relates every two runs of an expression.
-/

/-- The machines differ in the number of steps at most. -/
structure Machine.Alike (m m' : Machine) : Prop where
  scopes : m'.scopes = m.scopes
  overlay : m'.overlay = m.overlay
  redirectUrl : m'.redirectUrl = m.redirectUrl
  completion : m'.completion = m.completion

/-- The contexts differ in limits and clocks at most. -/
structure Context.SameData (c c' : Context) : Prop where
  vars : c'.vars = c.vars
  mode : c'.mode = c.mode
  client : c'.client = c.client

namespace Eval

variable {c c' : Context} {α β : Type} {post : α → Prop} {post' : β → Prop}

/-- From machines that are alike, the two computations come to the same and leave machines that are
alike, if they both come to something. -/
def SameEnd (c c' : Context) (post : α → Prop) (x y : Eval α) : Prop :=
  ∀ m m', m.Alike m' → ∀ a n, x c m = .ok (a, n) → ∀ b n', y c' m' = .ok (b, n') →
    b = a ∧ n.Alike n' ∧ post a

/-- Parts succeed one after the other. -/
theorem bind_eq_ok_iff {x : Eval α} {f : α → Eval β} {m : Machine} {r : β × Machine} :
    (x >>= f) c m = .ok r ↔ ∃ a n, x c m = .ok (a, n) ∧ f a c n = .ok r := by
  rw [bind_apply]
  rcases hx : x c m with e | ⟨a, n⟩ <;> simp

/-- Returning ends alike. -/
theorem sameEnd_pure {a : α} (h : post a) : SameEnd c c' post (pure a) (pure a) := by
  rintro m m' hm _ _ ⟨⟩ _ _ ⟨⟩
  exact ⟨rfl, hm, h⟩

/-- What ends alike, part after part, ends alike as a whole. -/
theorem sameEnd_bind {x y : Eval α} {f g : α → Eval β} (hx : SameEnd c c' post x y)
    (hf : ∀ a, post a → SameEnd c c' post' (f a) (g a)) :
    SameEnd c c' post' (x >>= f) (y >>= g) := by
  intro m m' hm b n hb b' n' hb'
  obtain ⟨a, m₁, ha, hb⟩ := bind_eq_ok_iff.1 hb
  obtain ⟨a', m₁', ha', hb'⟩ := bind_eq_ok_iff.1 hb'
  obtain ⟨rfl, hm₁, hpost⟩ := hx m m' hm a m₁ ha a' m₁' ha'
  exact hf a' hpost m₁ m₁' hm₁ b n hb b' n' hb'

/-- A failure has no end to compare. -/
theorem sameEnd_fail (e : Failure) : SameEnd c c' post (fail e) (fail e) :=
  fun _ _ _ _ _ h => by cases h

/-- Steps are counted, and nothing else. -/
theorem sameEnd_tick : SameEnd c c' (fun _ => True) tick tick := by
  rintro m m' hm ⟨⟩ n hn ⟨⟩ n' hn'
  rw [eq_of_tick hn, eq_of_tick hn']
  exact ⟨rfl, ⟨hm.scopes, hm.overlay, hm.redirectUrl, hm.completion⟩, trivial⟩

/-- A limit may refuse a write, but it does not change one. -/
theorem sameEnd_store (name text : String) :
    SameEnd c c' (fun _ => True) (store name text) (store name text) := by
  rintro m m' hm ⟨⟩ n hn ⟨⟩ n' hn'
  obtain ⟨o, ho, rfl⟩ := write_of_store hn
  obtain ⟨o', ho', rfl⟩ := write_of_store hn'
  rw [hm.overlay] at ho'
  have hsame : o' = o := (Overlay.eq_of_write ho').trans (Overlay.eq_of_write ho).symm
  exact ⟨rfl, ⟨hm.scopes, hsame, hm.redirectUrl, hm.completion⟩, trivial⟩

/-- A computation that reads what the machines have in common. -/
theorem sameEnd_read {x : Eval α} {get : Context → Machine → α}
    (hx : ∀ c m, x c m = .ok (get c m, m)) (hpost : ∀ c m, post (get c m))
    (h : ∀ m m', m.Alike m' → get c' m' = get c m) : SameEnd c c' post x x := by
  intro m m' hm a n ha b n' hb
  rw [hx] at ha hb
  cases ha
  cases hb
  exact ⟨h m m' hm, hm, hpost c m⟩

/-- A computation that sets what the machines have in common. -/
theorem sameEnd_set {x : Eval Unit} {set : Machine → Machine}
    (hx : ∀ c m, x c m = .ok ((), set m)) (h : ∀ m m', m.Alike m' → (set m).Alike (set m')) :
    SameEnd c c' (fun _ => True) x x := by
  rintro m m' hm ⟨⟩ n ha ⟨⟩ n' hb
  rw [hx] at ha hb
  cases ha
  cases hb
  exact ⟨rfl, h m m' hm, trivial⟩

/-- To come to the same is kept in sequence. -/
def endings (c c' : Context) : Correspondence Eval Eval where
  Rel := SameEnd c c'
  pure := sameEnd_pure
  bind := sameEnd_bind
  fail := sameEnd_fail
  tick := sameEnd_tick

/-- Loops that have turns enough do not show how many they have. -/
theorem sameEnd_repeatWhile {condition condition' : Eval Value} {body body' : Eval Signal}
    (hcondition : SameEnd c c' (Value.Fits True) condition condition')
    (hbody : SameEnd c c' (Signal.Fits True) body body') (turns turns' : Nat) :
    SameEnd c c' (Signal.Fits True) (repeatWhile condition body turns)
      (repeatWhile condition' body' turns') := by
  -- On the turns of both. Where either runs out of turns there is no end to compare.
  induction turns generalizing turns' with
  | zero => exact fun _ _ _ _ _ h => by cases h
  | succ turns ih =>
    cases turns' with
    | zero => exact fun _ _ _ _ _ _ _ _ h => by cases h
    | succ turns' =>
      refine sameEnd_bind hcondition fun v _ => ?_
      split
      · exact sameEnd_bind sameEnd_tick fun _ _ => (endings c c').andThen hbody (ih turns')
      · exact sameEnd_pure trivial

/-- Loops end alike, however many turns each may take. -/
theorem sameEnd_loop {condition condition' : Eval Value} {body body' : Eval Signal}
    (hcondition : SameEnd c c' (Value.Fits True) condition condition')
    (hbody : SameEnd c c' (Signal.Fits True) body body') :
    SameEnd c c' (Signal.Fits True) (stepsLeft >>= repeatWhile condition body)
      (stepsLeft >>= repeatWhile condition' body') := by
  intro m m' hm a n ha b n' hb
  obtain ⟨turns, _, hturns, ha⟩ := bind_eq_ok_iff.1 ha
  obtain ⟨turns', _, hturns', hb⟩ := bind_eq_ok_iff.1 hb
  cases hturns
  cases hturns'
  exact sameEnd_repeatWhile hcondition hbody _ _ m m' hm a n ha b n' hb

/-- In contexts that are alike every effect comes to the same. -/
def sameEnds (h : c.SameData c') : Simulation Eval Eval True where
  toCorrespondence := endings c c'
  loop := sameEnd_loop
  note _ := sameEnd_set (fun _ _ => rfl) fun _ _ hm => hm
  stored? name := sameEnd_read (fun _ _ => rfl) (fun _ _ => trivial) fun m m' hm => by
    rw [hm.overlay, h.vars]
  store := sameEnd_store
  redirectTo url := sameEnd_set (fun _ _ => rfl) fun _ _ hm =>
    ⟨hm.scopes, hm.overlay, rfl, hm.completion⟩
  complete {value} _ := sameEnd_set (fun _ _ => rfl) fun _ _ hm =>
    ⟨hm.scopes, hm.overlay, hm.redirectUrl, rfl⟩
  mode := sameEnd_read (fun _ _ => rfl) (fun _ _ _ => trivial) fun _ _ _ => h.mode
  client _ := sameEnd_read (fun _ _ => rfl) (fun _ _ => trivial) fun _ _ _ => h.client
  scopes := sameEnd_read (fun _ _ => rfl) (fun _ _ => Scopes.Fits.of_pages trivial)
    fun _ _ hm => hm.scopes
  setScopes {s} _ := sameEnd_set (fun _ _ => rfl) fun _ _ hm =>
    ⟨rfl, hm.overlay, hm.redirectUrl, hm.completion⟩

end Eval

/-- An expression has one value, and one effect but for the steps, wherever it comes to one. -/
theorem Expr.eval_alike {c c' : Context} (h : c.SameData c') (e : Expr) {m m' n n' : Machine}
    (hm : m.Alike m') {v v' : Value} (hv : (e.eval : Eval Value) c m = .ok (v, n))
    (hv' : (e.eval : Eval Value) c' m' = .ok (v', n')) : v' = v ∧ n.Alike n' := by
  obtain ⟨hsame, hn, -⟩ := (Eval.sameEnds h).eval e m m' hm v n hv v' n' hv'
  exact ⟨hsame, hn⟩

end Dialogue.Script
