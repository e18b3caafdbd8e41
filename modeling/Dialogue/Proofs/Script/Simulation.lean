import Dialogue.Script.Run

namespace Dialogue.Script

open Effects

/-!
# Simulations between kinds of computation

The interpreter is written against the effects of a script. So whatever relates the effects of two
kinds of computation, and is kept by doing one thing after the other, relates every two runs of a
program.

* `Value.Fits`, `Scopes.Fits`: a page object comes up only where pages may be seen.
* `Correspondence`: when a computation of one kind goes along with one of another.
* `Evaluation`, `Evaluation.eval`: where the effects of expressions go along with themselves, so do
  expressions.
* `Simulation`, `Simulation.runAll`: where the effects of statements do as well, so do programs.
-/

variable {pages : Prop}

/-! ### Page objects -/

/-- The objects that stand for a page and its parts. -/
def Host.isPage : Host → Bool
  | .window | .location | .navigator | .document => true
  | _ => false

/-- The values that stand for a page and its parts. -/
def Value.isPage : Value → Bool
  | .host h => h.isPage
  | _ => false

/-- A value that may come up: page objects come up only if `pages`. -/
def Value.Fits (pages : Prop) (v : Value) : Prop := v.isPage = true → pages

namespace Value

/-- A value that is no page fits whether or not there are pages. -/
theorem Fits.of_plain {v : Value} (h : v.isPage = false) : v.Fits pages := fun h' => by
  rw [h] at h'
  cases h'

/-- Where there are pages, every value fits. -/
theorem Fits.of_pages {v : Value} (h : pages) : v.Fits pages := fun _ => h

/-- What a page is asked for is a text, or undefined when the page does not say. -/
theorem plain_text_option (text : Option String) :
    (text.elim Value.undefined .text).isPage = false := by
  cases text <;> rfl

/-- A unary operator never gives a page. -/
theorem plain_ofUnary (op : UnaryOp) (v : Value) : (ofUnary op v).isPage = false := by
  cases op <;> rfl

/-- Joining a text to a value never gives a page. -/
theorem plain_of_joined? {s : String} {v : Value} (h : joined? s = some v) :
    v.isPage = false := by
  unfold joined? at h
  split at h
  · cases h
  · cases h
    rfl

/-- Adding never gives a page. -/
theorem plain_of_add? {a b v : Value} (h : add? a b = some v) : v.isPage = false := by
  unfold add? at h
  split at h
  · exact plain_of_joined? h
  · exact plain_of_joined? h
  · cases h
    rfl

/-- No binary operator gives a page. -/
theorem plain_of_ofBinary? {op : BinaryOp} {a b v : Value} (h : ofBinary? op a b = some v) :
    v.isPage = false := by
  cases op with
  | add => exact plain_of_add? h
  | _ =>
    cases h
    rfl

end Value

/-- A literal is no page. -/
theorem Literal.plain_value (l : Literal) : l.value.isPage = false := by
  cases l <;> rfl

/-- The methods of texts give no page. -/
theorem Effects.plain_of_textMethod? {s name needle : String} {v : Value}
    (h : textMethod? s name needle = some v) : v.isPage = false := by
  unfold textMethod? at h
  split at h <;> cases h <;> rfl

/-- The methods of numbers give no page. -/
theorem Effects.plain_of_numberMethod? {n : Float} {name : String} {digits v : Value}
    (h : numberMethod? n name digits = some v) : v.isPage = false := by
  unfold numberMethod? at h
  split at h <;> cases h <;> rfl

/-! ### Scopes -/

/-- A block whose names have values that may come up. -/
def Scope.Fits (pages : Prop) (d : Scope) : Prop :=
  ∀ name v, d.get? name = some v → v.Fits pages

/-- Names that have values that may come up, in all blocks. -/
structure Scopes.Fits (pages : Prop) (s : Scopes) : Prop where
  blocks : ∀ d ∈ s.blocks, Scope.Fits pages d
  globals : Scope.Fits pages s.globals

/-- Nothing is in the empty scope. -/
theorem Scope.Fits.empty : Scope.Fits pages .empty := fun _ _ h => by cases h

/-- A scope stays fit when a fitting value is put into it. -/
theorem Scope.Fits.insert {d : Scope} {name : String} {v : Value} (h : Scope.Fits pages d)
    (hv : v.Fits pages) : Scope.Fits pages (d.insert name v) := by
  -- The name is the one that was put in, or it was there before.
  intro other w hw
  rw [Dictionary.get?_insert] at hw
  split at hw
  · cases hw
    exact hv
  · exact h other w hw

namespace Scopes

variable {s : Scopes} {name : String} {v : Value}

/-- The scopes a script starts with hold nothing. -/
theorem Fits.init : Scopes.Fits pages {} := ⟨(List.forall_mem_nil _), .empty⟩

/-- Where there are pages, all scopes fit. -/
theorem Fits.of_pages (h : pages) : s.Fits pages :=
  ⟨fun _ _ _ _ _ => .of_pages h, fun _ _ _ => .of_pages h⟩

/-- What a name stands for fits. -/
theorem Fits.find? (h : s.Fits pages) (hv : s.find? name = some v) : v.Fits pages := by
  unfold Scopes.find? at hv
  rcases Option.or_eq_some_iff.1 hv with hv | ⟨_, hv⟩
  · obtain ⟨d, hd, hv⟩ := List.exists_of_findSome?_eq_some hv
    exact h.blocks d hd name v hv
  · exact h.globals name v hv

/-- A global name may stand for any fitting value. -/
theorem Fits.setGlobal (h : s.Fits pages) (hv : v.Fits pages) : (s.setGlobal name v).Fits pages :=
  ⟨h.blocks, h.globals.insert hv⟩

/-- So may a name of the innermost block, or of the globals outside every block. -/
theorem Fits.declare (h : s.Fits pages) (hv : v.Fits pages) : (s.declare name v).Fits pages := by
  unfold Scopes.declare
  split
  · exact h.setGlobal hv
  · rename_i inner outer hs
    have hb := h.blocks
    rw [hs, List.forall_mem_cons] at hb
    exact ⟨List.forall_mem_cons.2 ⟨hb.1.insert hv, hb.2⟩, h.globals⟩

/-- Assigning in the blocks changes one value of one block. -/
theorem fits_of_assignIn? {blocks blocks' : List Scope} (h : ∀ d ∈ blocks, Scope.Fits pages d)
    (hv : v.Fits pages) (ha : assignIn? name v blocks = some blocks') :
    ∀ d ∈ blocks', Scope.Fits pages d := by
  -- On the blocks from the inside out: the name is of this block, or the search goes on outside.
  induction blocks generalizing blocks' with
  | nil => cases ha
  | cons inner outer ih =>
    rw [List.forall_mem_cons] at h
    unfold assignIn? at ha
    split at ha
    · cases ha
      exact List.forall_mem_cons.2 ⟨h.1.insert hv, h.2⟩
    · obtain ⟨rest, hrest, rfl⟩ := Option.map_eq_some_iff.1 ha
      exact List.forall_mem_cons.2 ⟨h.1, ih h.2 hrest⟩

/-- An assignment finds its name in the blocks or among the globals. -/
theorem Fits.assign? {s' : Scopes} (h : s.Fits pages) (hv : v.Fits pages)
    (ha : s.assign? name v = some s') : s'.Fits pages := by
  unfold Scopes.assign? at ha
  split at ha
  · rename_i blocks hb
    cases ha
    exact ⟨fits_of_assignIn? h.blocks hv hb, h.globals⟩
  · obtain ⟨_, _, rfl⟩ := Option.map_eq_some_iff.1 ha
    exact h.setGlobal hv

/-- The scope of a new block is empty. -/
theorem Fits.enter (h : s.Fits pages) : s.enter.Fits pages :=
  ⟨List.forall_mem_cons.2 ⟨.empty, h.blocks⟩, h.globals⟩

/-- Leaving a block drops a scope. -/
theorem Fits.leave (h : s.Fits pages) : s.leave.Fits pages :=
  ⟨fun d hd => h.blocks d (List.mem_of_mem_tail hd), h.globals⟩

end Scopes

/-- An end with a value that may come up. -/
def Signal.Fits (pages : Prop) : Signal → Prop
  | .next => True
  | .finish v => v.Fits pages

/-! ### Simulations -/

/-- When computations of one kind go along with those of another kind; this is kept in sequence. -/
structure Correspondence (M N : Type → Type) [Monad M] [Effects M] [Monad N] [Effects N] where
  /-- The two go along with each other, and what they are worth satisfies `post`. -/
  Rel {α : Type} (post : α → Prop) (x : M α) (y : N α) : Prop
  pure {α : Type} {post : α → Prop} {a : α} : post a → Rel post (pure a) (pure a)
  bind {α β : Type} {post : α → Prop} {post' : β → Prop} {x : M α} {y : N α} {f : α → M β}
    {g : α → N β} : Rel post x y → (∀ a, post a → Rel post' (f a) (g a)) →
      Rel post' (x >>= f) (y >>= g)
  fail {α : Type} {post : α → Prop} (e : Failure) : Rel post (fail e) (fail e)
  tick : Rel (fun _ => True) tick tick

namespace Correspondence

variable {M N : Type → Type} [Monad M] [Effects M] [Monad N] [Effects N] (C : Correspondence M N)

/-- What runs on only if the script has not ended. -/
theorem andThen {x x' : M Signal} {y y' : N Signal} (h : C.Rel (Signal.Fits pages) x y)
    (h' : C.Rel (Signal.Fits pages) x' y') :
    C.Rel (Signal.Fits pages)
      (x >>= fun signal => match signal with
        | .next => x'
        | .finish v => Pure.pure (.finish v))
      (y >>= fun signal => match signal with
        | .next => y'
        | .finish v => Pure.pure (.finish v)) := by
  refine C.bind h fun signal hs => ?_
  cases signal with
  | next => exact h'
  | finish v => exact C.pure hs

/-- Loops go along with each other if the steps are counted alike. -/
theorem loop (hs : C.Rel (fun _ => True) stepsLeft stepsLeft) {c : M Value} {c' : N Value}
    {b : M Signal} {b' : N Signal} (hc : C.Rel (Value.Fits pages) c c')
    (hb : C.Rel (Signal.Fits pages) b b') :
    C.Rel (Signal.Fits pages) (stepsLeft >>= repeatWhile c b)
      (stepsLeft >>= repeatWhile c' b') := by
  refine C.bind hs fun fuel _ => ?_
  -- both loops have the same fuel, so they run out of it together
  induction fuel with
  | zero => exact C.fail _
  | succ fuel ih =>
    refine C.bind hc fun v _ => ?_
    split
    · exact C.bind C.tick fun _ _ => C.andThen hb ih
    · exact C.pure trivial

end Correspondence

/-- A correspondence in which the effects that expressions have go along with themselves. -/
structure Evaluation (M N : Type → Type) [Monad M] [Effects M] [Monad N] [Effects N]
    (pages : Prop) extends Correspondence M N where
  note {v : Value} : v.Fits pages → Rel (fun _ => True) (note v) (note v)
  stored? (name : String) : Rel (fun _ => True) (stored? name) (stored? name)
  store (name text : String) : Rel (fun _ => True) (store name text) (store name text)
  redirectTo (url : String) : Rel (fun _ => True) (redirectTo url) (redirectTo url)
  /-- Only scripts that run for a page see pages. -/
  mode : Rel (fun mode => mode = .client → pages) mode mode
  client : pages → Rel (fun _ => True) client client
  scopes : Rel (Scopes.Fits pages) scopes scopes

/-- A correspondence in which every effect goes along with itself. -/
structure Simulation (M N : Type → Type) [Monad M] [Effects M] [Monad N] [Effects N]
    (pages : Prop) extends Evaluation M N pages where
  /-- The two kinds may count their steps differently. -/
  loop {c : M Value} {c' : N Value} {b : M Signal} {b' : N Signal} :
    Rel (Value.Fits pages) c c' → Rel (Signal.Fits pages) b b' →
      Rel (Signal.Fits pages) (stepsLeft >>= repeatWhile c b) (stepsLeft >>= repeatWhile c' b')
  complete {v : Value} : v.Fits pages → Rel (fun _ => True) (complete v) (complete v)
  setScopes {s : Scopes} : s.Fits pages → Rel (fun _ => True) (setScopes s) (setScopes s)

namespace Evaluation

variable {M N : Type → Type} [Monad M] [Effects M] [Monad N] [Effects N]
  (S : Evaluation M N pages)

/-- The two compute values that may come up. -/
abbrev Values (x : M Value) (y : N Value) : Prop := S.Rel (Value.Fits pages) x y

/-- The two go along with each other, whatever they are worth. -/
abbrev Acts {α : Type} (x : M α) (y : N α) : Prop := S.Rel (fun _ => True) x y

/-- A value that is no page goes along with itself. -/
theorem plain {v : Value} (h : v.isPage = false) : S.Values (Pure.pure v) (Pure.pure v) :=
  S.pure (.of_plain h)

/-- A result that there may be, else something else. -/
theorem elim {α : Type} {o : Option α} {x : M Value} {y : N Value} {f : α → M Value}
    {g : α → N Value} (hn : S.Values x y) (hs : ∀ a, o = some a → S.Values (f a) (g a)) :
    S.Values (o.elim x f) (o.elim y g) := by
  cases o with
  | none => exact hn
  | some a => exact hs a rfl

/-- Both sides take the same branch. -/
theorem ite {α : Type} {post : α → Prop} {x x' : M α} {y y' : N α} {c : Prop} [Decidable c]
    (h : S.Rel post x y) (h' : S.Rel post x' y') :
    S.Rel post (if c then x else x') (if c then y else y') := by
  split
  · exact h
  · exact h'

/-- A value is noted where it comes up, which changes nothing about it. -/
theorem noting {x : M Value} {y : N Value} (h : S.Values x y) :
    S.Values (noting x) (noting y) :=
  S.bind h fun _ hv => S.bind (S.note hv) fun _ _ => S.pure hv

/-- The two take a step first, and what they do then goes along with each other. -/
def Stepped {α : Type} (post : α → Prop) (x : M α) (y : N α) : Prop :=
  ∃ x' y', x = (tick >>= fun _ => x') ∧ y = (tick >>= fun _ => y') ∧ S.Rel post x' y'

variable {S} in
/-- What takes a step first goes along as a whole. -/
theorem Stepped.rel {α : Type} {post : α → Prop} {x : M α} {y : N α} (h : S.Stepped post x y) :
    S.Rel post x y := by
  obtain ⟨x', y', rfl, rfl, h⟩ := h
  exact S.bind S.tick fun _ _ => h

/-- A step stands before each of two that go along. -/
theorem stepped {α : Type} {post : α → Prop} {x : M α} {y : N α} (h : S.Rel post x y) :
    S.Stepped post (tick >>= fun _ => x) (tick >>= fun _ => y) :=
  ⟨x, y, rfl, rfl, h⟩

/-- An expression takes its step, and its value is noted. -/
theorem evaluating {x : M Value} {y : N Value} (h : S.Values x y) :
    S.Stepped (Value.Fits pages) (evaluating x) (evaluating y) :=
  S.stepped (S.noting h)

/-- Variables hold texts, so reading one gives no page. -/
theorem readVariable (name : String) : S.Values (readVariable name) (readVariable name) :=
  S.bind (S.stored? name) fun _ _ => S.plain (Value.plain_text_option _)

/-- Writing a variable stores its text on both sides. -/
theorem writeVariable (name : String) (v : Value) :
    S.Acts (writeVariable name v) (writeVariable name v) :=
  S.store name v.variableText

/-- A redirect goes to the text of its target. -/
theorem redirect (target : Value) : S.Acts (redirect target) (redirect target) :=
  S.redirectTo target.display

/-! ### Names -/

/-- What comes after it may see pages. -/
theorem requireClient (name : String) :
    S.Rel (fun _ => pages) (requireClient name) (requireClient name) := by
  refine S.bind S.mode fun mode h => ?_
  cases mode with
  | client => exact S.pure (h rfl)
  | server => exact S.fail _

/-- A global of the page is read only where there is a client, hence pages. -/
theorem pageGlobal (name : String) (h : Host) : S.Values (pageGlobal name h) (pageGlobal name h) :=
  S.bind (S.requireClient name) fun _ hp => S.pure (.of_pages hp)

/-- A global name gives a plain value, a part of the page, or a reference error. -/
theorem global (name : String) : S.Values (global name) (global name) := by
  unfold Effects.global
  split
  case h_1 | h_2 | h_3 | h_4 | h_5 => exact S.plain rfl
  case h_6 | h_7 | h_8 | h_9 => exact S.pageGlobal _ _
  case h_10 =>
    split
    · exact S.plain rfl
    · exact S.fail _

/-- A name is looked for in the scopes, then among the globals. -/
theorem lookup (name : String) : S.Values (lookup name) (lookup name) := by
  refine S.bind S.scopes fun s hs => ?_
  split
  · rename_i v hv
    exact S.pure (hs.find? hv)
  · exact S.global name

/-! ### Properties -/

/-- A text of the page is read off the client. -/
theorem pageText (hp : pages) (part : ClientContext → String) :
    S.Values (pageText part) (pageText part) :=
  S.bind (S.client hp) fun _ _ => S.plain rfl

/-- Only a page object leads to what is known about the page. -/
theorem getProperty {object : Value} (h : object.Fits pages) (property : String) :
    S.Values (getProperty object property) (getProperty object property) := by
  unfold Effects.getProperty
  split
  case h_1 | h_2 => exact S.fail _
  case h_4 => exact S.readVariable _
  -- the object is a page object, so pages may be seen
  case h_5 | h_6 | h_7 | h_8 => exact S.pure (.of_pages (h rfl))
  case h_9 | h_10 | h_11 | h_12 | h_13 | h_14 => exact S.pageText (h rfl) _
  all_goals exact S.plain rfl

/-- Setting a property writes a variable, redirects, fails, or does nothing. -/
theorem setProperty (object : Value) (property : String) (v : Value) :
    S.Acts (setProperty object property v) (setProperty object property v) := by
  -- The cases are those of the property: a variable, the three spellings of the location, what has
  -- no properties, and the rest.
  unfold Effects.setProperty
  split
  case h_1 => exact S.writeVariable _ v
  case h_2 | h_3 | h_4 => exact S.redirect v
  case h_5 | h_6 => exact S.fail _
  case h_7 => exact S.pure trivial

/-- Indexing gives a character of a text, or the property of that name. -/
theorem getIndex {object : Value} (h : object.Fits pages) (index : Value) :
    S.Values (getIndex object index) (getIndex object index) := by
  unfold Effects.getIndex
  split
  · rename_i s n
    refine S.plain ?_
    cases (Number.place? n).bind (s.toList[·]?) <;> rfl
  · exact S.getProperty h _

/-! ### Calls -/

/-- The builtins give no page. -/
theorem callBuiltin (f : Builtin) (args : List Value) :
    S.Values (callBuiltin f args) (callBuiltin f args) := by
  cases f with
  | getVariable => exact S.readVariable _
  | setVariable => exact S.bind (S.writeVariable _ _) fun _ _ => S.plain rfl
  | redirect => exact S.bind (S.redirect _) fun _ _ => S.plain rfl
  | _ => exact S.plain rfl

/-- Only builtins can be called. -/
theorem callValue (target : Value) (args : List Value) :
    S.Values (callValue target args) (callValue target args) := by
  unfold Effects.callValue
  split
  · exact S.callBuiltin _ args
  · exact S.fail _

/-- A method that is missing fails alike on both sides. -/
theorem noMethod (owner name : String) : S.Values (noMethod owner name) (noMethod owner name) :=
  S.fail _

/-- The methods of the location redirect, give its url, or are missing. -/
theorem locationMethod (hp : pages) (name : String) (args : List Value) :
    S.Values (locationMethod name args) (locationMethod name args) := by
  unfold Effects.locationMethod
  split
  case h_1 | h_2 => exact S.bind (S.redirect _) fun _ _ => S.plain rfl
  case h_3 => exact S.pageText hp _
  case h_4 => exact S.noMethod _ _

/-- A method call goes along, whatever the receiver is. -/
theorem callMethod {receiver : Value} (h : receiver.Fits pages) (name : String)
    (args : List Value) :
    S.Values (callMethod receiver name args) (callMethod receiver name args) := by
  -- The cases are those of the receiver: a text, a number, the console, `Math`, the location, what
  -- has no value, and the rest.
  unfold Effects.callMethod
  split
  case h_1 =>
    exact S.elim (S.noMethod _ _) fun _ hv => S.plain (plain_of_textMethod? hv)
  case h_2 =>
    exact S.elim (S.noMethod _ _) fun _ hv => S.plain (plain_of_numberMethod? hv)
  case h_3 => exact S.plain rfl
  case h_4 => exact S.elim (S.noMethod _ _) fun _ _ => S.plain rfl
  case h_5 => exact S.locationMethod (h rfl) name args
  case h_6 | h_7 => exact S.fail _
  case h_8 => exact S.noMethod _ _

/-! ### Expressions -/

/-- A binary operator gives a plain value or fails. -/
theorem ofBinary (op : BinaryOp) (a b : Value) : S.Values (ofBinary op a b) (ofBinary op a b) :=
  S.elim (S.fail _) fun _ hv => S.plain (Value.plain_of_ofBinary? hv)

/-- An expression takes a step, and then goes along with itself; so do lists of expressions. The
cases are those of `Expr.eval`; a call of a member or of an index stands apart from other calls. -/
theorem eval_and_evalAll :
    (∀ e : Expr, S.Stepped (Value.Fits pages) e.eval e.eval) ∧
    ∀ es : List Expr, S.Acts (Expr.evalAll es) (Expr.evalAll es) := by
  apply Expr.eval.mutual_induct (fun e => S.Stepped (Value.Fits pages) e.eval e.eval)
    (fun es => S.Acts (Expr.evalAll es) (Expr.evalAll es))
  case case1 =>
    intro v
    exact S.evaluating (S.plain v.plain_value)
  case case2 =>
    intro n
    exact S.evaluating (S.lookup n)
  case case3 =>
    intro object property iho
    exact S.evaluating (S.bind iho.rel fun _ h => S.getProperty h property)
  case case4 =>
    intro object i iho ihi
    exact S.evaluating (S.bind iho.rel fun _ h => S.bind ihi.rel fun _ _ => S.getIndex h _)
  case case5 =>
    intro object property args iho iha
    exact S.evaluating (S.bind iho.rel fun _ h => S.bind iha fun _ _ => S.callMethod h property _)
  case case6 =>
    intro object i args iho ihi iha
    exact S.evaluating (S.bind iho.rel fun _ h => S.bind ihi.rel fun _ _ => S.bind iha fun _ _ =>
      S.callMethod h _ _)
  case case7 =>
    -- the equation of `Expr.eval` asks that the callee is neither a member nor an index
    intro callee args hm hi ihc iha
    rw [Expr.eval, Expr.eval]
    · exact S.evaluating (S.bind ihc.rel fun _ _ => S.bind iha fun _ _ => S.callValue _ _)
    all_goals assumption
  case case8 =>
    intro op operand ih
    exact S.evaluating (S.bind ih.rel fun _ _ => S.plain (Value.plain_ofUnary op _))
  case case9 =>
    intro op left right ihl ihr
    exact S.evaluating (S.bind ihl.rel fun _ _ => S.bind ihr.rel fun _ _ => S.ofBinary op _ _)
  case case10 =>
    intro left right ihl ihr
    exact S.evaluating (S.bind ihl.rel fun _ h => S.ite ihr.rel (S.pure h))
  case case11 =>
    intro left right ihl ihr
    exact S.evaluating (S.bind ihl.rel fun _ h => S.ite (S.pure h) ihr.rel)
  case case12 =>
    intro condition yes no ihc ihy ihn
    exact S.evaluating (S.bind ihc.rel fun _ _ => S.ite ihy.rel ihn.rel)
  case case13 => exact S.pure trivial
  case case14 =>
    intro e rest ihe ihr
    exact S.bind ihe.rel fun _ _ => S.bind ihr fun _ _ => S.pure trivial

/-- An expression goes along with itself. -/
theorem eval (e : Expr) : S.Values e.eval e.eval := (S.eval_and_evalAll.1 e).rel

/-- So does one that may be left out. -/
theorem evalOptional (e : Option Expr) : S.Values (evalOptional e) (evalOptional e) := by
  cases e with
  | none => exact S.plain rfl
  | some e => exact S.eval e

/-- What is assigned with `+=` is added to what is held. -/
theorem appended (append : Bool) {held : M Value} {held' : N Value} (hh : S.Values held held')
    {v : Value} (hv : v.Fits pages) :
    S.Values (appended append held v) (appended append held' v) :=
  S.ite (S.bind (S.noting hh) fun _ _ => S.noting (S.ofBinary .add _ _)) (S.pure hv)

/-- To assign to a property is to write a variable, or to ask for a redirect. -/
theorem assignMember (append : Bool) (value object : Expr) (property : String) :
    S.Acts ((Target.member object property).assign append value)
      ((Target.member object property).assign append value) :=
  S.bind (S.eval object) fun _ ho => S.bind (S.eval value) fun _ hv =>
    S.bind (S.appended append (S.getProperty ho property) hv) fun _ _ => S.setProperty _ _ _

/-- Assigning to an index sets the property of that name. -/
theorem assignIndex (append : Bool) (value object i : Expr) :
    S.Acts ((Target.index object i).assign append value)
      ((Target.index object i).assign append value) :=
  S.bind (S.eval object) fun _ ho => S.bind (S.eval i) fun _ _ =>
    S.bind (S.eval value) fun _ hv =>
      S.bind (S.appended append (S.getProperty ho _) hv) fun _ _ => S.setProperty _ _ _

end Evaluation

namespace Simulation

variable {M N : Type → Type} [Monad M] [Effects M] [Monad N] [Effects N]
  (S : Simulation M N pages)

/-! ### Assignments and blocks -/

/-- A name may be introduced for any fitting value. -/
theorem introduce (name : String) {v : Value} (hv : v.Fits pages) :
    S.Acts (introduce name v) (introduce name v) :=
  S.bind S.scopes fun _ hs => S.setScopes (hs.declare hv)

/-- Assigning a global redirects, fails, or puts the value among the globals. -/
theorem assignGlobal (name : String) {v : Value} (hv : v.Fits pages) :
    S.Acts (assignGlobal name v) (assignGlobal name v) := by
  unfold Effects.assignGlobal
  split
  case h_1 => exact S.bind (S.requireClient _) fun _ _ => S.redirect v
  case h_8 => exact S.bind S.scopes fun _ hs => S.setScopes (hs.setGlobal hv)
  all_goals exact S.fail _

/-- A name is assigned where it is found. -/
theorem assignName (name : String) {v : Value} (hv : v.Fits pages) :
    S.Acts (assignName name v) (assignName name v) := by
  refine S.bind S.scopes fun s hs => ?_
  split
  · rename_i s' ha
    exact S.setScopes (hs.assign? hv ha)
  · exact S.assignGlobal name hv

/-- A block goes along with itself; its scope is entered before and left after. -/
theorem inBlock {α : Type} {post : α → Prop} {x : M α} {y : N α} (h : S.Rel post x y) :
    S.Rel post (inBlock x) (inBlock y) :=
  S.bind S.scopes fun _ hs => S.bind (S.setScopes hs.enter) fun _ _ =>
    S.bind h fun _ ha => S.bind S.scopes fun _ hs' => S.bind (S.setScopes hs'.leave) fun _ _ =>
      S.pure ha

/-- An assignment goes along with itself, whatever its target. -/
theorem assign (append : Bool) (value : Expr) (target : Target) :
    S.Acts (target.assign append value) (target.assign append value) := by
  cases target with
  | name n =>
    exact S.bind (S.eval value) fun _ hv => S.bind (S.appended append (S.lookup n) hv) fun _ hw =>
      S.assignName n hw
  | member object property => exact S.assignMember append value object property
  | index object i => exact S.assignIndex append value object i

/-! ### Statements -/

/-- The two end alike, with a value that may come up. -/
abbrev Ends (x : M Signal) (y : N Signal) : Prop := S.Rel (Signal.Fits pages) x y

/-- A statement takes a step, and then goes along with itself; so do lists of statements. The cases
are those of `Statement.run`. -/
theorem run_and_runAll :
    (∀ s : Statement, S.Stepped (Signal.Fits pages) s.run s.run) ∧
    ∀ program : Program, S.Ends (Statement.runAll program) (Statement.runAll program) := by
  apply Statement.run.mutual_induct (fun s => S.Stepped (Signal.Fits pages) s.run s.run)
    (fun ss => S.Ends (Statement.runAll ss) (Statement.runAll ss))
  -- The cases are those of `Statement.run`, in its order: a declaration, an assignment, a branch, a
  -- loop, `return`, `throw`, an expression, a block; then those of a list of statements.
  case case1 =>
    intro name value
    exact S.stepped (S.bind (S.evalOptional value) fun _ hv =>
      S.bind (S.introduce name hv) fun _ _ => S.pure trivial)
  case case2 =>
    intro target append value
    exact S.stepped (S.bind (S.assign append value target) fun _ _ => S.pure trivial)
  case case3 =>
    intro condition yes no ihy ihn
    exact S.stepped (S.bind (S.eval condition) fun _ _ => S.ite (S.inBlock ihy) (S.inBlock ihn))
  case case4 =>
    intro condition body ih
    exact S.stepped (S.loop (S.eval condition) (S.inBlock ih))
  case case5 =>
    intro value
    exact S.stepped (S.bind (S.evalOptional value) fun _ hv => S.pure hv)
  case case6 =>
    intro value
    exact S.stepped (S.bind (S.eval value) fun _ _ => S.fail _)
  case case7 =>
    intro value
    exact S.stepped (S.bind (S.eval value) fun _ hv =>
      S.bind (S.complete hv) fun _ _ => S.pure trivial)
  case case8 =>
    intro body ih
    exact S.stepped (S.inBlock ih)
  case case9 => exact S.pure trivial
  case case10 =>
    intro s rest ihs ihr
    exact S.andThen ihs.rel ihr

/-- Programs go along with themselves. -/
theorem runAll (program : Program) :
    S.Ends (Statement.runAll program) (Statement.runAll program) := S.run_and_runAll.2 program

end Simulation

end Dialogue.Script
