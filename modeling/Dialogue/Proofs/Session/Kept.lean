import Dialogue.Proofs.Service.Calls
import Dialogue.Proofs.Session.Idle
import Dialogue.Proofs.Session.Stored
import Dialogue.Proofs.Session.Transcript

namespace Dialogue

open Decimal

/-!
# Nothing is lost in the store

A session is read back from the store as it was, whatever it holds, as long as its times are read
back. So a conversation may be stored and taken up again after any of its turns, and goes on as if
it had been kept in memory: no turn looks at how often the session was saved.

* `Session.State.Sized`, `Session.State.Legible`: the numbers have the sizes that they are kept in,
  and the times are read back.
* `Turn.run_withRevision`: a turn makes the same of a session that was saved more often.
* `Conversation.reload`, `relayed`: conversations that are stored and taken up again.
* `index_le_of_reachable`: turns leave the cursor within the size that it is kept in.
* `Store.relayed_eq`: they go on as if they had been kept in memory.
* `Store.storage_is_lossless`: what is stored comes back.
-/

/-- The written form of an instant is read back. -/
def Time.Instant.Legible (t : Instant) : Prop := read? t.text = some t

instance (t : Time.Instant) : Decidable t.Legible := inferInstanceAs (Decidable (_ = _))

namespace Session

open Dialogue.Flow

/-- The numbers of a session have 64 bits. Only the place of the cursor has no sign. -/
structure State.Sized (s : State) : Prop where
  version : leastInteger ≤ s.flowVersion ∧ s.flowVersion ≤ greatestInteger
  index : s.nodeIndex ≤ greatestWord
  revision : leastInteger ≤ s.revision ∧ s.revision ≤ greatestInteger

/-- All times of a session are read back. -/
structure State.Legible (s : State) : Prop where
  created : s.createdAt.Legible
  updated : s.updatedAt.Legible
  log : ∀ e ∈ s.log, e.time.Legible

/-- What is written legibly is dated. -/
theorem State.Legible.dated {s : State} (h : s.Legible) : s.Dated :=
  ⟨Time.Instant.read?_text_iff.1 h.created, Time.Instant.read?_text_iff.1 h.updated,
    fun e he => Time.Instant.read?_text_iff.1 (h.log e he)⟩

/-! ### Sessions that were saved more often -/

/-- The session after another number of times that it was saved. -/
def State.withRevision (revision : Int) (s : State) : State := { s with revision }

/-- Saving raises the revision by one, so there must be room for it. -/
theorem State.Sized.saved {s : State} (h : s.Sized) (hrevision : s.revision < greatestInteger) :
    (s.withRevision (s.revision + 1)).Sized where
  version := h.version
  index := h.index
  revision := by
    have hleast := h.revision.1
    show leastInteger ≤ s.revision + 1 ∧ s.revision + 1 ≤ greatestInteger
    omega

/-- The turn on the session after another number of times that it was saved. -/
def Turn.withRevision (revision : Int) (t : Turn) : Turn :=
  { t with state := t.state.withRevision revision }

namespace Turn

variable {g : Graph} {env : Environment} {drawn : Nat} {s s' : State} {inbound : Option Inbound}
  {t t' : Turn}

/-- Turns that give the same add the same to one transcript. -/
theorem log_eq_of_output (hstatus : s'.status = s.status) (hlog : s'.log = s.log)
    (h : run g env drawn s inbound = .ok t) (h' : run g env drawn s' inbound = .ok t')
    (houtput : t'.output = t.output) : t'.state.log = t.state.log := by
  by_cases hs : s.status = .ended
  · rw [(run_of_ended hs h).1, (run_of_ended (hstatus.trans hs) h').1, hlog]
  · rw [run_lines hs h, run_lines (fun hs' => hs (hstatus.symm.trans hs')) h', hlog, houtput]

/-- A turn makes the same of a session that was saved more often. -/
theorem run_withRevision (g : Graph) (env : Environment) (drawn : Nat) (s : State)
    (inbound : Option Inbound) (revision : Int) :
    run g env drawn (s.withRevision revision) inbound =
      (run g env drawn s inbound).map (·.withRevision revision) := by
  have halike : s.Alike (s.withRevision revision) :=
    ⟨{ s.origin with revision }, s.log, s.updatedAt, rfl⟩
  have hboth := both_alike g env halike drawn inbound
  generalize hrun : run g env drawn s inbound = first,
    hrun' : run g env drawn (s.withRevision revision) inbound = second at hboth ⊢
  cases hboth with
  | error a => rfl
  | @ok t t' h =>
    -- What the turns may differ in is told by what they started from.
    have hstatus : (s.withRevision revision).status = s.status := rfl
    have hlog := log_eq_of_output hstatus rfl hrun hrun' h.output_eq
    have htime := (run_updatedAt hrun').trans (run_updatedAt hrun).symm
    have horigin : t'.state.origin = { t.state.origin with revision } := by
      rw [run_origin hrun', run_origin hrun]
      rfl
    obtain ⟨o, log, updatedAt, rfl⟩ := h
    obtain rfl : log = t.state.log := hlog
    obtain rfl : updatedAt = t.state.updatedAt := htime
    obtain rfl : o = { t.state.origin with revision } := horigin
    rfl

end Turn

/-! ### Conversations that are taken up again -/

namespace Conversation

variable {g : Graph} {c : Conversation}

/-- The conversation with a session that was saved more often. -/
def withRevision (revision : Int) (c : Conversation) : Conversation :=
  { c with state := c.state.withRevision revision }

/-- The revision does not show in a reply. -/
theorem reply_withRevision (g : Graph) (c : Conversation) (e : Event) (revision : Int) :
    ((c.withRevision revision).exchange g e).reply = (c.exchange g e).reply := by
  unfold exchange withRevision
  dsimp only
  rw [Turn.run_withRevision]
  cases Turn.run g e.env c.drawn c.state e.inbound <;> rfl

/-- The revision goes along unchanged. -/
theorem after_withRevision (g : Graph) (c : Conversation) (e : Event) (revision : Int) :
    ((c.withRevision revision).exchange g e).after =
      (c.exchange g e).after.withRevision revision := by
  unfold exchange withRevision
  dsimp only
  rw [Turn.run_withRevision]
  cases Turn.run g e.env c.drawn c.state e.inbound <;> rfl

/-- What a session was begun with stays through all that happens. -/
theorem origin_exchange (e : Event) : (c.exchange g e).after.state.origin = c.state.origin := by
  unfold exchange
  split
  · rename_i h
    exact Turn.run_origin h
  · rfl

/-- The session has a version of 64 bits, and its times can be told apart. -/
structure Storable (c : Conversation) : Prop where
  dated : c.state.Dated
  version : leastInteger ≤ c.state.flowVersion ∧ c.state.flowVersion ≤ greatestInteger

/-- It stays so through all that happens at times that can be told apart. -/
theorem Storable.exchange (hc : c.Storable) {e : Event} (hnow : e.env.now.Representable) :
    (c.exchange g e).after.Storable where
  dated := by
    -- A turn that fails leaves the state, and one that succeeds dates it by a clock that is
    -- representable.
    unfold Conversation.exchange
    split
    · rename_i h
      exact Turn.run_dated hc.dated hnow h
    · exact hc.dated
  version := by
    have hversion : (c.exchange g e).after.state.flowVersion = c.state.flowVersion :=
      congrArg Origin.flowVersion (origin_exchange e)
    rw [hversion]
    exact hc.version

/-- Saves the session of a conversation, and takes up again what the store has of it then. -/
def reload (store : Store) (c : Conversation) : Except Store.Error (Store × Conversation) := do
  let (_, store) ← store.save c.state
  let state ← store.session c.state.sessionId
  return (store, { c with state })

end Conversation

/-- The replies to events one after the other, and the conversation after them. After each event
that is marked, the session is saved and taken up again. -/
def relayed (g : Graph) : Store → Conversation → List (Event × Bool) →
    Except Store.Error (List (Except Error Output) × Conversation)
  | _, c, [] => .ok ([], c)
  | store, c, (e, kept) :: rest => do
    let x := c.exchange g e
    let (store, next) ← if kept then x.after.reload store else .ok (store, x.after)
    let (replies, last) ← relayed g store next rest
    return (x.reply :: replies, last)

/-- The cursor of a session between two turns is at most behind the last node of its container. -/
theorem State.Settled.index_le {g : Graph} {s : State} (h : s.Settled g) :
    ∃ c, g.container s.containerId = .ok c ∧ s.nodeIndex ≤ c.nodes.length := by
  -- Where a node is, the cursor is within the container.
  have hnode : ∀ {node : Node}, g.nodeAt s.containerId s.nodeIndex = .ok (some node) →
      ∃ c, g.container s.containerId = .ok c ∧ s.nodeIndex ≤ c.nodes.length := by
    intro node hnode
    unfold Graph.nodeAt at hnode
    cases hc : g.container s.containerId with
    | error e => rw [hc] at hnode; cases hnode
    | ok c =>
      rw [hc] at hnode
      have hat : c.nodes[s.nodeIndex]? = some node := Except.ok.inj hnode
      exact ⟨c, rfl, Nat.le_of_lt (List.getElem?_eq_some_iff.1 hat).1⟩
  cases h with
  | fresh _ _ place => exact place
  | waits _ node =>
    obtain ⟨node, -, hat, -⟩ := node
    exact hnode hat
  | yields _ _ node =>
    obtain ⟨node, hat⟩ := node
    exact hnode hat
  | closes _ _ past =>
    obtain ⟨c, hc, hindex⟩ := past
    exact ⟨c, hc, Nat.le_of_eq hindex⟩

/-- The cursor of a conversation that came about by turns has the size that it is kept in, if the
containers of its flow have. -/
theorem index_le_of_reachable {d : Definition}
    (hsize : ∀ c ∈ d.containers, c.nodes.length ≤ greatestWord) {c : Conversation}
    (hc : Reachable (Graph.ofDefinition d) c.state) (events : List Event) :
    ∀ x ∈ exchanges (Graph.ofDefinition d) c events, x.after.state.nodeIndex ≤ greatestWord := by
  -- On the events; each of them leaves a reachable state, whose cursor is within its container.
  induction events generalizing c with
  | nil => simp [exchanges]
  | cons e rest ih =>
    have hafter := Conversation.reachable_exchange hc e
    obtain ⟨container, hcontainer, hindex⟩ :=
      (settled_of_reachable (Graph.coherent_ofDefinition d) hafter).index_le
    have hmem := List.mem_of_find?_eq_some (Graph.container_eq_ok_iff.1 hcontainer)
    exact List.forall_mem_cons.2 ⟨Nat.le_trans hindex (hsize container hmem), ih hafter⟩

end Session

/-! ### The store -/

namespace Store

open Dialogue.Flow Session

variable {store store' : Store} {s next : State}

/-- A session that was put into a row is read back from it. -/
theorem session_withSession (hs : s.Dated) (hsized : s.Sized) :
    (store.withSession s).session s.sessionId = .ok s := by
  unfold session
  rw [get?_withSession, if_pos rfl]
  exact readText_ofState hs hsized.version hsized.index hsized.revision

/-- A session that was inserted is read back. -/
theorem session_of_insert (hs : s.Dated) (hsized : s.Sized) (h : store.insert s = .ok store') :
    store'.session s.sessionId = .ok s := by
  obtain ⟨-, -, rfl⟩ := insert_eq_ok_iff.1 h
  exact session_withSession hs hsized

/-- A session that was saved is read back with the next revision. -/
theorem session_of_save (hs : s.Dated) (hsized : s.Sized) (hrevision : s.revision < greatestInteger)
    (h : store.save s = .ok (next, store')) :
    next = s.withRevision (s.revision + 1) ∧ store'.session s.sessionId = .ok next := by
  obtain ⟨-, rfl, rfl⟩ := save_eq_ok_iff.1 h
  have hnext : (s.withRevision (s.revision + 1)).Dated := ⟨hs.created, hs.updated, hs.log⟩
  exact ⟨rfl, session_withSession hnext (hsized.saved hrevision)⟩

/-- The store has the session in the revision that it has in a conversation. -/
def Holds (store : Store) (s : State) : Prop :=
  ∃ row, store.sessions.get? s.sessionId = some row ∧ row.revision = s.revision

/-- The row of a session holds it. -/
theorem holds_withSession (store : Store) (s : State) : (store.withSession s).Holds s :=
  ⟨.ofState s, by rw [get?_withSession, if_pos rfl], rfl⟩

/-- A conversation that is saved and taken up again is the one that was saved, but for the number of
times that it was. -/
theorem reload_eq {c : Conversation} {revision : Int}
    (hholds : store.Holds (c.withRevision revision).state) (hs : c.state.Dated)
    (hsized : (c.withRevision revision).state.Sized) (hrevision : revision < greatestInteger) :
    ∃ store', store'.Holds (c.withRevision (revision + 1)).state ∧
      (c.withRevision revision).reload store = .ok (store', c.withRevision (revision + 1)) := by
  have hdated : (c.withRevision revision).state.Dated := ⟨hs.created, hs.updated, hs.log⟩
  -- The row is of the revision that the conversation has, so saving succeeds.
  have hsave : store.save (c.withRevision revision).state =
      .ok (c.state.withRevision (revision + 1),
        store.withSession (c.state.withRevision (revision + 1))) :=
    save_eq_ok_iff.2 ⟨hholds, rfl, rfl⟩
  have hsession := (session_of_save hdated hsized hrevision hsave).2
  refine ⟨_, holds_withSession store _, ?_⟩
  unfold Conversation.reload
  rw [hsave]
  show (do
    let state ← (store.withSession _).session (c.withRevision revision).state.sessionId
    return (store.withSession _, { c.withRevision revision with state })) = _
  rw [hsession]
  rfl

/-- A conversation that is stored and taken up again now and then gives the replies that it gives
when it is kept in memory, and ends as that one does, but for the number of times that it was
saved. -/
theorem relayed_eq {g : Graph} {c : Conversation} (hc : c.Storable)
    {events : List (Event × Bool)} (hnow : ∀ e ∈ events, e.1.env.now.Representable)
    (hindex : ∀ x ∈ exchanges g c (events.map Prod.fst), x.after.state.nodeIndex ≤ greatestWord)
    {revision : Int} (hleast : leastInteger ≤ revision)
    (hmost : revision + events.countP Prod.snd ≤ greatestInteger)
    (hholds : store.Holds (c.withRevision revision).state) :
    relayed g store (c.withRevision revision) events =
      .ok ((exchanges g c (events.map Prod.fst)).map Exchange.reply,
        (c.afterAll g (events.map Prod.fst)).withRevision
          (revision + events.countP Prod.snd)) := by
  -- The store and the revision are those of the conversation that is stored now and then; of the
  -- one that is kept in memory the induction says what it is stored as.
  induction events generalizing c store revision with
  | nil => simp [relayed, exchanges, Conversation.afterAll]
  | cons first rest ih =>
    obtain ⟨e, kept⟩ := first
    obtain ⟨he, hrest⟩ := List.forall_mem_cons.1 hnow
    obtain ⟨hplace, hplaces⟩ := List.forall_mem_cons.1 hindex
    have hafter := hc.exchange (g := g) he
    have hholds' : store.Holds ((c.exchange g e).after.withRevision revision).state := by
      obtain ⟨row, hrow, hrevision⟩ := hholds
      refine ⟨row, ?_, hrevision⟩
      rwa [show ((c.exchange g e).after.withRevision revision).state.sessionId =
        c.state.sessionId from congrArg Origin.sessionId (c.origin_exchange e)]
    unfold relayed
    dsimp only
    rw [Conversation.reply_withRevision, Conversation.after_withRevision]
    cases kept with
    | false =>
      have hmost' : revision + rest.countP Prod.snd ≤ greatestInteger := by simpa using hmost
      rw [if_neg Bool.false_ne_true]
      show (do
        let (replies, last) ← relayed g store ((c.exchange g e).after.withRevision revision) rest
        return ((c.exchange g e).reply :: replies, last)) = _
      rw [ih hafter hrest hplaces hleast hmost' hholds']
      simp [exchanges, Conversation.afterAll]
    | true =>
      have hmost' : revision + (rest.countP Prod.snd + 1) ≤ greatestInteger := by
        simpa using hmost
      have hsized : ((c.exchange g e).after.withRevision revision).state.Sized :=
        ⟨hafter.version, hplace, hleast, by
          show revision ≤ greatestInteger
          omega⟩
      obtain ⟨store', hstored, hreload⟩ := reload_eq hholds' hafter.dated hsized (by omega)
      rw [if_pos rfl, hreload]
      show (do
        let (replies, last) ←
          relayed g store' ((c.exchange g e).after.withRevision (revision + 1)) rest
        return ((c.exchange g e).reply :: replies, last)) = _
      rw [ih hafter hrest hplaces (by omega) (by omega) hstored]
      simp [exchanges, Conversation.afterAll, Int.add_assoc, Int.add_comm 1]

/-- What is stored comes back. A session is read back from its text as it was, whatever it holds, if
its times are read back. So it is found again after it was inserted, and after it was saved, with
its revision counted up. And a conversation whose session is saved and taken up again after any of
its turns gives the replies, and ends in the session, of a conversation that is kept in memory, as
long as its cursor and its revision have the sizes that they are kept in. A cursor that turns have
moved has, if the containers have. -/
theorem storage_is_lossless :
    (∀ s : State, s.Sized → s.Legible → readText State.ofJson s.toJson.write = .ok s) ∧
    (∀ (s : State) (store store' : Store), s.Sized → s.Legible → store.insert s = .ok store' →
      store'.session s.sessionId = .ok s) ∧
    (∀ (s next : State) (store store' : Store), s.Sized → s.Legible →
      s.revision < greatestInteger → store.save s = .ok (next, store') →
        next = { s with revision := s.revision + 1 } ∧ store'.session s.sessionId = .ok next) ∧
    (∀ (g : Graph) (s : State) (drawn : Nat) (store store' : Store)
      (events : List (Event × Bool)),
      let inMemory := exchanges g ⟨s, drawn⟩ (events.map Prod.fst)
      let saved : Int := s.revision + events.countP Prod.snd
      s.Sized → s.Legible → store.insert s = .ok store' →
        (∀ e ∈ events, e.1.env.now.Legible) →
        (∀ x ∈ inMemory, x.after.state.nodeIndex ≤ greatestWord) → saved ≤ greatestInteger →
          relayed g store' ⟨s, drawn⟩ events =
            .ok (inMemory.map Exchange.reply,
              (Conversation.afterAll g ⟨s, drawn⟩ (events.map Prod.fst)).withRevision saved)) ∧
    ∀ (d : Definition) (c : Conversation) (events : List Event),
      (∀ c ∈ d.containers, c.nodes.length ≤ greatestWord) →
        Reachable (Graph.ofDefinition d) c.state →
          ∀ x ∈ exchanges (Graph.ofDefinition d) c events,
            x.after.state.nodeIndex ≤ greatestWord := by
  refine ⟨fun s hsized hs => ?_, fun s store store' hsized hs => session_of_insert hs.dated hsized,
    fun s next store store' hsized hs => session_of_save hs.dated hsized, ?_,
    fun d c events hsize hc => index_le_of_reachable hsize hc events⟩
  · exact readText_ofState hs.dated hsized.version hsized.index hsized.revision
  -- The row that was inserted holds the session, and each reload keeps it so.
  · intro g s drawn store store' events _ _ hsized hs hinsert hnow hindex hmost
    obtain ⟨-, -, rfl⟩ := insert_eq_ok_iff.1 hinsert
    have hc : Conversation.Storable ⟨s, drawn⟩ := ⟨hs.dated, hsized.version⟩
    exact relayed_eq hc (fun e he => Time.Instant.read?_text_iff.1 (hnow e he)) hindex
      hsized.revision.1 hmost (holds_withSession store s)

/-! ### A guest book that is kept -/

namespace GuestBook

/-- The visit, with the session saved after the first, the third and the fourth event. -/
def visit : List (Event × Bool) := Session.GuestBook.visit.zip [true, false, true, true, false]

/-- A store with the guest book. -/
def opened : Store := (({} : Store).publish ⟨0, 0⟩ "f" Session.GuestBook.flow).2

end GuestBook

/-- The guest hears the same, whether the session is stored in between or not. -/
theorem storage_is_lossless_guest :
    ∃ store, GuestBook.opened.insert Session.GuestBook.begun = .ok store ∧
      store.session "s" = .ok Session.GuestBook.begun ∧
      relayed (Graph.ofDefinition Session.GuestBook.flow) store ⟨Session.GuestBook.begun, 0⟩
          GuestBook.visit =
        .ok ((exchanges (Graph.ofDefinition Session.GuestBook.flow) ⟨Session.GuestBook.begun, 0⟩
            Session.GuestBook.visit).map Exchange.reply,
          (Conversation.afterAll (Graph.ofDefinition Session.GuestBook.flow)
            ⟨Session.GuestBook.begun, 0⟩ Session.GuestBook.visit).withRevision 3) := by
  -- The session is small and legible, and so are the clocks of the visit.
  have hsized : Session.GuestBook.begun.Sized := ⟨by decide, by decide, by decide⟩
  have hlegible : Session.GuestBook.begun.Legible :=
    ⟨by decide +kernel, by decide +kernel, by simp [Session.GuestBook.begun]⟩
  have hnow : ∀ e ∈ GuestBook.visit, e.1.env.now.Legible := by decide +kernel
  have hinsert : GuestBook.opened.insert Session.GuestBook.begun =
      .ok (GuestBook.opened.withSession Session.GuestBook.begun) :=
    insert_eq_ok_iff.2 ⟨rfl, by decide +kernel, rfl⟩
  obtain ⟨-, hfound, -, hrelayed, hindex⟩ := storage_is_lossless
  exact ⟨_, hinsert, hfound _ _ _ hsized hlegible hinsert,
    hrelayed _ _ 0 _ _ GuestBook.visit hsized hlegible hinsert hnow
      (hindex Session.GuestBook.flow _ _ (by decide) (.start rfl)) (by decide)⟩

end Store

end Dialogue
