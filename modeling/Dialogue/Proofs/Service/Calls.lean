import Dialogue.Proofs.Service.Interleaving

namespace Dialogue

/-!
# What a call makes of the store

Every call either fails and leaves the store as it was, or does what it is for. Versions of flows
are only ever added, so what a session needs of its flow stays where it is.

* `Store.withSession`: a store with a session as it is from now on.
* `Store.insert_eq_ok_iff`, `Store.save_eq_ok_iff`: when a session is stored, and as what.
* `Store.newest?_eq_some`, `Store.select?_number`: which version is the newest, and which one a
  number selects.
* `Store.publish_cases`: what publishing comes to.
* `Store.Extends`: a store has all versions that another one has.
* `Service.Storage.refusing_publish` and its siblings: how a call can end.
-/

namespace Store

variable {s s' s'' : Store} {state next : Session.State}

/-! ### Sessions -/

/-- A store with a session as it is from now on. -/
def withSession (s : Store) (state : Session.State) : Store :=
  { s with sessions := s.sessions.insert state.sessionId (.ofState state) }

/-- Putting a session in sets its row and leaves the others. -/
theorem get?_withSession (s : Store) (state : Session.State) (id : String) :
    (s.withSession state).sessions.get? id =
      if id = state.sessionId then some (.ofState state) else s.sessions.get? id :=
  Dictionary.get?_insert s.sessions state.sessionId id (.ofState state)

/-- A session is added when its id is free and its version is kept. -/
theorem insert_eq_ok_iff :
    s.insert state = .ok s' ↔
      s.sessions.get? state.sessionId = none ∧
        (s.select? state.flowId (some state.flowVersion)).isSome ∧ s' = s.withSession state := by
  unfold insert withSession
  cases hrow : s.sessions.get? state.sessionId with
  | some row => simp
  | none => cases hversion : s.select? state.flowId (some state.flowVersion) <;> simp [eq_comm]

/-- A session is replaced when the kept one has the revision of its new state. -/
theorem save_eq_ok_iff :
    s.save state = .ok (next, s') ↔
      (∃ row, s.sessions.get? state.sessionId = some row ∧ row.revision = state.revision) ∧
        next = { state with revision := state.revision + 1 } ∧ s' = s.withSession next := by
  unfold save withSession
  -- The row must be there and of the revision that the state was read with.
  cases hrow : s.sessions.get? state.sessionId with
  | none => simp
  | some row =>
    by_cases hrevision : row.revision = state.revision
    · simp only [hrevision, if_true, Except.ok.injEq, Prod.mk.injEq, Option.some.injEq]
      constructor
      · rintro ⟨rfl, rfl⟩
        exact ⟨⟨row, rfl, hrevision⟩, rfl, rfl⟩
      · rintro ⟨-, rfl, rfl⟩
        exact ⟨rfl, rfl⟩
    · simp [hrevision]

/-! ### The newest version -/

/-- There is no newest version of none. -/
theorem newest?_eq_none_iff {vs : List Version} : newest? vs = none ↔ vs = [] := by
  cases vs with
  | nil => simp [newest?]
  | cons v rest =>
    unfold newest?
    split
    · split <;> simp
    · simp

/-- The newest of some versions is the first one of the greatest number. -/
theorem newest?_eq_some {vs : List Version} {v : Version} (h : newest? vs = some v) :
    vs.find? (·.number == v.number) = some v ∧ ∀ w ∈ vs, w.number ≤ v.number := by
  -- On the versions: the first one is the newest, or the newest of the rest is.
  induction vs generalizing v with
  | nil => cases h
  | cons first rest ih =>
    unfold newest? at h
    cases hrest : newest? rest with
    | none =>
      rw [hrest] at h
      obtain rfl := Option.some.inj h
      simp [newest?_eq_none_iff.1 hrest]
    | some w =>
      obtain ⟨hfind, hgreatest⟩ := ih hrest
      simp only [hrest] at h
      split at h
      · rename_i hless
        obtain rfl := Option.some.inj h
        refine ⟨?_, ?_⟩
        · rw [List.find?_cons, beq_false_of_ne (Int.ne_of_lt hless)]
          exact hfind
        · simpa [Int.le_of_lt hless] using hgreatest
      · rename_i hnot
        obtain rfl := Option.some.inj h
        refine ⟨List.find?_cons_of_pos BEq.rfl, fun u hu => ?_⟩
        rcases List.mem_cons.1 hu with rfl | hu
        · exact Int.le_refl _
        · exact Int.le_trans (hgreatest u hu) (Int.not_lt.1 hnot)

/-- Of the versions with one number the first one is the newest. -/
theorem newest?_filter (vs : List Version) (number : Int) :
    newest? (vs.filter (·.number == number)) = vs.find? (·.number == number) := by
  -- Among equal numbers the first one is kept, which is the one that is found.
  cases h : newest? (vs.filter (·.number == number)) with
  | none =>
    rw [newest?_eq_none_iff, List.filter_eq_nil_iff] at h
    exact (List.find?_eq_none.2 h).symm
  | some v =>
    have hfind := (newest?_eq_some h).1
    have hnumber := (List.mem_filter.1 (List.mem_of_find?_eq_some hfind)).2
    rw [List.find?_filter, beq_iff_eq.1 hnumber] at hfind
    simp only [and_self, Bool.decide_eq_true] at hfind
    exact hfind.symm

section Versions

variable {flowId : String}

/-- Without a number the newest version of a flow is selected. -/
theorem select?_none : s.select? flowId none = newest? (s.versions flowId) :=
  congrArg newest? (List.filter_eq_self.2 fun _ _ => rfl)

/-- With a number the first version of the number is selected. -/
theorem select?_some (number : Int) :
    s.select? flowId (some number) = (s.versions flowId).find? (·.number == number) :=
  newest?_filter _ number

/-- A version that is selected is selected by its own number as well. -/
theorem select?_number {number : Option Int} {v : Version} (h : s.select? flowId number = some v) :
    s.select? flowId (some v.number) = some v ∧ ∀ n, number = some n → v.number = n := by
  cases number with
  | none =>
    rw [select?_none] at h
    rw [select?_some]
    exact ⟨(newest?_eq_some h).1, nofun⟩
  | some n =>
    have hnumber : v.number = n := by
      rw [select?_some] at h
      simpa using List.find?_some h
    rw [hnumber]
    exact ⟨h, fun m hm => Option.some.inj hm⟩

end Versions

/-! ### Versions -/

/-- All versions of a store are versions of another one, under the same numbers. -/
def Extends (s' s : Store) : Prop :=
  ∀ id number v, s.select? id (some number) = some v → s'.select? id (some number) = some v

/-- A store extends itself. -/
theorem Extends.refl (s : Store) : s.Extends s := fun _ _ _ h => h

/-- Whatever becomes of the sessions, a store has the versions that it has. -/
theorem Extends.of_flows (h : s'.flows = s.flows) : s'.Extends s := by
  intro id number v hv
  unfold select? versions at *
  rwa [h]

/-- Putting a session in removes no version. -/
theorem extends_withSession (s : Store) (state : Session.State) : (s.withSession state).Extends s :=
  .of_flows rfl

/-- A version that is looked up by its number is found in every store that extends this one. -/
theorem Extends.flow (h : s'.Extends s) {id : String} {number : Int} {p : Published}
    (hp : s.flow id (some number) = .ok p) : s'.flow id (some number) = .ok p := by
  unfold Store.flow at *
  cases hv : s.select? id (some number) with
  | none => simp [hv] at hp
  | some v =>
    rw [h id number v hv]
    rwa [hv] at hp

/-- A version that is looked up can be looked up by its number. -/
theorem flow_pinned {id : String} {number : Option Int} {p : Published}
    (h : s.flow id number = .ok p) :
    p.flowId = id ∧ s.flow id (some p.version) = .ok p ∧
      (s.select? id (some p.version)).isSome ∧ ∀ n, number = some n → p.version = n := by
  unfold flow at h ⊢
  cases hv : s.select? id number with
  | none => simp [hv] at h
  | some v =>
    simp only [hv] at h
    have hparts : p.flowId = id ∧ p.version = v.number := by
      unfold Version.published at h
      cases hd : readText Flow.Definition.ofJson v.text with
      | error e => rw [hd] at h; cases h
      | ok d => rw [hd] at h; cases h; exact ⟨rfl, rfl⟩
    obtain ⟨hselect, hnumber⟩ := select?_number hv
    rw [hparts.2, hselect]
    exact ⟨hparts.1, h, rfl, hnumber⟩

/-- The versions of one flow are set, and those of the others stay. -/
theorem versions_insert (s : Store) (flowId other : String) (vs : List Version) :
    versions { s with flows := s.flows.insert flowId vs } other =
      if other = flowId then vs else s.versions other := by
  unfold versions
  dsimp only
  rw [Dictionary.get?_insert]
  split <;> rfl

/-! ### Publishing -/

/-- The version that a flow is added as: its number is the next one after the latest version. -/
def nextVersion (s : Store) (now : Time.Instant) (flowId : String) (d : Flow.Definition) :
    Version :=
  .ofDefinition ((newest? (s.versions flowId)).elim 1 (·.number + 1)) now d

/-- What publishing comes to: the answer is the latest version, if that has the same checksum, and
the store is as it was; or else a version is added. -/
theorem publish_cases (s : Store) (now : Time.Instant) (flowId : String) (d : Flow.Definition) :
    (∃ v, newest? (s.versions flowId) = some v ∧ v.checksum = checksum d ∧
      s.publish now flowId d = ((v.given flowId d, false), s)) ∨
    (∀ v, newest? (s.versions flowId) = some v → v.checksum ≠ checksum d) ∧
      s.publish now flowId d = (((s.nextVersion now flowId d).given flowId d, true),
        { s with
          flows := s.flows.insert flowId
            (s.versions flowId ++ [s.nextVersion now flowId d]) }) := by
  -- The newest version decides, by its checksum.
  unfold publish nextVersion
  dsimp only
  cases hnewest : newest? (s.versions flowId) with
  | none => exact .inr ⟨nofun, rfl⟩
  | some v =>
    by_cases hsame : v.checksum = checksum d
    · refine .inl ⟨v, rfl, hsame, ?_⟩
      simp [Option.filter, hsame]
    · refine .inr ⟨fun w hw => Option.some.inj hw ▸ hsame, ?_⟩
      simp [Option.filter, hsame]

/-- Publishing adds versions and leaves the others and all sessions alone. -/
theorem extends_publish (s : Store) (now : Time.Instant) (id : String) (d : Flow.Definition) :
    (s.publish now id d).2.Extends s ∧ (s.publish now id d).2.sessions = s.sessions := by
  rcases s.publish_cases now id d with ⟨v, -, -, h⟩ | ⟨-, h⟩
  · rw [h]
    exact ⟨.refl s, rfl⟩
  · rw [h]
    refine ⟨fun other number v hv => ?_, rfl⟩
    -- A version with the number comes before the new one, which is put at the end.
    rw [select?_some] at hv ⊢
    rw [versions_insert]
    by_cases hother : other = id
    · subst hother
      rw [if_pos rfl, List.find?_append, hv]
      rfl
    · rwa [if_neg hother]

/-- Publishing under one id leaves the versions of the others alone. -/
theorem versions_publish_of_ne {flowId other : String} (h : other ≠ flowId) (now : Time.Instant)
    (d : Flow.Definition) : (s.publish now flowId d).2.versions other = s.versions other := by
  rcases s.publish_cases now flowId d with ⟨v, -, -, hpublish⟩ | ⟨-, hpublish⟩
  · rw [hpublish]
  · rw [hpublish, versions_insert, if_neg h]

/-- What publishing answers, and what versions it leaves, depends on the versions before. -/
theorem publish_congr {flowId : String} (h : s.versions flowId = s'.versions flowId)
    (now : Time.Instant) (d : Flow.Definition) :
    (s.publish now flowId d).1 = (s'.publish now flowId d).1 ∧
      (s.publish now flowId d).2.versions flowId = (s'.publish now flowId d).2.versions flowId := by
  unfold publish
  dsimp only
  rw [h]
  split
  · exact ⟨rfl, h⟩
  · refine ⟨rfl, ?_⟩
    rw [versions_insert, versions_insert, if_pos rfl, if_pos rfl]

/-- What is looked up of a flow depends on its versions alone. -/
theorem flow_congr {flowId : String} (h : s.versions flowId = s'.versions flowId)
    (number : Option Int) : s.flow flowId number = s'.flow flowId number := by
  unfold flow select?
  rw [h]

/-- Looking a session up reads its own row only. -/
theorem session_congr {id : String} (h : s.sessions.get? id = s'.sessions.get? id) :
    s.session id = s'.session id := by
  unfold session
  rw [h]

end Store

/-! ### Calls that may be refused -/

namespace Service.Storage

/-- What is read is what the store answers, or the call fails. -/
theorem read_cases {α : Type} (refused : Option Store.Error) (answer : Except Store.Error α) :
    (∃ e, refused.elim answer .error = .error e) ∨
      ∃ a, answer = .ok a ∧ refused.elim answer .error = .ok a := by
  cases refused with
  | some e => exact .inl ⟨e, rfl⟩
  | none =>
    cases answer with
    | error e => exact .inl ⟨e, rfl⟩
    | ok a => exact .inr ⟨a, rfl, rfl⟩

/-- What is written is what the store makes of itself, or the call fails and the store is as it
was. -/
theorem write_cases {α : Type} (refused : Option Store.Error) (s : Store)
    (written : Except Store.Error (α × Store)) :
    (∃ e, refused.elim (attempt s written) (fun e => (.error e, s)) = (.error e, s)) ∨
      ∃ a s', written = .ok (a, s') ∧
        refused.elim (attempt s written) (fun e => (.error e, s)) = (.ok a, s') := by
  cases refused with
  | some e => exact .inl ⟨e, rfl⟩
  | none =>
    cases written with
    | error e => exact .inl ⟨e, rfl⟩
    | ok result => exact .inr ⟨result.1, result.2, rfl, rfl⟩

variable (now : Time.Instant) (refusal : Call → Option Store.Error) (s : Store)

/-- A version is published, or the call is refused. -/
theorem refusing_publish (id : String) (d : Flow.Definition) :
    (∃ e, (refusing now refusal).publish id d s = (.error e, s)) ∨
      (refusing now refusal).publish id d s =
        (.ok (s.publish now id d).1, (s.publish now id d).2) := by
  rcases write_cases (refusal .publish) s (.ok (s.publish now id d)) with
    hfailed | ⟨answer, s', hpublished, hok⟩
  · exact .inl hfailed
  · rw [Except.ok.inj hpublished]
    exact .inr hok

/-- A version is looked up, or the call fails. -/
theorem refusing_flow (id : String) (number : Option Int) :
    (∃ e, (refusing now refusal).flow id number s = .error e) ∨
      ∃ p, s.flow id number = .ok p ∧ (refusing now refusal).flow id number s = .ok p :=
  read_cases (refusal .flow) (s.flow id number)

/-- A session is looked up, or the call fails. -/
theorem refusing_session (id : String) :
    (∃ e, (refusing now refusal).session id s = .error e) ∨
      ∃ state, s.session id = .ok state ∧ (refusing now refusal).session id s = .ok state :=
  read_cases (refusal .session) (s.session id)

/-- A session is added, or the call fails and the store is as it was. -/
theorem refusing_insert (state : Session.State) :
    (∃ e, (refusing now refusal).insert state s = (.error e, s)) ∨
      ∃ s', s.insert state = .ok s' ∧ (refusing now refusal).insert state s = (.ok (), s') := by
  rcases write_cases (refusal .insert) s ((s.insert state).map fun s => ((), s)) with
    hfailed | ⟨_, s', hinserted, hok⟩
  · exact .inl hfailed
  · cases hinsert : s.insert state with
    | error e => rw [hinsert] at hinserted; cases hinserted
    | ok s'' =>
      rw [hinsert] at hinserted
      cases hinserted
      exact .inr ⟨s', rfl, hok⟩

/-- A session is replaced, or the call fails and the store is as it was. -/
theorem refusing_save (state : Session.State) :
    (∃ e, (refusing now refusal).save state s = (.error e, s)) ∨
      ∃ next s', s.save state = .ok (next, s') ∧
        (refusing now refusal).save state s = (.ok next, s') :=
  write_cases (refusal .save) s (s.save state)

end Service.Storage

end Dialogue
