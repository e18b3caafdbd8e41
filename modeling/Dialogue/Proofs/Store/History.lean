import Dialogue.Proofs.Flow.Stored
import Dialogue.Proofs.Service.Calls
import Mathlib.Data.List.Chain

namespace Dialogue.Store

open Dialogue.Flow

/-!
# The versions of a flow are its history

The versions that a store has of a flow are those that publishing answered, in that order. None of
them is ever lost or changed, and publishing adds one exactly when it is given another flow than the
latest one.

* `Numbered`: versions whose numbers count up from 1.
* `Submission`, `publishAll`, `history`: flows that are published one after the other, and the
  versions of one of them that were answered as added.
* `Keeps`: a store has the versions of a history.
* `keeps_publishAll`: it has them after every sequence of publications.
* `Distinguishable`: flows that their checksums tell apart.
* `versions_are_history`: how versions are numbered, looked up and added.
-/

variable {s : Store} {flowId other : String} {d : Definition} {now : Time.Instant}

/-! ### Numbers of versions -/

/-- The numbers of versions count up from 1. -/
def Numbered (vs : List Version) : Prop :=
  ∀ (k : Nat) v, vs[k]? = some v → v.number = (k + 1 : Nat)

/-- A version with a greater number than all others is the newest one. -/
theorem newest?_concat {vs : List Version} {v : Version} (h : ∀ w ∈ vs, w.number < v.number) :
    newest? (vs ++ [v]) = some v := by
  induction vs with
  | nil => rfl
  | cons first rest ih =>
    have hrest := ih fun w hw => h w (List.mem_cons_of_mem first hw)
    rw [List.cons_append, newest?, hrest]
    exact if_pos (h first List.mem_cons_self)

namespace Numbered

variable {vs : List Version} {v : Version}

/-- Of versions whose numbers count up, the last one is the newest. -/
theorem newest?_eq (h : Numbered vs) : newest? vs = vs.getLast? := by
  rcases List.eq_nil_or_concat vs with rfl | ⟨front, last, rfl⟩
  · rfl
  · rw [List.concat_eq_append] at h ⊢
    rw [List.getLast?_concat]
    refine newest?_concat fun w hw => ?_
    obtain ⟨k, hk⟩ := List.getElem?_of_mem hw
    have hlt := (List.getElem?_eq_some_iff.1 hk).1
    have hw := h k w (by rw [List.getElem?_append_left hlt, hk])
    have hlast := h front.length last List.getElem?_concat_length
    omega

/-- The version under a number is the one at its place, counted from 1. -/
theorem find?_eq_some_iff (h : Numbered vs) {number : Int} :
    vs.find? (·.number == number) = some v ↔
      ∃ k : Nat, vs[k]? = some v ∧ number = (k + 1 : Nat) := by
  rw [List.find?_eq_some_iff_getElem]
  constructor
  · rintro ⟨hnumber, k, hk, hv, -⟩
    have hv : vs[k]? = some v := List.getElem?_eq_some_iff.2 ⟨hk, hv⟩
    exact ⟨k, hv, (beq_iff_eq.1 hnumber).symm.trans (h k v hv)⟩
  · rintro ⟨k, hv, rfl⟩
    obtain ⟨hk, hget⟩ := List.getElem?_eq_some_iff.1 hv
    refine ⟨beq_iff_eq.2 (h k v hv), k, hk, hget, fun j hj => ?_⟩
    -- The versions before it have smaller numbers.
    have hbefore := h j vs[j] (List.getElem?_eq_getElem (by omega))
    simp only [hbefore, Bool.not_eq_true', beq_eq_false_iff_ne]
    omega

/-- The numbers that have a version are those from 1 on up to the number of versions. -/
theorem isSome_find?_iff (h : Numbered vs) (number : Int) :
    (vs.find? (·.number == number)).isSome ↔ 1 ≤ number ∧ number ≤ vs.length := by
  simp only [Option.isSome_iff_exists, h.find?_eq_some_iff]
  constructor
  · rintro ⟨v, k, hk, rfl⟩
    have hlt := (List.getElem?_eq_some_iff.1 hk).1
    omega
  · rintro ⟨hleast, hmost⟩
    have hlt : number.toNat - 1 < vs.length := by omega
    exact ⟨vs[number.toNat - 1], number.toNat - 1, List.getElem?_eq_getElem hlt, by omega⟩

/-- Versions whose numbers count up have the numbers from 1 on, in order. -/
theorem map_number (h : Numbered vs) :
    vs.map Version.number = (List.range vs.length).map fun k : Nat => ((k + 1 : Nat) : Int) := by
  refine List.ext_getElem (by simp) fun k hk _ => ?_
  rw [List.length_map] at hk
  rw [List.getElem_map, List.getElem_map, List.getElem_range]
  exact h k vs[k] (List.getElem?_eq_getElem hk)

end Numbered

/-! ### Publications one after the other -/

/-- A flow that is published under an id, and the time at the store. -/
structure Submission where
  flowId : String
  definition : Definition
  now : Time.Instant

/-- A version of a flow as it is given out. -/
def Published.of (flowId : String) (number : Int) (d : Definition) (now : Time.Instant) :
    Published :=
  (Version.ofDefinition number now d).given flowId d

variable {p : Published} {past : List Published} {calls before later : List Submission}

/-- Publishes a flow. -/
def submit (s : Store) (call : Submission) : (Published × Bool) × Store :=
  s.publish call.now call.flowId call.definition

/-- The store after flows were published, one after the other. -/
def publishAll (s : Store) (calls : List Submission) : Store :=
  calls.foldl (fun s call => (s.submit call).2) s

/-- What is answered when flows are published one after the other. -/
def answers (s : Store) : List Submission → List (Published × Bool)
  | [] => []
  | call :: rest => (s.submit call).1 :: answers (s.submit call).2 rest

/-- The version that an answer tells was added to a flow. -/
def added (flowId : String) (answer : Published × Bool) : Option Published :=
  if answer.1.flowId = flowId ∧ answer.2 then some answer.1 else none

/-- A version that is answered has the id and the flow that were given. -/
theorem submit_given (s : Store) (call : Submission) :
    (s.submit call).1.1.flowId = call.flowId ∧
      (s.submit call).1.1.definition = call.definition := by
  unfold submit
  rcases s.publish_cases call.now call.flowId call.definition with ⟨v, -, -, h⟩ | ⟨-, h⟩ <;>
    rw [h] <;> exact ⟨rfl, rfl⟩

/-- Publishing under one id adds no version to the flows under others. -/
theorem added_of_ne {call : Submission} (h : other ≠ call.flowId) :
    added other (s.submit call).1 = none := by
  unfold added
  rw [if_neg]
  rintro ⟨heq, -⟩
  exact h (heq.symm.trans (submit_given s call).1)

/-- The versions of a flow that were answered as added, the first one first. -/
def history (flowId : String) (calls : List Submission) : List Published :=
  (answers {} calls).filterMap (added flowId)

/-- The latest version of a flow, as it was given. -/
def latest? (flowId : String) (calls : List Submission) : Option Definition :=
  (history flowId calls).getLast?.map (·.definition)

/-- Publications follow each other. -/
theorem publishAll_append (s : Store) (before later : List Submission) :
    publishAll s (before ++ later) = publishAll (publishAll s before) later :=
  List.foldl_append

/-- The answers to later publications depend on the earlier ones by the store alone. -/
theorem answers_append (s : Store) (before later : List Submission) :
    answers s (before ++ later) = answers s before ++ answers (publishAll s before) later := by
  induction before generalizing s with
  | nil => rfl
  | cons call rest ih => exact congrArg (_ :: ·) (ih _)

/-- What is in the history stays there, whatever is published later. -/
theorem history_append (flowId : String) (before later : List Submission) :
    history flowId (before ++ later) = history flowId before ++
      (answers (publishAll {} before) later).filterMap (added flowId) := by
  unfold history
  rw [answers_append, List.filterMap_append]

/-- The history with one more publication. -/
theorem history_concat (flowId : String) (before : List Submission) (call : Submission) :
    history flowId (before ++ [call]) = history flowId before ++
      (added flowId ((publishAll {} before).submit call).1).toList := by
  rw [history_append]
  show _ ++ [((publishAll {} before).submit call).1].filterMap (added flowId) = _
  cases h : added flowId ((publishAll {} before).submit call).1 <;> simp [h]

/-- What is answered is what is given. -/
theorem mem_of_mem_answers {answer : Published × Bool} (h : answer ∈ answers s calls) :
    answer.1.definition ∈ calls.map Submission.definition := by
  induction calls generalizing s with
  | nil => cases h
  | cons call rest ih =>
    rcases List.mem_cons.1 h with rfl | h
    · rw [(submit_given s call).2]
      exact List.mem_cons_self
    · exact List.mem_cons_of_mem _ (ih h)

/-- The flows of a history were given. -/
theorem definition_of_mem_history (h : p ∈ history flowId calls) :
    p.definition ∈ calls.map Submission.definition := by
  obtain ⟨answer, hanswer, hadded⟩ := List.mem_filterMap.1 h
  unfold added at hadded
  split at hadded
  · cases hadded
    exact mem_of_mem_answers hanswer
  · cases hadded

/-! ### What a store keeps -/

/-- How a version that was given out is kept. -/
def Published.kept (p : Published) : Version := .ofDefinition p.version p.publishedAt p.definition

/-- A store has the versions of a history, in which numbers count up. -/
structure Keeps (s : Store) (flowId : String) (past : List Published) : Prop where
  versions : s.versions flowId = past.map Published.kept
  numbered : ∀ (k : Nat) p, past[k]? = some p →
    p = Published.of flowId (k + 1 : Nat) p.definition p.publishedAt

/-- A fresh store keeps no versions. -/
theorem keeps_empty (flowId : String) : Keeps {} flowId [] where
  versions := rfl
  numbered k p h := by simp at h

namespace Keeps

/-- There are as many versions as the history is long. -/
theorem length_eq (h : s.Keeps flowId past) : (s.versions flowId).length = past.length := by
  rw [h.versions, List.length_map]

/-- The versions that are kept are numbered from 1 on. -/
theorem numbered_versions (h : s.Keeps flowId past) : Numbered (s.versions flowId) := by
  intro k v hv
  rw [h.versions, List.getElem?_map] at hv
  obtain ⟨p, hp, rfl⟩ := Option.map_eq_some_iff.1 hv
  exact congrArg Published.version (h.numbered k p hp)

/-- The newest version is the last one of the history. -/
theorem newest?_eq (h : s.Keeps flowId past) :
    newest? (s.versions flowId) = past.getLast?.map Published.kept := by
  rw [h.numbered_versions.newest?_eq, h.versions, List.getLast?_map]

/-- The last version has the length of the history as its number. -/
theorem eq_of_getLast? (h : s.Keeps flowId past) (hlatest : past.getLast? = some p) :
    p = .of flowId past.length p.definition p.publishedAt := by
  have hlength := List.length_pos_of_mem (List.mem_of_getLast? hlatest)
  have hp := h.numbered (past.length - 1) p (by rwa [← List.getLast?_eq_getElem?])
  rwa [Nat.sub_add_cancel hlength] at hp

/-- What is kept of the last version is given out as it was answered. -/
theorem given_kept (h : s.Keeps flowId past) (hlatest : past.getLast? = some p) :
    p.kept.given flowId p.definition = p := by
  rw [h.eq_of_getLast? hlatest]
  rfl

/-- The version that is added next has the next number. -/
theorem nextVersion_eq (h : s.Keeps flowId past) (now : Time.Instant) (d : Definition) :
    s.nextVersion now flowId d = .ofDefinition (past.length + 1 : Nat) now d := by
  unfold nextVersion
  rw [h.newest?_eq]
  -- The first version is 1, and a later one follows the newest.
  cases hlatest : past.getLast? with
  | none =>
    rw [List.getLast?_eq_none_iff.1 hlatest]
    rfl
  | some p =>
    have hversion : p.version = past.length := congrArg Published.version (h.eq_of_getLast? hlatest)
    show Version.ofDefinition (p.version + 1) now d = _
    rw [hversion]
    rfl

/-- A flow with the checksum of the latest version is answered as that version. -/
theorem publish_same (h : s.Keeps flowId past) (hlatest : past.getLast? = some p)
    (hsame : checksum p.definition = checksum d) (now : Time.Instant) :
    s.publish now flowId d = ((p.kept.given flowId d, false), s) := by
  have hnewest : newest? (s.versions flowId) = some p.kept := by
    rw [h.newest?_eq, hlatest]
    rfl
  rcases s.publish_cases now flowId d with ⟨v, hv, -, hpublish⟩ | ⟨hother, -⟩
  · obtain rfl := Option.some.inj (hnewest.symm.trans hv)
    exact hpublish
  · exact absurd hsame (hother _ hnewest)

/-- A flow with another checksum than the latest version becomes the next version. -/
theorem publish_next (h : s.Keeps flowId past)
    (hother : ∀ p, past.getLast? = some p → checksum p.definition ≠ checksum d)
    (now : Time.Instant) :
    (s.publish now flowId d).1 = (.of flowId (past.length + 1 : Nat) d now, true) ∧
      (s.publish now flowId d).2.versions flowId =
        s.versions flowId ++ [.ofDefinition (past.length + 1 : Nat) now d] := by
  rcases s.publish_cases now flowId d with ⟨v, hv, hsame, -⟩ | ⟨-, hpublish⟩
  · rw [h.newest?_eq] at hv
    obtain ⟨p, hp, rfl⟩ := Option.map_eq_some_iff.1 hv
    exact absurd hsame (hother p hp)
  · rw [hpublish, h.nextVersion_eq]
    exact ⟨rfl, (versions_insert s flowId flowId _).trans (if_pos rfl)⟩

/-- A history that goes on with a version of the next number is kept. -/
theorem concat {s' : Store} (h : s.Keeps flowId past)
    (hversions : s'.versions flowId =
      s.versions flowId ++ [.ofDefinition (past.length + 1 : Nat) now d]) :
    s'.Keeps flowId (past ++ [.of flowId (past.length + 1 : Nat) d now]) where
  versions := by
    rw [hversions, h.versions, List.map_append]
    rfl
  numbered := by
    intro k p hp
    rcases Nat.lt_or_ge k past.length with hk | hk
    · rw [List.getElem?_append_left hk] at hp
      exact h.numbered k p hp
    · rw [List.getElem?_append_right hk, List.getElem?_singleton] at hp
      split at hp
      · obtain rfl := Option.some.inj hp
        obtain rfl : k = past.length := by omega
        rfl
      · cases hp

/-- A store that has the same versions keeps the same history. -/
theorem of_versions {s' : Store} (h : s.Keeps flowId past)
    (hversions : s'.versions flowId = s.versions flowId) : s'.Keeps flowId past :=
  ⟨hversions.trans h.versions, h.numbered⟩

/-- A publication keeps the history of its flow, to which its answer belongs if it tells that a
version was added. -/
theorem submit (h : s.Keeps flowId past) (call : Submission) :
    (s.submit call).2.Keeps flowId (past ++ (added flowId (s.submit call).1).toList) := by
  -- Only submissions under this id can add a version of it.
  by_cases hid : flowId = call.flowId
  · subst hid
    unfold Store.submit
    by_cases hsame : ∃ p, past.getLast? = some p ∧ checksum p.definition = checksum call.definition
    · obtain ⟨p, hlatest, hsum⟩ := hsame
      rw [h.publish_same hlatest hsum call.now]
      simpa [added] using h
    · obtain ⟨hanswer, hversions⟩ := h.publish_next
        (fun p hp hsum => hsame ⟨p, hp, hsum⟩) call.now
      rw [hanswer]
      simpa [added, Published.of, Version.given] using h.concat hversions
  · rw [added_of_ne hid, Option.toList_none, List.append_nil]
    exact h.of_versions (versions_publish_of_ne hid call.now call.definition)

end Keeps

/-- After every sequence of publications, a store keeps the history of each flow. -/
theorem keeps_publishAll (calls : List Submission) (flowId : String) :
    (publishAll {} calls).Keeps flowId (history flowId calls) := by
  -- The induction is on the last call, since an answer depends on all calls before.
  induction calls using List.reverseRecOn with
  | nil => exact keeps_empty flowId
  | append_singleton before call ih =>
    rw [publishAll_append, history_concat]
    exact ih.submit call

/-! ### Checksums -/

/-- Flows whose checksums tell them apart. -/
structure Distinguishable (definitions : List Definition) : Prop where
  /-- They came in as JSON. -/
  received : ∀ d ∈ definitions, d.Received
  /-- Their settings hold no numbers but integers. -/
  whole : ∀ d ∈ definitions, d.settings.isWhole
  /-- Their checksums are different when their texts are. -/
  collisionFree : ∀ d ∈ definitions, ∀ d' ∈ definitions,
    checksum d = checksum d' → d.toJson.write = d'.toJson.write

namespace Distinguishable

variable {definitions : List Definition} {d' : Definition}

/-- Fewer flows are told apart as well. -/
theorem mono {definitions' : List Definition} (h : Distinguishable definitions)
    (hsubset : definitions' ⊆ definitions) : Distinguishable definitions' where
  received d hd := h.received d (hsubset hd)
  whole d hd := h.whole d (hsubset hd)
  collisionFree d hd d' hd' := h.collisionFree d (hsubset hd) d' (hsubset hd')

/-- Only one of the flows has a checksum. -/
theorem eq_of_checksum_eq (h : Distinguishable definitions) (hd : d ∈ definitions)
    (hd' : d' ∈ definitions) (hsum : checksum d = checksum d') : d = d' :=
  eq_of_text_eq (h.received d hd) (h.whole d hd) (h.received d' hd') (h.whole d' hd')
    (h.collisionFree d hd d' hd' hsum)

/-- A flow that is not the latest version has another checksum. -/
theorem checksum_ne (h : Distinguishable definitions) (hd : d ∈ definitions)
    (hcalls : calls.map Submission.definition ⊆ definitions)
    (hlatest : latest? flowId calls ≠ some d) (hp : (history flowId calls).getLast? = some p) :
    checksum p.definition ≠ checksum d := by
  intro hsum
  have hmem := hcalls (definition_of_mem_history (List.mem_of_getLast? hp))
  exact hlatest (Option.map_eq_some_iff.2 ⟨p, hp, h.eq_of_checksum_eq hmem hd hsum⟩)

/-- Each of the flows is read back from its text. -/
theorem readText (h : Distinguishable definitions) (hd : d ∈ definitions) :
    Store.readText Definition.ofJson d.toJson.write = .ok d :=
  readText_ofDefinition (h.received d hd).settled (h.whole d hd)

/-- The flow changes from each version of a history to the next. -/
theorem changes (h : Distinguishable (calls.map Submission.definition)) (flowId : String) :
    (history flowId calls).IsChain fun p q => p.definition ≠ q.definition := by
  induction calls using List.reverseRecOn with
  | nil => exact .nil
  | append_singleton before call ih =>
    have hbefore := ih (h.mono (by simp))
    have hkeeps := keeps_publishAll before flowId
    rw [history_concat]
    by_cases hid : flowId = call.flowId
    · subst hid
      unfold submit
      by_cases hlatest : latest? call.flowId before = some call.definition
      · obtain ⟨p, hp, hdefinition⟩ := Option.map_eq_some_iff.1 hlatest
        rw [hkeeps.publish_same hp (congrArg checksum hdefinition) call.now]
        simpa [added] using hbefore
      · obtain ⟨hanswer, -⟩ := hkeeps.publish_next
          (fun p hp => h.checksum_ne (by simp) (by simp) hlatest hp) call.now
        rw [hanswer]
        -- Only the last pair of versions is new, and the flow is not the one before it.
        have hnew : added call.flowId
            (Published.of call.flowId ((history call.flowId before).length + 1 : Nat)
              call.definition call.now, true) = some _ := if_pos ⟨rfl, rfl⟩
        rw [hnew]
        refine hbefore.append (.singleton _) fun p hp q hq => ?_
        obtain rfl : _ = q := by simpa using hq
        exact fun heq => hlatest (Option.map_eq_some_iff.2 ⟨p, hp, heq⟩)
    · rw [added_of_ne hid]
      simpa using hbefore

end Distinguishable

/-! ### What a store tells -/

/-- What a store tells about the versions of a flow with a history. -/
structure Tells (s : Store) (flowId : String) (past : List Published) : Prop where
  /-- The versions that are kept have the numbers from 1 on up to the length of the history. -/
  stored : (s.versions flowId).map Version.number =
    (List.range past.length).map fun k : Nat => ((k + 1 : Nat) : Int)
  /-- The numbers that have a version count up from 1 to the length of the history. -/
  numbers : ∀ number : Int,
    (s.select? flowId (some number)).isSome ↔ 1 ≤ number ∧ number ≤ past.length
  /-- Versions that follow each other are different flows. -/
  changes : past.IsChain fun p q => p.definition ≠ q.definition
  /-- Under its number, a version is given out as it was answered when it was added. -/
  pinned : ∀ (k : Nat) (p : Published), past[k]? = some p →
    p.flowId = flowId ∧ p.version = (k + 1 : Nat) ∧ s.flow flowId (some p.version) = .ok p
  /-- Without a number, the latest version is given out. -/
  latest : ∀ p, past.getLast? = some p →
    p.version = past.length ∧ s.flow flowId none = .ok p
  /-- Without a number, a flow that was never published is not found. -/
  unpublished : past = [] → s.flow flowId none = .error (.flowNotFound flowId none)
  /-- Under other numbers no version is found. -/
  missing : ∀ number : Int, ¬ (1 ≤ number ∧ number ≤ past.length) →
    s.flow flowId (some number) = .error (.flowNotFound flowId (some number))

/-- A version that is selected is given out. -/
theorem flow_of_select? {number : Option Int} {v : Version}
    (h : s.select? flowId number = some v) : s.flow flowId number = v.published flowId := by
  unfold flow
  rw [h]

/-- If no version is selected, none is found. -/
theorem flow_of_select?_none {number : Option Int} (h : s.select? flowId number = none) :
    s.flow flowId number = .error (.flowNotFound flowId number) := by
  unfold flow
  rw [h]

namespace Keeps

/-- Under its number, a version of the history is selected. -/
theorem select?_eq (h : s.Keeps flowId past) {k : Nat} (hp : past[k]? = some p) :
    s.select? flowId (some p.version) = some p.kept := by
  rw [select?_some, h.numbered_versions.find?_eq_some_iff]
  refine ⟨k, ?_, congrArg Published.version (h.numbered k p hp)⟩
  rw [h.versions, List.getElem?_map, hp]
  rfl

/-- A version of the history is given out as it was answered if its text is read back. -/
theorem published_eq (h : s.Keeps flowId past) {k : Nat} (hp : past[k]? = some p)
    (hread : readText Definition.ofJson p.definition.toJson.write = .ok p.definition) :
    p.kept.published flowId = .ok p := by
  have hpublished : p.kept.published flowId = .ok (p.kept.given flowId p.definition) := by
    unfold Version.published
    rw [show p.kept.text = p.definition.toJson.write from rfl, hread]
    rfl
  rw [hpublished, h.numbered k p hp]
  rfl

/-- The latest version is given out as it was answered if its text is read back. -/
theorem flow_latest (h : s.Keeps flowId past) (hlatest : past.getLast? = some p)
    (hread : readText Definition.ofJson p.definition.toJson.write = .ok p.definition) :
    s.flow flowId none = .ok p := by
  have hselect : s.select? flowId none = some p.kept := by
    rw [select?_none, h.newest?_eq, hlatest]
    rfl
  rw [flow_of_select? hselect]
  rw [List.getLast?_eq_getElem?] at hlatest
  exact h.published_eq hlatest hread

/-- A store that keeps a history, in which the flow changes from each version to the next, tells it
if all its texts are read back. -/
theorem tells (h : s.Keeps flowId past)
    (hchanges : past.IsChain fun p q => p.definition ≠ q.definition)
    (hread : ∀ p ∈ past,
      readText Definition.ofJson p.definition.toJson.write = .ok p.definition) :
    s.Tells flowId past := by
  have hnumbers : ∀ number : Int,
      (s.select? flowId (some number)).isSome ↔ 1 ≤ number ∧ number ≤ past.length := by
    intro number
    rw [select?_some, h.numbered_versions.isSome_find?_iff, h.length_eq]
  refine ⟨?stored, hnumbers, hchanges, ?pinned, ?latest, ?unpublished, ?missing⟩
  case stored => rw [h.numbered_versions.map_number, h.length_eq]
  case pinned =>
    intro k p hp
    have hnumbered := h.numbered k p hp
    refine ⟨congrArg Published.flowId hnumbered, congrArg Published.version hnumbered, ?_⟩
    rw [flow_of_select? (h.select?_eq hp)]
    exact h.published_eq hp (hread p (List.mem_of_getElem? hp))
  case latest =>
    intro p hp
    exact ⟨congrArg Published.version (h.eq_of_getLast? hp),
      h.flow_latest hp (hread p (List.mem_of_getLast? hp))⟩
  case unpublished =>
    rintro rfl
    exact flow_of_select?_none (by rw [select?_none, h.newest?_eq]; rfl)
  case missing =>
    intro number hnumber
    exact flow_of_select?_none (Option.not_isSome_iff_eq_none.1 (by rwa [hnumbers]))

end Keeps

/-! ### The history of a flow -/

/-- After every sequence of publications, a store tells the history of each flow. -/
theorem tells_publishAll (h : Distinguishable (calls.map Submission.definition)) (flowId : String) :
    (publishAll {} calls).Tells flowId (history flowId calls) :=
  (keeps_publishAll calls flowId).tells (h.changes flowId) fun _ hp =>
    h.readText (definition_of_mem_history hp)

/-- A version that a publication adds is the next one of the history, whatever is published
later. -/
theorem getElem?_history {call : Submission}
    (hadded : ((publishAll {} before).submit call).1 = (p, true)) (hid : p.flowId = flowId) :
    (history flowId (before ++ call :: later))[(history flowId before).length]? = some p := by
  rw [history_append, List.getElem?_append_right Nat.le.refl, Nat.sub_self, answers, hadded]
  simp [added, hid]

/-- After every sequence of publications, the versions of a flow are those that were answered as
added, in that order, and are given out as they were answered. A flow that is the latest one is
answered as it was when it was added; any other becomes the next version. -/
theorem versions_are_history (calls : List Submission)
    (h : Distinguishable (calls.map Submission.definition)) :
    (∀ flowId, (publishAll {} calls).Tells flowId (history flowId calls)) ∧
      ∀ before flowId d now later, calls = before ++ ⟨flowId, d, now⟩ :: later →
        let n := (history flowId before).length
        let answer := ((publishAll {} before).publish now flowId d).1
        (latest? flowId before = some d ∧ ∃ p, (history flowId before).getLast? = some p ∧
            p = .of flowId n d p.publishedAt ∧ answer = (p, false)) ∨
          (latest? flowId before ≠ some d ∧ answer = (.of flowId (n + 1 : Nat) d now, true) ∧
            (publishAll {} calls).flow flowId (some (n + 1 : Nat)) = .ok answer.1) := by
  refine ⟨tells_publishAll h, ?_⟩
  rintro before flowId d now later rfl
  have hkeeps := keeps_publishAll before flowId
  dsimp only
  -- The store compares checksums; here they differ exactly when the flows do.
  by_cases hlatest : latest? flowId before = some d
  · obtain ⟨p, hp, rfl⟩ := Option.map_eq_some_iff.1 hlatest
    refine .inl ⟨hlatest, p, hp, hkeeps.eq_of_getLast? hp, ?_⟩
    rw [hkeeps.publish_same hp rfl, hkeeps.given_kept hp]
  · have hanswer := (hkeeps.publish_next
      (fun p hp => h.checksum_ne (by simp) (by simp) hlatest hp) now).1
    have hpinned := (tells_publishAll h flowId).pinned _ _ (getElem?_history hanswer rfl)
    exact .inr ⟨hlatest, hanswer, by rw [hanswer]; exact hpinned.2.2⟩

/-! ### A short history -/

namespace Tour

/-- A flow without settings. -/
def draft : Definition where
  containers := []

/-- The flow with settings. -/
def seated : Definition where
  containers := []
  settings := .obj [("seats", .num (.int 12))]

/-- The flow is changed, and changed back, each time a second later. -/
def changes : List Submission :=
  [⟨"tour", draft, ⟨0, 0⟩⟩, ⟨"visit", draft, ⟨1, 0⟩⟩, ⟨"tour", seated, ⟨2, 0⟩⟩,
    ⟨"tour", draft, ⟨3, 0⟩⟩]

theorem distinguishable : Distinguishable [draft, seated] := by
  have hdraft : draft.Received := (Definition.received_iff rfl).2 ⟨rfl, by decide, rfl⟩
  have hseated : seated.Received := (Definition.received_iff rfl).2 ⟨rfl, by decide, rfl⟩
  have hother : checksum draft ≠ checksum seated := by decide +kernel
  refine ⟨by simp [hdraft, hseated], by simp +decide, ?_⟩
  simp [hother, hother.symm]

end Tour

/-- The first version of the tour becomes its third version as well. -/
theorem versions_are_history_tour :
    Distinguishable (Tour.changes.map Submission.definition) ∧
      (publishAll {} Tour.changes).flow "tour" (some 3) =
        .ok (.of "tour" 3 Tour.draft ⟨3, 0⟩) := by
  have h : Distinguishable (Tour.changes.map Submission.definition) :=
    Tour.distinguishable.mono (by simp [Tour.changes])
  have hdifferent : Tour.draft ≠ Tour.seated := by simp [Tour.draft, Tour.seated]
  -- The theorem itself tells the second version, so that no checksum is computed for it.
  have hfirst : history "tour" (Tour.changes.take 2) = [.of "tour" 1 Tour.draft ⟨0, 0⟩] := rfl
  have hsecond : history "tour" (Tour.changes.take 3) =
      [.of "tour" 1 Tour.draft ⟨0, 0⟩, .of "tour" 2 Tour.seated ⟨2, 0⟩] := by
    rcases (versions_are_history _ h).2 (Tour.changes.take 2) "tour" Tour.seated ⟨2, 0⟩ _ rfl with
      ⟨hsame, -⟩ | ⟨-, hanswer, -⟩
    · rw [latest?, hfirst] at hsame
      exact absurd (Option.some.inj hsame) hdifferent
    · rw [show Tour.changes.take 3 =
          Tour.changes.take 2 ++ [⟨"tour", Tour.seated, ⟨2, 0⟩⟩] from rfl,
        history_concat, submit, hanswer, hfirst]
      rfl
  refine ⟨h, ?_⟩
  rcases (versions_are_history _ h).2 (Tour.changes.take 3) "tour" Tour.draft ⟨3, 0⟩ [] rfl with
    ⟨hsame, -⟩ | ⟨-, hanswer, hpinned⟩
  · rw [latest?, hsecond] at hsame
    exact absurd (Option.some.inj hsame).symm hdifferent
  · rw [hanswer, hsecond] at hpinned
    exact hpinned

end Dialogue.Store
