import Dialogue.Proofs.Json.RoundTrip
import Dialogue.Proofs.Session.Acts
import Dialogue.Proofs.Time.Written
import Dialogue.Store

namespace Dialogue

open Json

/-!
# Sessions read back from the store

A session that is read back from its stored text is the session that was stored. Its times must be
ones that can be told apart; a version, a place or a revision beyond 64 bits makes the text
unreadable, but is never read as another one.

* `Json.Stands`: a JSON value stands for what it was made of.
* `Session.State.Dated`: all times of a session can be told apart.
* `Store.eq_of_readText`: a session that is read back is the one that was stored.
* `Store.readText_ofState`: a session within 64 bits is read back.
-/

/-! ### Dictionaries -/

namespace Dictionary

variable {α : Type}

/-- An entry whose name comes after all others is put at the end. -/
theorem insertEntry_last {name : String} (value : α) {entries : List (String × α)}
    (h : ∀ e ∈ entries, e.1 < name) :
    insertEntry name value entries = entries ++ [(name, value)] := by
  -- All names before are smaller, so the entry goes to the end.
  induction entries with
  | nil => rfl
  | cons e rest ih =>
    have hlt : e.1 < name := h e List.mem_cons_self
    have hne : name ≠ e.1 := by
      intro he
      rw [he] at hlt
      exact String.lt_irrefl _ hlt
    have hnlt : ¬name < e.1 := fun hgt => String.lt_irrefl _ (String.lt_trans hlt hgt)
    rw [insertEntry, if_neg hnlt, if_neg hne, ih fun f hf => h f (List.mem_cons_of_mem e hf),
      List.cons_append]

/-- Entries in ascending order stay in their order. -/
theorem entries_foldl_insert (d : Dictionary α) (entries : List (String × α))
    (h : Sorted (d.entries ++ entries)) :
    (entries.foldl (fun d e => d.insert e.1 e.2) d).entries = d.entries ++ entries := by
  -- Every entry comes after all that are in the dictionary already, so it is put at the end.
  induction entries generalizing d with
  | nil => rw [List.foldl_nil, List.append_nil]
  | cons e rest ih =>
    have hentries : (d.insert e.1 e.2).entries = d.entries ++ [e] :=
      insertEntry_last e.2 fun f hf => (List.pairwise_append.1 h).2.2 f hf e List.mem_cons_self
    have hsorted : Sorted ((d.insert e.1 e.2).entries ++ rest) := by
      rwa [hentries, List.append_assoc, List.singleton_append]
    rw [List.foldl_cons, ih (d.insert e.1 e.2) hsorted, hentries, List.append_assoc,
      List.singleton_append]

/-- A dictionary is the dictionary of its entries. -/
theorem ofList_entries (d : Dictionary α) : ofList d.entries = d :=
  ext (entries_foldl_insert empty d.entries d.sorted)

end Dictionary

/-! ### Values that stand for others -/

namespace Json

/-- A value that is read back as it is, and stands for what it was made of. -/
structure Stands {α : Type} (decode : Json → Decoded α) (room : Nat) (j : Json) (x : α) : Prop where
  plain : Plain room j
  decoded : decode j = .ok x

namespace Stands

variable {α : Type} {decode : Json → Decoded α} {room : Nat}

/-- An array stands for a list when each item stands for one of the list's. -/
theorem list {encode : α → Json} {xs : List α}
    (h : ∀ x ∈ xs, Stands decode room (encode x) x) :
    Stands (asList decode) (room + 1) (.arr (xs.map encode)) xs := by
  -- The place of an item is told in misfits only.
  have hdecode : ∀ index, decodeItems decode index (xs.map encode) = .ok xs := by
    induction xs with
    | nil => intro index; rfl
    | cons x rest ih =>
      intro index
      have hx := (h x List.mem_cons_self).decoded
      have hrest := ih (fun x hx => h x (List.mem_cons_of_mem _ hx)) (index + 1)
      rw [List.map_cons, decodeItems, hx, hrest]
      rfl
  refine ⟨.arr ?_, hdecode 0⟩
  intro item hitem
  obtain ⟨x, hx, rfl⟩ := List.mem_map.1 hitem
  exact (h x hx).plain

/-- An object of texts stands for its dictionary. -/
theorem dictionary (room : Nat) (d : Dictionary String) :
    Stands (asDictionary asText) (room + 1) (ofDictionary .str d) d := by
  -- Entry by entry; the entries are put in order again where they are.
  have hdecode : ∀ entries : List (String × String),
      decodeMembers asText (entries.map fun e => (e.1, .str e.2)) = .ok entries := by
    intro entries
    induction entries with
    | nil => rfl
    | cons e rest ih =>
      rw [List.map_cons, decodeMembers, ih]
      rfl
  constructor
  · refine .obj fun m hm => ?_
    obtain ⟨e, -, rfl⟩ := List.mem_map.1 hm
    exact .str e.2
  · unfold ofDictionary asDictionary
    dsimp only
    rw [hdecode]
    exact congrArg Decoded.ok d.ofList_entries

end Stands

end Json

/-! ### The parts of a session -/

/-- A span is written and read back. -/
theorem Text.Span.stands (s : Span) : Stands ofJson 1 s.toJson s := by
  cases s with
  | plain text => exact ⟨.obj (by simp [Plain.str]), rfl⟩
  | link label url => exact ⟨.obj (by simp [Plain.str]), rfl⟩

/-- An instant is, where its text is. -/
theorem Time.Instant.stands {t : Instant} (h : t.Representable) : Stands ofJson 0 t.toJson t := by
  refine ⟨.str _, ?_⟩
  unfold ofJson toJson
  dsimp only
  rw [read?_text h]
  rfl

namespace Session

/-- What a visitor sends is. -/
theorem Inbound.stands (i : Inbound) : Stands ofJson 1 i.toJson i := by
  obtain ⟨text, buttonId⟩ := i
  cases text <;> cases buttonId <;> exact ⟨.obj (by simp [Plain.str, memberOf?]), rfl⟩

/-- A message is, with its spans or with its description. -/
theorem Message.stands (m : Message) : Stands ofJson 3 m.toJson m := by
  cases m with
  | text content spans =>
    have hspans : Stands (asList Text.Span.ofJson) 2 (.arr (spans.map Text.Span.toJson)) spans :=
      Stands.list fun span _ => span.stands
    refine ⟨.obj (by simp [Plain.str, hspans.plain]), ?_⟩
    show Message.text <$> (asText (.str content)).under (.field "text") <*>
      (asList Text.Span.ofJson (.arr (spans.map Text.Span.toJson))).under (.field "spans") = _
    rw [hspans.decoded]
    rfl
  | media kind url alt =>
    cases alt <;> cases kind <;> exact ⟨.obj (by simp [Plain.str, memberOf?]), rfl⟩

/-- An entry of the log is, where its instant is. -/
theorem LogEntry.stands {e : LogEntry} (h : e.time.Representable) : Stands ofJson 4 e.toJson e := by
  have hstands : ∀ t, e.time = t → Stands Time.Instant.ofJson 0 t.toJson t := by
    rintro t rfl
    exact Time.Instant.stands h
  have hplain : ∀ t, e.time = t → Plain 3 t.toJson := fun t ht =>
    (hstands t ht).plain.mono (by decide)
  -- Each kind of entry has its own two fields.
  cases e with
  | inbound payload time =>
    have hpayload := payload.stands
    have htime := hstands time rfl
    have htimePlain := hplain time rfl
    refine ⟨.obj (by simp [Plain.str, htimePlain, hpayload.plain.mono]), ?_⟩
    show LogEntry.inbound <$> (Inbound.ofJson payload.toJson).under (.field "payload") <*>
      (Time.Instant.ofJson time.toJson).under (.field "at") = _
    rw [hpayload.decoded, htime.decoded]
    rfl
  | outbound message time =>
    have hmessage := message.stands
    have htime := hstands time rfl
    have htimePlain := hplain time rfl
    refine ⟨.obj (by simp [Plain.str, htimePlain, hmessage.plain]), ?_⟩
    show LogEntry.outbound <$> (Message.ofJson message.toJson).under (.field "message") <*>
      (Time.Instant.ofJson time.toJson).under (.field "at") = _
    rw [hmessage.decoded, htime.decoded]
    rfl
  | redirect url time =>
    have htime := hstands time rfl
    have htimePlain := hplain time rfl
    refine ⟨.obj (by simp [Plain.str, htimePlain]), ?_⟩
    show LogEntry.redirect <$> (asText (.str url)).under (.field "url") <*>
      (Time.Instant.ofJson time.toJson).under (.field "at") = _
    rw [htime.decoded]
    rfl

/-- What a session waits for is, or null. -/
theorem Awaited.stands (w : Option Awaited) :
    Stands (asOption (variant false Awaited.names)) 0 (optionJson w) w := by
  cases w with
  | none => exact ⟨.null, rfl⟩
  | some w =>
    refine ⟨.str _, ?_⟩
    cases w with
    | buttons => rfl
    | input kind => cases kind <;> rfl

/-- The status of a session is. -/
theorem Status.stands (s : Status) : Stands (variant false Status.names) 0 (.str s.name) s := by
  refine ⟨.str _, ?_⟩
  cases s <;> rfl

/-! ### Sessions -/

/-- All times of a session can be told apart. -/
structure State.Dated (s : State) : Prop where
  created : s.createdAt.Representable
  updated : s.updatedAt.Representable
  log : ∀ e ∈ s.log, e.time.Representable

/-- A turn whose time can be told apart keeps the times of a session so. -/
theorem Turn.run_dated {g : Flow.Graph} {env : Environment} {drawn : Nat} {s : State}
    {inbound : Option Inbound} {t : Turn} (hs : s.Dated) (hnow : env.now.Representable)
    (h : Turn.run g env drawn s inbound = .ok t) : t.state.Dated where
  created := by
    have hcreated : t.state.createdAt = s.createdAt := congrArg Origin.createdAt (run_origin h)
    rw [hcreated]
    exact hs.created
  updated := by
    rw [run_updatedAt h]
    exact hnow
  log := by
    -- What the turn adds to the log is of its own time.
    obtain ⟨added, hlog, htime⟩ := run_log h
    intro e he
    rw [hlog] at he
    rcases List.mem_append.1 he with he | he
    · exact hs.log e he
    · rw [htime e he]
      exact hnow

namespace State

variable {s : State}

/-- A session as JSON, with its numbers as given. -/
def jsonWith (version index revision : Json) (s : State) : Json :=
  .obj [("sessionId", .str s.sessionId), ("flowId", .str s.flowId), ("flowVersion", version),
    ("currentContainerId", .str s.containerId), ("currentNodeIndex", index),
    ("variables", ofDictionary .str s.vars), ("results", ofDictionary .str s.results),
    ("messageLog", .arr (s.log.map LogEntry.toJson)),
    ("waitingFor", Awaited.optionJson s.waitingFor), ("status", .str s.status.name),
    ("revision", revision), ("createdAt", s.createdAt.toJson), ("updatedAt", s.updatedAt.toJson)]

/-- The numbers of a session are written as integers. -/
theorem toJson_eq_jsonWith (s : State) :
    s.toJson = s.jsonWith (.int s.flowVersion) (.int s.nodeIndex) (.int s.revision) := rfl

/-- Apart from its numbers, the JSON of a session stands for the session. -/
theorem ofJson_jsonWith (hs : s.Dated) (version index revision : Json) :
    ofJson (s.jsonWith version index revision) =
      (fun version index revision =>
        { s with flowVersion := version, nodeIndex := index, revision }) <$>
        (asInt64 version).under (.field "flowVersion") <*>
        (asNat64 index).under (.field "currentNodeIndex") <*>
        (asInt64 revision).under (.field "revision") := by
  have hvars := (Stands.dictionary 0 s.vars).decoded
  have hresults := (Stands.dictionary 0 s.results).decoded
  have hlog := (Stands.list fun e he => LogEntry.stands (hs.log e he)).decoded
  have hwaiting := (Awaited.stands s.waitingFor).decoded
  have hstatus := s.status.stands.decoded
  have hcreated := (Time.Instant.stands hs.created).decoded
  have hupdated := (Time.Instant.stands hs.updated).decoded
  -- Each member of the object is found under its name, in the order of the fields.
  show State.mk <$> (asText (.str s.sessionId)).under (.field "sessionId") <*>
    (asText (.str s.flowId)).under (.field "flowId") <*>
    (asInt64 version).under (.field "flowVersion") <*>
    (asText (.str s.containerId)).under (.field "currentContainerId") <*>
    (asNat64 index).under (.field "currentNodeIndex") <*>
    (asDictionary asText (ofDictionary .str s.vars)).under (.field "variables") <*>
    (asDictionary asText (ofDictionary .str s.results)).under (.field "results") <*>
    (asList LogEntry.ofJson (.arr (s.log.map LogEntry.toJson))).under (.field "messageLog") <*>
    (asOption (variant false Awaited.names) (Awaited.optionJson s.waitingFor)).under
      (.field "waitingFor") <*>
    (variant false Status.names (.str s.status.name)).under (.field "status") <*>
    (asInt64 revision).under (.field "revision") <*>
    (Time.Instant.ofJson s.createdAt.toJson).under (.field "createdAt") <*>
    (Time.Instant.ofJson s.updatedAt.toJson).under (.field "updatedAt") = _
  rw [hvars, hresults, hlog, hwaiting, hstatus, hcreated, hupdated]
  cases asInt64 version <;> cases asNat64 index <;> cases asInt64 revision <;> rfl

/-- The session as JSON, once its numbers are plain. -/
theorem plain_jsonWith (hs : s.Dated) {version index revision : Json} (hversion : Plain 5 version)
    (hindex : Plain 5 index) (hrevision : Plain 5 revision) :
    Plain 6 (s.jsonWith version index revision) := by
  -- Each field is plain within one level less.
  have hvars := (Stands.dictionary 4 s.vars).plain
  have hresults := (Stands.dictionary 4 s.results).plain
  have hlog := (Stands.list fun e he => LogEntry.stands (hs.log e he)).plain
  have hwaiting := (Awaited.stands s.waitingFor).plain.mono (Nat.zero_le 5)
  have hcreated := (Time.Instant.stands hs.created).plain.mono (Nat.zero_le 5)
  have hupdated := (Time.Instant.stands hs.updated).plain.mono (Nat.zero_le 5)
  unfold jsonWith
  refine .obj ?_
  simp [Plain.str, hversion, hindex, hrevision, hvars, hresults, hlog, hwaiting, hcreated, hupdated]

/-- What the JSON of a session is read back as: only the numbers may change. -/
theorem reread?_toJson (hs : s.Dated) :
    s.toJson.reread? = do
      let version ← rereadInt s.flowVersion
      let index ← rereadInt s.nodeIndex
      let revision ← rereadInt s.revision
      return s.jsonWith (.num version) (.num index) (.num revision) := by
  -- Only the three numbers may be read as other numbers; everything else is read as it is.
  have hvars := (Stands.dictionary 0 s.vars).plain.reread
  have hresults := (Stands.dictionary 0 s.results).plain.reread
  have hlog : rereadItems? (s.log.map LogEntry.toJson) = some (s.log.map LogEntry.toJson) := by
    have h := (Stands.list fun e he => LogEntry.stands (hs.log e he)).plain.reread
    rw [reread?] at h
    obtain ⟨items, hitems, heq⟩ := Option.map_eq_some_iff.1 h
    cases heq
    exact hitems
  have hwaiting := (Awaited.stands s.waitingFor).plain.reread
  have hcreated := (Time.Instant.stands hs.created).plain.reread
  have hupdated := (Time.Instant.stands hs.updated).plain.reread
  rw [toJson_eq_jsonWith]
  unfold jsonWith Json.int
  rw [reread?]
  simp only [rereadMembers?, reread?, hvars, hresults, hlog, hwaiting, hcreated, hupdated]
  cases rereadInt s.flowVersion <;> cases rereadInt s.nodeIndex <;> cases rereadInt s.revision <;>
    rfl

/-- The JSON of a session has no floats, and the reader allows for its depth. -/
theorem isWhole_toJson (hs : s.Dated) : s.toJson.isWhole ∧ s.toJson.depth ≤ Reader.depthLimit := by
  -- Numbers count for neither, so others may stand in their places.
  have hplain := plain_jsonWith hs .null .null .null
  have hwhole : (s.jsonWith .null .null .null).isWhole = s.toJson.isWhole := rfl
  have hdepth : (s.jsonWith .null .null .null).depth = s.toJson.depth := rfl
  rw [← hwhole, ← hdepth]
  exact ⟨hplain.whole, Nat.le_trans hplain.depth (by decide)⟩

end State

end Session

namespace Store

open Session

/-- An integer that is decoded from what another one is read back as is that one. -/
theorem eq_of_asInt {n m least most : Int} {number : Number} (hread : rereadInt n = some number)
    (hdecode : asInt least most (.num number) = .ok m) : m = n := by
  cases number with
  | float bits => cases hdecode
  | int k =>
    rw [asInt] at hdecode
    split at hdecode
    · cases hdecode
      exact eq_of_rereadInt hread
    · cases hdecode

/-- The same of a number that must not be negative. -/
theorem eq_of_asNat64 {n m : Nat} {number : Number} (hread : rereadInt n = some number)
    (hdecode : asNat64 (.num number) = .ok m) : m = n := by
  unfold asNat64 at hdecode
  cases hint : asInt 0 Decimal.greatestWord (.num number) with
  | misfits first rest =>
    rw [hint] at hdecode
    cases hdecode
  | ok k =>
    rw [hint] at hdecode
    cases hdecode
    rw [eq_of_asInt hread hint]
    exact Int.toNat_natCast n

/-- A text is read as a value when it is JSON text and the JSON has the shape that is wanted. -/
theorem readText_eq_ok_iff {α : Type} {decode : Json → Decoded α} {text : String} {x : α} :
    readText decode text = .ok x ↔ ∃ j, (Json.read text).toOption = some j ∧ decode j = .ok x := by
  unfold readText
  cases Json.read text with
  | error e => simp [Except.toOption]
  | ok j =>
    cases hdecode : decode j with
    | ok y => simp [Except.toOption, Decoded.toExcept, Except.mapError, hdecode]
    | misfits m ms => simp [Except.toOption, Decoded.toExcept, Except.mapError, hdecode]

/-- A session that is read back from its stored text is the session that was stored. -/
theorem eq_of_readText {s s' : State} (hs : s.Dated)
    (h : readText State.ofJson (Row.ofState s).text = .ok s') : s' = s := by
  obtain ⟨hwhole, hdepth⟩ := State.isWhole_toJson hs
  obtain ⟨j, hread, hdecode⟩ := readText_eq_ok_iff.1 h
  unfold Row.ofState at hread
  rw [toOption_read_write s.toJson hwhole hdepth, State.reread?_toJson hs] at hread
  -- Only the three numbers could have become others, and each of them is decoded as itself.
  obtain ⟨version, hversion, hread⟩ := Option.bind_eq_some_iff.1 hread
  obtain ⟨index, hindex, hread⟩ := Option.bind_eq_some_iff.1 hread
  obtain ⟨revision, hrevision, hread⟩ := Option.bind_eq_some_iff.1 hread
  cases hread
  rw [State.ofJson_jsonWith hs] at hdecode
  simp only [Decoded.ap_eq_ok_iff, Decoded.map_eq_ok_iff, Decoded.under_eq_ok_iff] at hdecode
  obtain ⟨_, r, ⟨_, i, ⟨v, hv, rfl⟩, hi, rfl⟩, hr, rfl⟩ := hdecode
  rw [eq_of_asInt hversion hv, eq_of_asNat64 hindex hi, eq_of_asInt hrevision hr]

/-- A session within 64 bits is read back from its stored text. -/
theorem readText_ofState {s : State} (hs : s.Dated)
    (hversion : Decimal.leastInteger ≤ s.flowVersion ∧ s.flowVersion ≤ Decimal.greatestInteger)
    (hindex : s.nodeIndex ≤ Decimal.greatestWord)
    (hrevision : Decimal.leastInteger ≤ s.revision ∧ s.revision ≤ Decimal.greatestInteger) :
    readText State.ofJson (Row.ofState s).text = .ok s := by
  have hword : Decimal.greatestInteger ≤ (Decimal.greatestWord : Int) := by decide
  have hsign : Decimal.leastInteger ≤ 0 := by decide
  obtain ⟨hwhole, hdepth⟩ := State.isWhole_toJson hs
  -- The text reads back as the state's own JSON, and that as the state.
  refine readText_eq_ok_iff.2 ⟨s.toJson, ?_, ?_⟩
  · unfold Row.ofState
    rw [toOption_read_write s.toJson hwhole hdepth, State.reread?_toJson hs,
      rereadInt_inRange hversion.1 (by omega), rereadInt_inRange (by omega) (by omega),
      rereadInt_inRange hrevision.1 (by omega)]
    rfl
  · have hcode : asInt64 (.int s.flowVersion) = .ok s.flowVersion ∧
        asNat64 (.int s.nodeIndex) = .ok s.nodeIndex ∧
        asInt64 (.int s.revision) = .ok s.revision := by
      refine ⟨if_pos hversion, ?_, if_pos hrevision⟩
      unfold asNat64
      rw [show asInt 0 Decimal.greatestWord (.int s.nodeIndex) = .ok (s.nodeIndex : Int) from
        if_pos ⟨by omega, by omega⟩]
      rfl
    rw [State.toJson_eq_jsonWith, State.ofJson_jsonWith hs, hcode.1, hcode.2.1, hcode.2.2]
    rfl

end Store

end Dialogue
