import Dialogue.Proofs.Json.Limits
import Dialogue.Proofs.Session.Stored
import Dialogue.Service.Encoding
import Dialogue.Web.Body

namespace Dialogue

open Json

/-!
# Flows are read back

A flow that came in as JSON is written in such a way that it is read back as the same flow. So the
text of a flow tells which flow it is.

* `Json.canonical_canonical`, `Json.Fits.canonical`: sorting the members of objects once is enough,
  and takes no more room.
* `Flow.Definition.Received`: a flow that came in as JSON.
* `Flow.Definition.stands`: the JSON of a flow stands for it.
* `Store.readText_ofDefinition`, `Store.eq_of_text_eq`: the text of a flow is read back as the flow,
  and no other flow has it.
* `Flow.Definition.received_iff`: which flows come in as JSON.
* `Web.settled_of_decodeBody`: the flows that are published over the web are such flows.
-/

/-! ### Sorted members -/

namespace Json

/-- Sorting members is putting them into a dictionary one by one. -/
theorem sortMembers_eq (members : List (String × Json)) :
    sortMembers members = (Dictionary.ofList members).entries := by
  have hfold : ∀ d : Dictionary Json,
      members.foldl (fun sorted m => Dictionary.insertEntry m.1 m.2 sorted) d.entries =
        (members.foldl (fun d e => d.insert e.1 e.2) d).entries := by
    induction members with
    | nil => exact fun d => rfl
    | cons m rest ih => exact fun d => ih (d.insert m.1 m.2)
  exact hfold .empty

/-- Members that are sorted stay as they are. -/
theorem sortMembers_sortMembers (members : List (String × Json)) :
    sortMembers (sortMembers members) = sortMembers members := by
  rw [sortMembers_eq, sortMembers_eq, Dictionary.ofList_entries]

/-- Sorting adds no members. -/
theorem mem_of_mem_sortMembers {members : List (String × Json)} {m : String × Json}
    (h : m ∈ sortMembers members) : m ∈ members := by
  -- Whatever the fold started with is still there, and everything else is a member.
  have hfold : ∀ sorted : List (String × Json),
      m ∈ members.foldl (fun sorted m => Dictionary.insertEntry m.1 m.2 sorted) sorted →
        m ∈ sorted ∨ m ∈ members := by
    clear h
    induction members with
    | nil => exact fun sorted h => .inl h
    | cons first rest ih =>
      intro sorted h
      rcases ih _ h with h | h
      · rcases Dictionary.mem_insertEntry h with rfl | h
        · exact .inr List.mem_cons_self
        · exact .inl h
      · exact .inr (List.mem_cons_of_mem first h)
  rcases hfold [] h with h | h
  · cases h
  · exact h

/-- Members that are canonical stay as they are. -/
theorem canonicalMembers_eq {members : List (String × Json)}
    (h : ∀ m ∈ members, m.2.canonical = m.2) : canonicalMembers members = members := by
  induction members with
  | nil => rfl
  | cons m rest ih =>
    obtain ⟨hm, hrest⟩ := List.forall_mem_cons.1 h
    rw [canonicalMembers, hm, ih hrest]

mutual

/-- Sorting the members of all objects a second time changes nothing. -/
theorem canonical_canonical (j : Json) : j.canonical.canonical = j.canonical := by
  match j with
  | .null | .bool _ | .num _ | .str _ => rfl
  | .arr items => rw [canonical, canonical, canonicalItems_canonicalItems items]
  | .obj members =>
    have hmembers : ∀ m ∈ sortMembers (canonicalMembers members), m.2.canonical = m.2 :=
      fun m hm => canonical_of_mem_canonicalMembers members m (mem_of_mem_sortMembers hm)
    rw [canonical, canonical, canonicalMembers_eq hmembers, sortMembers_sortMembers]

/-- The canonical items are canonical. -/
theorem canonicalItems_canonicalItems (items : List Json) :
    canonicalItems (canonicalItems items) = canonicalItems items := by
  match items with
  | [] => rfl
  | item :: rest =>
    rw [canonicalItems, canonicalItems, canonical_canonical item,
      canonicalItems_canonicalItems rest]

/-- The canonical members are canonical. -/
theorem canonical_of_mem_canonicalMembers (members : List (String × Json)) :
    ∀ m ∈ canonicalMembers members, m.2.canonical = m.2 := by
  match members with
  | [] => simp [canonicalMembers]
  | (name, value) :: rest =>
    rw [canonicalMembers, List.forall_mem_cons]
    exact ⟨canonical_canonical value, canonical_of_mem_canonicalMembers rest⟩

end

namespace Fits

/-- A container takes room. -/
theorem exists_succ {room : Nat} {j : Json} (h : Fits room j) (hdepth : 0 < j.depth) :
    ∃ r, room = r + 1 :=
  Nat.exists_eq_add_one.2 (Nat.lt_of_lt_of_le hdepth h.depth)

mutual

/-- Sorting the members of objects takes no more room. -/
theorem canonical {room : Nat} (j : Json) (h : Fits room j) : Fits room j.canonical := by
  match j with
  | .null | .bool _ | .num _ | .str _ => exact h
  -- The parts of a list or object have one level less.
  | .arr items =>
    obtain ⟨room, rfl⟩ := h.exists_succ (by simp [Json.depth])
    rw [Json.canonical]
    exact arr_iff.2 (canonicalItems items (arr_iff.1 h))
  | .obj members =>
    obtain ⟨room, rfl⟩ := h.exists_succ (by simp [Json.depth])
    rw [Json.canonical]
    exact obj_iff.2 fun m hm =>
      canonicalMembers members (obj_iff.1 h) m (mem_of_mem_sortMembers hm)

/-- Canonical items fit where the items do. -/
theorem canonicalItems {room : Nat} (items : List Json) (h : ∀ item ∈ items, Fits room item) :
    ∀ item ∈ Json.canonicalItems items, Fits room item := by
  match items with
  | [] => simp [Json.canonicalItems]
  | item :: rest =>
    obtain ⟨hitem, hrest⟩ := List.forall_mem_cons.1 h
    rw [Json.canonicalItems, List.forall_mem_cons]
    exact ⟨canonical item hitem, canonicalItems rest hrest⟩

/-- Canonical members fit where the members do. -/
theorem canonicalMembers {room : Nat} (members : List (String × Json))
    (h : ∀ m ∈ members, Fits room m.2) : ∀ m ∈ Json.canonicalMembers members, Fits room m.2 := by
  match members with
  | [] => simp [Json.canonicalMembers]
  | (name, value) :: rest =>
    obtain ⟨hvalue, hrest⟩ := List.forall_mem_cons.1 h
    rw [Json.canonicalMembers, List.forall_mem_cons]
    exact ⟨canonical value hvalue, canonicalMembers rest hrest⟩

end

end Fits

end Json

/-! ### The parts of a flow -/

namespace Flow

/-- An operator is written and read back. -/
theorem Operator.stands (op : Operator) :
    Stands (variant true Operator.names) 0 (.str op.name) op := by
  refine ⟨.str _, ?_⟩
  cases op <;> rfl

/-- A connective is. -/
theorem Connective.stands (c : Connective) :
    Stands (variant true Connective.names) 0 (.str c.name) c := by
  refine ⟨.str _, ?_⟩
  cases c <;> rfl

/-- The source of a value is. -/
theorem ValueSource.stands (source : ValueSource) :
    Stands (variant true ValueSource.names) 0 (.str source.name) source := by
  refine ⟨.str _, ?_⟩
  cases source <;> rfl

/-- The settings of an input are, each of the four given or not. -/
theorem Input.stands (i : Input) : Stands ofJson 1 i.toJson i := by
  obtain ⟨prompt, saveVariable, validation, retryMessage⟩ := i
  refine ⟨.obj ?_, ?_⟩
  · cases prompt <;> cases saveVariable <;> cases validation <;> cases retryMessage <;>
      simp [memberOf?, Plain.str]
  · cases validation with
    | none => cases prompt <;> cases saveVariable <;> cases retryMessage <;> rfl
    | some v =>
      cases v <;> cases prompt <;> cases saveVariable <;> cases retryMessage <;> rfl

/-- A button is. -/
theorem Button.stands (b : Button) : Stands ofJson 1 b.toJson b := by
  obtain ⟨id, label, saveVariable⟩ := b
  cases saveVariable <;> exact ⟨.obj (by simp [Plain.str, memberOf?]), rfl⟩

/-- A comparison is, with a value or without. -/
theorem Comparison.stands (c : Comparison) : Stands (ofJson true) 1 c.toJson c := by
  obtain ⟨id, variableName, operator, value⟩ := c
  have hoperator := operator.stands.decoded
  refine ⟨.obj (by cases value <;> simp [Plain.str, memberOf?]), ?_⟩
  cases value with
  | none =>
    show Comparison.mk <$> Decoded.ok id <*> Decoded.ok variableName <*>
      (variant true Operator.names (.str operator.name)).under (.field "operator") <*>
      Decoded.ok none = _
    rw [hoperator]
    rfl
  | some value =>
    show Comparison.mk <$> Decoded.ok id <*> Decoded.ok variableName <*>
      (variant true Operator.names (.str operator.name)).under (.field "operator") <*>
      Decoded.ok (some value) = _
    rw [hoperator]
    rfl

/-- A group of comparisons is. -/
theorem Group.stands (g : Group) : Stands (ofJson true) 3 g.toJson g := by
  have hcomparisons : Stands (asList (Comparison.ofJson true)) 2
      (.arr (g.comparisons.map Comparison.toJson)) g.comparisons :=
    Stands.list fun c _ => c.stands
  have hconnective := g.connective.stands.decoded
  refine ⟨.obj (by simp [Plain.str, hcomparisons.plain]), ?_⟩
  show Group.mk <$> Decoded.ok g.id <*>
    (asList (Comparison.ofJson true) (.arr (g.comparisons.map Comparison.toJson))).under
      (.field "comparisons") <*>
    (variant true Connective.names (.str g.connective.name)).under (.field "logicalOperator") = _
  rw [hcomparisons.decoded, hconnective]
  rfl

/-- An assignment is. -/
theorem Assignment.stands (a : Assignment) : Stands ofJson 1 a.toJson a := by
  have hsource := a.source.stands.decoded
  refine ⟨.obj (by simp [Plain.str, Plain.bool]), ?_⟩
  show Assignment.mk <$> Decoded.ok a.variableName <*>
    (variant true ValueSource.names (.str a.source.name)).under (.field "valueType") <*>
    Decoded.ok a.value <*> Decoded.ok a.saveInResults <*> Decoded.ok a.executeOnClient = _
  rw [hsource]
  rfl

/-- A script node is. -/
theorem ScriptNode.stands (s : ScriptNode) : Stands ofJson 1 s.toJson s :=
  ⟨.obj (by simp [Plain.str, Plain.bool]), rfl⟩

namespace Node.Kind

/-- A kind of node is decoded from its settings as the name of its type tells. -/
theorem ofMembers_eq {kind : Node.Kind} {decode : Json → Decoded Node.Kind} (id : String)
    (htype : variant true types (.str kind.typeName) = .ok decode)
    (hconfig : decode kind.configJson = .ok kind) :
    ofMembers [("id", .str id), ("type", .str kind.typeName), ("config", kind.configJson)] =
      .ok kind := by
  show ((variant true types (.str kind.typeName)).under (.field "type")).andThen (fun decode =>
    (decode kind.configJson).under (.field "config")) = _
  rw [htype]
  show (decode kind.configJson).under (.field "config") = _
  rw [hconfig]
  rfl

/-- The settings of a node are plain, and are decoded as they were. -/
theorem stands (id : String) (kind : Node.Kind) :
    Plain 5 kind.configJson ∧
      ofMembers [("id", .str id), ("type", .str kind.typeName), ("config", kind.configJson)] =
        .ok kind := by
  -- One case per kind of node; those with lists read them item by item.
  cases kind with
  | textBubble content => exact ⟨.obj (by simp [Plain.str]), rfl⟩
  | numberBubble content => exact ⟨.obj (by simp [Plain.str]), rfl⟩
  | mediaBubble kind url alt =>
    refine ⟨.obj (by simp [Plain.str]), ?_⟩
    cases kind <;> rfl
  | input kind i =>
    have hdecode : decodeInput kind i.toJson = .ok (.input kind i) := by
      unfold decodeInput
      rw [i.stands.decoded]
      rfl
    refine ⟨i.stands.plain.mono (by decide), ofMembers_eq id ?_ hdecode⟩
    cases kind <;> rfl
  | buttons bs =>
    have hbuttons : Stands (asList Button.ofJson) 2 (.arr (bs.map Button.toJson)) bs :=
      Stands.list fun b _ => b.stands
    have hdecode : decodeButtons (.obj [("buttons", .arr (bs.map Button.toJson))]) =
        .ok (buttons bs) := by
      show buttons <$> (asList Button.ofJson (.arr (bs.map Button.toJson))).under
        (.field "buttons") = _
      rw [hbuttons.decoded]
      rfl
    exact ⟨.obj (by simp [hbuttons.plain.mono]), ofMembers_eq id rfl hdecode⟩
  | condition groups =>
    have hgroups : Stands (asList (Group.ofJson true)) 4 (.arr (groups.map Group.toJson)) groups :=
      Stands.list fun g _ => g.stands
    have hdecode : decodeCondition (.obj [("groups", .arr (groups.map Group.toJson))]) =
        .ok (condition groups) := by
      show condition <$> (asList (Group.ofJson true) (.arr (groups.map Group.toJson))).under
        (.field "groups") = _
      rw [hgroups.decoded]
      rfl
    exact ⟨.obj (by simp [hgroups.plain]), ofMembers_eq id rfl hdecode⟩
  | assignment a =>
    have hdecode : assignment <$> Assignment.ofJson a.toJson = .ok (assignment a) := by
      rw [a.stands.decoded]
      rfl
    exact ⟨a.stands.plain.mono (by decide), ofMembers_eq id rfl hdecode⟩
  | script s =>
    have hdecode : script <$> ScriptNode.ofJson s.toJson = .ok (script s) := by
      rw [s.stands.decoded]
      rfl
    exact ⟨s.stands.plain.mono (by decide), ofMembers_eq id rfl hdecode⟩

end Node.Kind

/-- A node is written and read back. -/
theorem Node.stands (n : Node) : Stands ofJson 6 n.toJson n := by
  obtain ⟨id, kind⟩ := n
  obtain ⟨hconfig, hkind⟩ := kind.stands id
  refine ⟨.obj (by simp [Plain.str, hconfig]), ?_⟩
  show Node.mk <$> Decoded.ok id <*> (Node.Kind.ofMembers
    [("id", .str id), ("type", .str kind.typeName), ("config", kind.configJson)]).whenComplete = _
  rw [hkind]
  rfl

/-- A container is. -/
theorem Container.stands (c : Container) : Stands ofJson 8 c.toJson c := by
  have hnodes : Stands (asList Node.ofJson) 7 (.arr (c.nodes.map Node.toJson)) c.nodes :=
    Stands.list fun n _ => n.stands
  refine ⟨.obj (by simp [Plain.str, hnodes.plain]), ?_⟩
  show Container.mk <$> Decoded.ok c.id <*>
    (asList Node.ofJson (.arr (c.nodes.map Node.toJson))).under (.field "nodes") = _
  rw [hnodes.decoded]
  rfl

/-- An edge is. -/
theorem Edge.stands (e : Edge) : Stands ofJson 1 e.toJson e := by
  obtain ⟨source, sourceHandle, target⟩ := e
  cases sourceHandle <;> exact ⟨.obj (by simp [Plain.str, memberOf?]), rfl⟩

/-! ### Flows -/

namespace Definition

variable {d : Definition}

/-- The settings of the author are as the reader of flows leaves them: sorted, and within the limits
of the reader with what stands around them. -/
structure Settled (d : Definition) : Prop where
  canonical : d.settings.canonical = d.settings
  fits : Fits (Reader.depthLimit - 1) d.settings

/-- Settings are left out exactly when there are none. -/
theorem settingsMember_eq (settings : Json) :
    ∃ given : Option Json, settingsMember settings = memberOf? "settings" (fun j => j) given ∧
      given.getD .null = settings := by
  cases settings with
  | null => exact ⟨none, rfl, rfl⟩
  | _ => exact ⟨some _, rfl, rfl⟩

/-- How a flow is decoded from its members. -/
theorem ofJson_members (containers edges : Json) (start : Option String)
    (settings : Option Json) :
    ofJson (.obj ([("containers", containers), ("edges", edges)] ++
        memberOf? "startContainerId" .str start ++
        memberOf? "settings" (fun j => j) settings)) =
      Definition.mk <$> (asList Container.ofJson containers).under (.field "containers")
        <*> (asList Edge.ofJson edges).under (.field "edges")
        <*> .ok start <*> .ok (settings.getD .null).canonical := by
  cases start <;> cases settings <;> rfl

/-- The JSON of a flow stands for it. -/
theorem stands (h : d.Settled) (hwhole : d.settings.isWhole) :
    Stands ofJson Reader.depthLimit d.toJson d := by
  obtain ⟨containers, edges, start, settings⟩ := d
  have hcontainers : Stands (asList Container.ofJson) 9 (.arr (containers.map Container.toJson))
      containers := Stands.list fun c _ => c.stands
  have hedges : Stands (asList Edge.ofJson) 2 (.arr (edges.map Edge.toJson)) edges :=
    Stands.list fun e _ => e.stands
  obtain ⟨given, hmember, hgiven⟩ := settingsMember_eq settings
  dsimp only [toJson]
  rw [hmember]
  -- First that the parts fit into the levels below the limit, then that they are read back.
  constructor
  · have hparts : Plain 126 (.arr (containers.map Container.toJson)) ∧
        Plain 126 (.arr (edges.map Edge.toJson)) :=
      ⟨hcontainers.plain.mono (by decide), hedges.plain.mono (by decide)⟩
    have hsettings : ∀ j, given = some j → Plain 126 j := by
      rintro j rfl
      obtain rfl : j = settings := hgiven
      exact h.fits.plain hwhole
    refine .obj ?_
    cases start <;> cases given <;> simp [memberOf?, Plain.str, hparts, hsettings]
  · have hcanonical : settings.canonical = settings := h.canonical
    rw [ofJson_members, hcontainers.decoded, hedges.decoded, hgiven, hcanonical]
    rfl

/-- A flow that came in as JSON, as every flow does that is published over the web: see
`received_iff` and `Web.settled_of_decodeBody`. -/
def Received (d : Definition) : Prop :=
  ∃ text, Store.readText ofJson text = .ok d

end Definition

end Flow

/-! ### What comes in -/

namespace Json

variable {room : Nat}

/-- The fields of a structure have less room than the structure. -/
theorem Record.fits_of_find? {r : Record} {name : String} {step : Step} {value : Json}
    (h : ∀ field ∈ r.fields, Fits room field.2.2) (hfind : r.find? name = some (step, value)) :
    Fits room value := by
  unfold Record.find? at hfind
  obtain ⟨field, hfield, heq⟩ := Option.map_eq_some_iff.1 hfind
  have hfits := h field (List.mem_of_find?_eq_some hfield)
  rw [heq] at hfits
  exact hfits

/-- A field that is decoded by sorting it, or left out for null, is sorted. -/
theorem Record.fits_of_defaulted {r : Record} {name : String} {settings : Json}
    (h : ∀ field ∈ r.fields, Fits room field.2.2)
    (hdecode : r.defaulted name .null (fun j => .ok j.canonical) = .ok settings) :
    settings.canonical = settings ∧ Fits room settings := by
  unfold Record.defaulted at hdecode
  cases hfind : r.find? name with
  | none =>
    rw [hfind] at hdecode
    cases hdecode
    exact ⟨rfl, Nat.zero_le room, rfl⟩
  | some found =>
    rw [hfind] at hdecode
    cases hdecode
    exact ⟨canonical_canonical _, Fits.canonical _ (r.fits_of_find? h hfind)⟩

/-- The items of a list that stand for fields fit like the items. -/
theorem fits_zipFields {items : List Json} (h : ∀ item ∈ items, Fits room item) (index : Nat)
    (names : List String) : ∀ field ∈ Record.zipFields index names items, Fits room field.2.2 := by
  induction items generalizing index names with
  | nil => cases names <;> simp [Record.zipFields]
  | cons item rest ih =>
    obtain ⟨hitem, hrest⟩ := List.forall_mem_cons.1 h
    cases names with
    | nil => simp [Record.zipFields]
    | cons name names =>
      rw [Record.zipFields, List.forall_mem_cons]
      exact ⟨hitem, ih hrest (index + 1) names⟩

/-- A structure is decoded from fields that have less room than it has. -/
theorem exists_record_of_asRecord {α : Type} {names : List String} {decode : Record → Decoded α}
    {j : Json} {x : α} (h : Fits (room + 1) j) (hdecode : asRecord names decode j = .ok x) :
    ∃ r, (∀ field ∈ r.fields, Fits room field.2.2) ∧ decode r = .ok x := by
  -- A record comes as an object or as a list, and its fields are the parts of either.
  cases j with
  | obj members =>
    unfold asRecord at hdecode
    dsimp only at hdecode
    unfold Record.ofMembers at hdecode
    split at hdecode
    · cases hdecode
    · refine ⟨_, ?_, hdecode⟩
      intro field hfield
      obtain ⟨m, hm, rfl⟩ := List.mem_map.1 hfield
      exact Fits.obj_iff.1 h m hm
  | arr items =>
    unfold asRecord at hdecode
    dsimp only at hdecode
    have hfields := fits_zipFields (Fits.arr_iff.1 h) 0 names
    split at hdecode
    · obtain ⟨_, _, -, hfail, -⟩ := Decoded.ap_eq_ok_iff.1 hdecode
      cases hfail
    · exact ⟨_, hfields, hdecode⟩
  | _ => cases hdecode

end Json

namespace Flow.Definition

variable {d : Definition}

/-- A flow that is decoded from JSON within limits has sorted settings, which leave room for what
stands around them. -/
theorem settled_of_ofJson {j : Json} (hfits : Fits Reader.depthLimit j)
    (hdecode : ofJson j = .ok d) : d.Settled := by
  obtain ⟨r, hfields, hrecord⟩ := exists_record_of_asRecord hfits hdecode
  -- The settings are the last field, so the others are peeled off behind them.
  obtain ⟨_, settings, hstart, hsettings, rfl⟩ := Decoded.ap_eq_ok_iff.1 hrecord
  obtain ⟨_, start, hedges, -, rfl⟩ := Decoded.ap_eq_ok_iff.1 hstart
  obtain ⟨_, edges, hcontainers, -, rfl⟩ := Decoded.ap_eq_ok_iff.1 hedges
  obtain ⟨containers, -, rfl⟩ := Decoded.map_eq_ok_iff.1 hcontainers
  obtain ⟨hcanonical, hfits⟩ := Record.fits_of_defaulted hfields hsettings
  exact ⟨hcanonical, hfits⟩

/-- A definition that was received has settled settings. -/
theorem Received.settled (h : d.Received) : d.Settled := by
  obtain ⟨text, htext⟩ := h
  obtain ⟨j, hread, hdecode⟩ := Store.readText_eq_ok_iff.1 htext
  refine settled_of_ofJson ?_ hdecode
  cases hj : Json.read text with
  | error e => rw [hj] at hread; cases hread
  | ok j' =>
    rw [hj] at hread
    cases hread
    exact fits_of_read hj

end Flow.Definition

namespace Store

open Dialogue.Flow

variable {d d' : Definition}

/-- A flow with settled settings is read back from its text. -/
theorem readText_ofDefinition (h : d.Settled) (hwhole : d.settings.isWhole) :
    readText Definition.ofJson d.toJson.write = .ok d := by
  have hstands := Definition.stands h hwhole
  refine readText_eq_ok_iff.2 ⟨d.toJson, ?_, hstands.decoded⟩
  rw [toOption_read_write d.toJson hstands.plain.whole hstands.plain.depth, hstands.plain.reread]

/-- Flows that came in as JSON are equal when their texts are. -/
theorem eq_of_text_eq (h : d.Received) (hwhole : d.settings.isWhole) (h' : d'.Received)
    (hwhole' : d'.settings.isWhole)
    (htext : d.toJson.write = d'.toJson.write) : d = d' := by
  have hd := readText_ofDefinition h.settled hwhole
  rw [htext, readText_ofDefinition h'.settled hwhole'] at hd
  exact (Except.ok.inj hd).symm

end Store

/-- The flows with integers only that come in as JSON are the ones with settled settings. -/
theorem Flow.Definition.received_iff {d : Definition} (hwhole : d.settings.isWhole) :
    d.Received ↔ d.Settled :=
  ⟨Received.settled, fun h => ⟨_, Store.readText_ofDefinition h hwhole⟩⟩

namespace Web

variable {α : Type} {decode : Json → Decoded α} {a : α}

/-- What is decoded of a text that was read is decoded in full, and the text did not break off. -/
theorem decodeRead_eq_ok {j : Json} {limit : Option Place} (h : decodeRead decode j limit = .ok a) :
    decode j = .ok a ∧ limit = none := by
  unfold decodeRead at h
  split at h
  · rename_i hdecode
    cases h
    exact ⟨hdecode, rfl⟩
  · cases h
  · split at h <;> cases h

/-- A body that is accepted begins with a value, which is within the limits of the reader. -/
theorem exists_value_of_decodeBody {text : String} (h : decodeBody decode text = .ok a) :
    ∃ j, decode j = .ok a ∧ Fits Reader.depthLimit j := by
  unfold decodeBody at h
  split at h
  · rename_i j left hread
    exact ⟨j, (decodeRead_eq_ok h).1, fits_of_readFirst hread⟩
  · split at h
    · cases (decodeRead_eq_ok h).2
    · cases h

/-- A flow that is published over the web has settled settings. -/
theorem settled_of_decodeBody {text : String} {r : Service.PublishRequest}
    (h : decodeBody Service.PublishRequest.ofJson text = .ok r) : r.definition.Settled := by
  obtain ⟨j, hdecode, hfits⟩ := exists_value_of_decodeBody h
  -- The definition is a field of the body, so it has a level less than the reader allows.
  have hroom : Fits (126 + 1) j := hfits
  obtain ⟨record, hfields, hrecord⟩ := exists_record_of_asRecord hroom hdecode
  obtain ⟨_, d, hflowId, hdefinition, rfl⟩ := Decoded.ap_eq_ok_iff.1 hrecord
  obtain ⟨flowId, -, rfl⟩ := Decoded.map_eq_ok_iff.1 hflowId
  unfold Record.required at hdefinition
  cases hfind : record.find? "definition" with
  | none => rw [hfind] at hdefinition; cases hdefinition
  | some found =>
    rw [hfind] at hdefinition
    have hfits := record.fits_of_find? hfields hfind
    exact Flow.Definition.settled_of_ofJson (hfits.mono (by decide))
      (Decoded.under_eq_ok_iff.1 hdefinition)

end Web

end Dialogue
