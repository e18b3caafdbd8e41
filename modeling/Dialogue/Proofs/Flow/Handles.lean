import Dialogue.Proofs.Flow.Publishable
import Mathlib.Data.List.Nodup

namespace Dialogue.Flow

/-!
# Which exit an edge leaves by

Edges name exits by texts that are put together from the ids of nodes, buttons and groups. What is
checked before publishing does not keep two exits from having one text: the ids of buttons and
groups are not looked at, and the id of a node may begin like a handle of another node. Where
neither is the case, an edge leaves by one exit, and only who leaves by that exit follows it.

* `Container.exits`: the exits of a container, node after node.
* `Container.Apart`: the choices of a node differ, and no node id begins like a handle.
* `Handle.eq_or_overlaps`: two handles have one text only if their nodes have one, or overlap.
* `exits_are_distinguishable`: without them every edge of a flow that can be published belongs to
  one exit.
-/

/-- The exits of a container, in the order of its nodes. -/
def Container.exits (c : Container) : List Handle := c.nodes.flatMap Node.handles

/-- The node that a handle belongs to. -/
def Handle.nodeId : Handle → String
  | button nodeId _ | fallback nodeId | group nodeId _ | otherwise nodeId => nodeId

/-- The ids of the buttons or groups of a node. -/
def Node.choices (n : Node) : List String :=
  match n.kind with
  | .buttons buttons => buttons.map Button.id
  | .condition groups => groups.map Group.id
  | _ => []

/-- A node id begins like a handle of another node that names a button or a group. -/
def Overlaps (id other : String) : Prop :=
  (id ++ "-btn").toList <+: other.toList ∨ (id ++ "-cond").toList <+: other.toList

instance (id other : String) : Decidable (Overlaps id other) :=
  inferInstanceAs (Decidable (_ ∨ _))

/-- Within each node the buttons or groups have different ids, and no node id begins like a handle
of another node. -/
structure Container.Apart (c : Container) : Prop where
  choices : ∀ n ∈ c.nodes, n.choices.Nodup
  ids : ∀ h ∈ c.exits, ∀ h' ∈ c.exits, ¬Overlaps h.nodeId h'.nodeId

/-! ### Texts of handles -/

namespace Handle

/-- What follows the id of the node in the text of a handle. -/
def mark : Handle → List Char
  | button _ buttonId => '-' :: 'b' :: 't' :: 'n' :: '-' :: buttonId.toList
  | fallback _ => ['-', 'd', 'e', 'f', 'a', 'u', 'l', 't']
  | group _ groupId => '-' :: 'c' :: 'o' :: 'n' :: 'd' :: '-' :: groupId.toList
  | otherwise _ => ['-', 'e', 'l', 's', 'e']

/-- A handle is written as its node's id and its mark. -/
theorem toList_text (h : Handle) : h.text.toList = h.nodeId.toList ++ h.mark := by
  cases h <;> simp [text, nodeId, mark]

/-- The marks of one node differ. -/
theorem eq_of_mark {h h' : Handle} (hnode : h.nodeId = h'.nodeId) (hmark : h.mark = h'.mark) :
    h = h' := by
  cases h <;> cases h' <;> simp [nodeId, mark, String.toList_inj] at hnode hmark ⊢ <;> simp [*]

/-- A dash inside a mark stands behind the word that the mark begins with. -/
theorem word_prefix_of_dash (word rest : List Char) {x tail : List Char} (hword : '-' ∉ word)
    (h : '-' :: (word ++ rest) = x ++ '-' :: tail) : x = [] ∨ '-' :: word <+: x := by
  rcases x with _ | ⟨a, x⟩
  · exact .inl rfl
  · rw [List.cons_append] at h
    obtain ⟨rfl, heq⟩ := List.cons.inj h
    refine .inr (List.cons_prefix_cons.2 ⟨rfl, ?_⟩)
    -- The dash of the tail lies behind the word, or it would be inside it.
    obtain ⟨between, hx, -⟩ | ⟨between, hword', htail⟩ := List.append_eq_append_iff.1 heq
    · exact ⟨between, hx.symm⟩
    · rcases between with _ | ⟨b, between⟩
      · exact ⟨[], by simp [hword']⟩
      · obtain ⟨rfl, -⟩ := List.cons.inj htail
        exact absurd (by simp [hword']) hword

/-- Only the mark of a button or a group has another mark inside it. -/
theorem mark_inside {h h' : Handle} {x : List Char} (heq : h.mark = x ++ h'.mark) :
    x = [] ∨ ['-', 'b', 't', 'n'] <+: x ∨ ['-', 'c', 'o', 'n', 'd'] <+: x := by
  obtain ⟨tail, htail⟩ : ∃ tail, h'.mark = '-' :: tail := by cases h' <;> exact ⟨_, rfl⟩
  rw [htail] at heq
  -- A mark that is one word has no room for another one behind it.
  have hfull : ∀ word, '-' :: word <+: x → h.mark ≠ '-' :: word := by
    intro word hprefix hmark
    have hlength := congrArg List.length heq
    have := hprefix.length_le
    simp only [hmark, List.length_append, List.length_cons] at hlength this
    omega
  cases h with
  | button nodeId buttonId =>
    exact (word_prefix_of_dash ['b', 't', 'n'] _ (by decide) heq).imp_right .inl
  | group nodeId groupId =>
    exact (word_prefix_of_dash ['c', 'o', 'n', 'd'] _ (by decide) heq).imp_right .inr
  | fallback nodeId =>
    refine (word_prefix_of_dash ['d', 'e', 'f', 'a', 'u', 'l', 't'] [] (by decide) heq).imp_right
      fun hprefix => ?_
    exact absurd rfl (hfull _ hprefix)
  | otherwise nodeId =>
    refine (word_prefix_of_dash ['e', 'l', 's', 'e'] [] (by decide) heq).imp_right
      fun hprefix => ?_
    exact absurd rfl (hfull _ hprefix)

/-- Exits have one text only where one node id begins like a handle of the other node. -/
theorem eq_or_overlaps {h h' : Handle} (htext : h.text = h'.text) :
    h = h' ∨ Overlaps h.nodeId h'.nodeId ∨ Overlaps h'.nodeId h.nodeId := by
  -- One id is the beginning of the other; what is between them is the beginning of a mark.
  have hone : ∀ {h h' : Handle} {x : List Char}, h'.nodeId.toList = h.nodeId.toList ++ x →
      h.mark = x ++ h'.mark → h = h' ∨ Overlaps h.nodeId h'.nodeId := by
    intro h h' x hid hmark
    obtain rfl | hprefix := mark_inside hmark
    · rw [List.append_nil] at hid
      exact .inl (eq_of_mark (String.toList_injective hid).symm hmark)
    · refine .inr ?_
      unfold Overlaps
      rw [hid, String.toList_append, String.toList_append]
      exact hprefix.imp (fun h => by simpa using h) fun h => by simpa using h
  have hlist : h.nodeId.toList ++ h.mark = h'.nodeId.toList ++ h'.mark := by
    rw [← toList_text, ← toList_text, htext]
  obtain ⟨x, hid, hmark⟩ | ⟨x, hid, hmark⟩ := List.append_eq_append_iff.1 hlist
  · exact (hone hid hmark).imp_right .inl
  · exact (hone hid hmark).imp Eq.symm .inr

end Handle

/-! ### Exits of a container -/

/-- The handles of a node carry its id. -/
theorem nodeId_of_mem_handles {n : Node} {h : Handle} (hh : h ∈ n.handles) : h.nodeId = n.id := by
  unfold Node.handles at hh
  split at hh
  · obtain hh | hh := List.mem_append.1 hh
    · obtain ⟨b, -, rfl⟩ := List.mem_map.1 hh
      rfl
    · rw [List.mem_singleton.1 hh]
      rfl
  · obtain hh | hh := List.mem_append.1 hh
    · obtain ⟨g, -, rfl⟩ := List.mem_map.1 hh
      rfl
    · rw [List.mem_singleton.1 hh]
      rfl
  · cases hh

/-- Choices with different ids make exits that differ from each other and from the last one. -/
theorem nodup_of_choices {ids : List String} (h : ids.Nodup) (make : String → Handle)
    (last : Handle) (hmake : Function.Injective make) (hlast : ∀ id, make id ≠ last) :
    (ids.map make ++ [last]).Nodup := by
  refine (h.map hmake).append (List.nodup_singleton last) (List.disjoint_singleton.2 fun hmem => ?_)
  obtain ⟨id, -, hid⟩ := List.mem_map.1 hmem
  exact hlast id hid

/-- Where the choices of a node are not repeated, its handles are not. -/
theorem nodup_handles {n : Node} (h : n.choices.Nodup) : n.handles.Nodup := by
  obtain ⟨id, kind⟩ := n
  cases kind with
  | buttons buttons =>
    have hids : (buttons.map Button.id).Nodup := h
    have hexits := nodup_of_choices hids (.button id) (.fallback id)
      (fun _ _ h => (Handle.button.inj h).2) fun _ h => by cases h
    rwa [List.map_map] at hexits
  | condition groups =>
    have hids : (groups.map Group.id).Nodup := h
    have hexits := nodup_of_choices hids (.group id) (.otherwise id)
      (fun _ _ h => (Handle.group.inj h).2) fun _ h => by cases h
    rwa [List.map_map] at hexits
  | _ => exact List.nodup_nil

/-- The exits of a container are different ones if its nodes have different ids, and within each
node its buttons or groups have. -/
theorem nodup_exits {c : Container} (hids : (c.nodes.map Node.id).Nodup)
    (hchoices : ∀ n ∈ c.nodes, n.choices.Nodup) : c.exits.Nodup := by
  refine List.nodup_flatMap.2 ⟨fun n hn => nodup_handles (hchoices n hn), ?_⟩
  refine (List.pairwise_map.1 hids).imp fun hne h hh hh' => hne ?_
  rw [← nodeId_of_mem_handles hh, nodeId_of_mem_handles hh']

/-- Apart exits have different texts. -/
theorem nodup_texts {c : Container} (hids : (c.nodes.map Node.id).Nodup) (h : c.Apart) :
    (c.exits.map Handle.text).Nodup := by
  refine List.Nodup.map_on (fun x hx y hy htext => ?_) (nodup_exits hids h.choices)
  obtain heq | hoverlaps | hoverlaps := Handle.eq_or_overlaps htext
  · exact heq
  · exact absurd hoverlaps (h.ids x hx y hy)
  · exact absurd hoverlaps (h.ids y hy x hx)

/-! ### Edges -/

variable {d : Definition} {patterns : Pattern.Engine} {c : Container}

/-- An edge that leaves by a handle leaves by an exit of its container. -/
theorem exists_exit_of_edge (h : d.isPublishable patterns) (hc : c ∈ d.containers) {e : Edge}
    (he : e ∈ d.edges) (hsource : e.source = c.id) {text : String}
    (htext : e.sourceHandle = some text) : ∃ exit ∈ c.exits, exit.text = text := by
  have hhandle := (wellLinked_of_isPublishable h).handles e he text htext
  unfold Definition.hasHandle at hhandle
  simp only [List.any_eq_true, Bool.and_eq_true, beq_iff_eq] at hhandle
  obtain ⟨o, ho, hid, n, hn, exit, hexit, rfl⟩ := hhandle
  obtain rfl : o = c :=
    List.inj_on_of_nodup_map (nodup_of_isPublishable h).1 ho hc (hid.trans hsource)
  exact ⟨exit, List.mem_flatMap.2 ⟨n, hn, hexit⟩, rfl⟩

/-- In a flow that can be published the exits of a container have different texts if its buttons
and groups have different ids and its node ids do not begin like handles. Then every edge with a
handle leaves by one exit, and the edge that is followed from an exit leaves by that one. -/
theorem exits_are_distinguishable (h : d.isPublishable patterns) (hc : c ∈ d.containers)
    (hapart : c.Apart) :
    (c.exits.map Handle.text).Nodup ∧
      (∀ e ∈ d.edges, e.source = c.id → ∀ text, e.sourceHandle = some text →
        ∃! i : Nat, (c.exits.map Handle.text)[i]? = some text) ∧
      ∀ exit ∈ c.exits, ∀ target,
        (Graph.ofDefinition d).handleTarget c.id exit = .ok (some target) →
        ∃ e ∈ d.edges, e.source = c.id ∧ (Graph.ofDefinition d).container e.target = .ok target ∧
          ∀ other ∈ c.exits, e.sourceHandle = some other.text ↔ other = exit := by
  have hnodup := nodup_texts ((nodup_of_isPublishable h).2 c hc) hapart
  refine ⟨hnodup, fun e he hsource text htext => ?_, fun exit hexit target htarget => ?_⟩
  -- The edge has one exit, as the texts of the exits are not repeated.
  · obtain ⟨exit, hexit, rfl⟩ := exists_exit_of_edge h hc he hsource htext
    obtain ⟨i, hi⟩ := List.getElem?_of_mem (List.mem_map_of_mem (f := Handle.text) hexit)
    refine ⟨i, hi, fun j hj => ?_⟩
    exact (List.getElem?_inj (List.getElem?_eq_some_iff.1 hj).1 hnodup).1 (hj.trans hi.symm)
  -- The edge that is followed is the only one with the text of the exit.
  · obtain ⟨e, hleaving, hcontainer⟩ := Graph.resolve_eq_ok_iff.1 htarget
    have he : e ∈ d.leaving c.id (some exit.text) := by
      rw [hleaving]
      exact List.mem_singleton_self e
    obtain ⟨hmem, hfrom⟩ := List.mem_filter.1 he
    simp only [Bool.and_eq_true, beq_iff_eq] at hfrom
    refine ⟨e, hmem, hfrom.1, hcontainer, fun other hother => ⟨fun heq => ?_, fun heq => ?_⟩⟩
    · refine List.inj_on_of_nodup_map hnodup hother hexit ?_
      exact Option.some.inj (heq.symm.trans hfrom.2)
    · rw [heq]
      exact hfrom.2

/-! ### A menu -/

namespace Menu

/-- A node that offers two dishes. -/
def dishes : Node := ⟨"dish", .buttons [⟨"soup", "Soup", none⟩, ⟨"pie", "Pie", none⟩]⟩

/-- A node that branches for those who are hungry. -/
def hunger : Node := ⟨"hunger", .condition [⟨"much", [⟨"c", "hungry", .isSet, none⟩], .and⟩]⟩

/-- Where one chooses. -/
def room : Container := ⟨"room", [dishes, hunger]⟩

/-- The pie leads to the kitchen, and so does hunger. -/
def flow : Definition where
  containers := [room, ⟨"kitchen", []⟩]
  edges := [⟨"room", some "dish-btn-pie", "kitchen"⟩, ⟨"room", some "hunger-cond-much", "kitchen"⟩]

end Menu

/-- The edge to the kitchen that is followed for a pie leaves by no other exit. -/
theorem exits_are_distinguishable_menu :
    Menu.flow.isPublishable .refusing ∧ Menu.room ∈ Menu.flow.containers ∧ Menu.room.Apart ∧
      ∃ target, (Graph.ofDefinition Menu.flow).handleTarget "room" (.button "dish" "pie") =
          .ok (some target) ∧
        ∃ e ∈ Menu.flow.edges, e.source = "room" ∧
          (Graph.ofDefinition Menu.flow).container e.target = .ok target ∧
          ∀ other ∈ Menu.room.exits,
            e.sourceHandle = some other.text ↔ other = .button "dish" "pie" := by
  have hflow : Menu.flow.isPublishable .refusing := by decide +kernel
  have hroom : Menu.room ∈ Menu.flow.containers := List.mem_cons_self
  have hapart : Menu.room.Apart := ⟨by decide, by decide⟩
  have htarget : (Graph.ofDefinition Menu.flow).handleTarget "room" (.button "dish" "pie") =
      .ok (some ⟨"kitchen", []⟩) := by decide +kernel
  obtain ⟨-, -, hfollows⟩ := exits_are_distinguishable hflow hroom hapart
  exact ⟨hflow, hroom, hapart, _, htarget, hfollows (.button "dish" "pie") (by decide) _ htarget⟩

namespace Menu

/-- A node that offers two soups under one id. -/
def soups : Container :=
  ⟨"room", [⟨"dish", .buttons [⟨"soup", "Soup", none⟩, ⟨"soup", "Fish soup", none⟩]⟩]⟩

/-- Two nodes, of which one has an id that begins like a handle of the other one. -/
def namesakes : Container :=
  ⟨"room", [⟨"dish", .buttons [⟨"pie-default", "Pie", none⟩]⟩, ⟨"dish-btn-pie", .buttons []⟩]⟩

/-- A flow of one container. -/
def only (c : Container) : Definition where
  containers := [c]

end Menu

/-- Neither of the two things that keep exits apart is looked at before publishing. -/
theorem exits_can_share_a_text :
    (Menu.only Menu.soups).isPublishable .refusing ∧
      ¬(Menu.soups.exits.map Handle.text).Nodup ∧
      (Menu.only Menu.namesakes).isPublishable .refusing ∧
      ¬(Menu.namesakes.exits.map Handle.text).Nodup := by
  refine ⟨?_, ?_, ?_, ?_⟩ <;> decide +kernel

end Dialogue.Flow
