import Dialogue.Proofs.Store.History

namespace Dialogue

open Json

/-!
# The text of a flow is canonical

A flow whose settings hold no numbers but integers is read back from its text as it was. So no other
flow has its text, and what the store gives out as the latest version is not published again. With
floats this is different: the reader may take the neighbour of the float that was written.

* `Json.Integral`: values without floats, whose integers have 64 bits.
* `Flow.Definition.Storable`: flows with such settings, nested no deeper than the reader allows.
* `Store.publish_latest`: what is given out as the latest version is not published again.
* `Store.encoding_is_canonical`: texts of such flows are read back, belong to one flow each, and are
  published once.
-/

namespace Json

/-- Values whose numbers are integers of 64 bits, with or without a sign. -/
inductive Integral : Json → Prop
  | null : Integral .null
  | bool (b : Bool) : Integral (.bool b)
  | str (s : String) : Integral (.str s)
  | int {n : Int} (hleast : Decimal.leastInteger ≤ n) (hmost : n ≤ Decimal.greatestWord) :
    Integral (.num (.int n))
  | arr {items : List Json} (h : ∀ item ∈ items, Integral item) : Integral (.arr items)
  | obj {members : List (String × Json)} (h : ∀ m ∈ members, Integral m.2) :
    Integral (.obj members)

/-- An item is no deeper than the items. -/
theorem depth_le_itemsDepth {items : List Json} {item : Json} (h : item ∈ items) :
    item.depth ≤ itemsDepth items := by
  induction items with
  | nil => cases h
  | cons first rest ih =>
    rw [itemsDepth]
    rcases List.mem_cons.1 h with rfl | h
    · exact Nat.le_max_left _ _
    · exact Nat.le_trans (ih h) (Nat.le_max_right _ _)

/-- A member is no deeper than the members. -/
theorem depth_le_membersDepth {members : List (String × Json)} {m : String × Json}
    (h : m ∈ members) : m.2.depth ≤ membersDepth members := by
  induction members with
  | nil => cases h
  | cons first rest ih =>
    obtain ⟨name, value⟩ := first
    rw [membersDepth]
    rcases List.mem_cons.1 h with rfl | h
    · exact Nat.le_max_left _ _
    · exact Nat.le_trans (ih h) (Nat.le_max_right _ _)

/-- Values with integers of 64 bits only are read back as they are. -/
theorem Integral.plain {j : Json} (h : j.Integral) {room : Nat} (hdepth : j.depth ≤ room) :
    Plain room j := by
  induction h generalizing room with
  | null => exact .null
  | bool b => exact .bool b
  | str s => exact .str s
  | int hleast hmost => exact .int hleast hmost
  | arr _ ih =>
    rw [depth] at hdepth
    obtain ⟨room, rfl⟩ := Nat.exists_eq_add_one.2 (Nat.lt_of_lt_of_le (Nat.succ_pos _) hdepth)
    exact .arr fun item hitem =>
      ih item hitem (Nat.le_trans (depth_le_itemsDepth hitem) (Nat.le_of_succ_le_succ hdepth))
  | obj _ ih =>
    rw [depth] at hdepth
    obtain ⟨room, rfl⟩ := Nat.exists_eq_add_one.2 (Nat.lt_of_lt_of_le (Nat.succ_pos _) hdepth)
    exact .obj fun m hm =>
      ih m hm (Nat.le_trans (depth_le_membersDepth hm) (Nat.le_of_succ_le_succ hdepth))

end Json

namespace Flow.Definition

variable {d : Definition}

/-- The settings are sorted by name, the form in which they are always held, have no numbers but
integers of 64 bits, and stay within the depth of the reader inside of the flow. -/
structure Storable (d : Definition) : Prop where
  sorted : d.settings.canonical = d.settings
  integral : d.settings.Integral
  depth : d.settings.depth < Reader.depthLimit

/-- Settings that can be stored are settled. -/
theorem Storable.settled (h : d.Storable) : d.Settled :=
  ⟨h.sorted, Nat.le_sub_one_of_lt h.depth, (h.integral.plain Nat.le.refl).reread⟩

/-- They hold no fractions. -/
theorem Storable.whole (h : d.Storable) : d.settings.isWhole :=
  (h.integral.plain Nat.le.refl).whole

/-- Whatever is read with such settings is within the depth of the reader. -/
theorem Received.storable (h : d.Received) (hintegral : d.settings.Integral) : d.Storable :=
  ⟨h.settled.canonical, hintegral, Nat.lt_of_le_pred (by decide) h.settled.fits.depth⟩

end Flow.Definition

namespace Store

open Dialogue.Flow

variable {s : Store} {flowId : String} {d d' : Definition}

/-! ### Texts -/

/-- A definition that can be stored is read back from its text. -/
theorem readText_write (h : d.Storable) :
    readText Definition.ofJson d.toJson.write = .ok d := readText_ofDefinition h.settled h.whole

/-- Two definitions with the same text are the same. -/
theorem write_inj (h : d.Storable) (h' : d'.Storable) :
    d.toJson.write = d'.toJson.write ↔ d = d' := by
  refine ⟨fun htext => ?_, fun heq => by rw [heq]⟩
  have hd := readText_write h
  rw [htext, readText_write h'] at hd
  exact (Except.ok.inj hd).symm

/-- Two texts with one checksum. -/
def Collide (text text' : String) : Prop := text ≠ text' ∧ Digest.hex text = Digest.hex text'

/-- Two definitions with the same checksum are the same, or their texts collide. -/
theorem eq_or_collide (h : d.Storable) (h' : d'.Storable)
    (hsum : checksum d = checksum d') : d = d' ∨ Collide d.toJson.write d'.toJson.write := by
  by_cases htext : d.toJson.write = d'.toJson.write
  · exact .inl ((write_inj h h').1 htext)
  · exact .inr ⟨htext, hsum⟩

/-! ### The latest version -/

/-- Publishing what is given out as the latest version is answered with it, whenever that is, and
changes nothing. -/
theorem publish_latest {p : Published} {past : List Published} (h : p.definition.Storable)
    (hkeeps : s.Keeps flowId past) (hlatest : past.getLast? = some p) :
    s.flow flowId none = .ok p ∧
      ∀ now, s.publish now flowId p.definition = ((p, false), s) := by
  refine ⟨hkeeps.flow_latest hlatest (readText_write h), fun now => ?_⟩
  rw [hkeeps.publish_same hlatest rfl, hkeeps.given_kept hlatest]

/-- A flow whose settings hold no numbers but integers is read back from its text exactly when the
reader can go as deep as the settings do. So what is read can be written and read again; flows with
one text are one flow, and flows with one checksum are, unless their texts collide; and whatever was
published before, publishing what is given out as the latest version adds none. -/
theorem encoding_is_canonical :
    (∀ d : Definition, d.settings.canonical = d.settings → d.settings.Integral →
      (readText Definition.ofJson d.toJson.write = .ok d ↔
        d.settings.depth < Reader.depthLimit)) ∧
    (∀ text d, readText Definition.ofJson text = .ok d → d.settings.Integral →
      readText Definition.ofJson d.toJson.write = .ok d) ∧
    (∀ d d' : Definition, d.Storable → d'.Storable →
      (d.toJson.write = d'.toJson.write ↔ d = d') ∧
      (checksum d = checksum d' → d = d' ∨ Collide d.toJson.write d'.toJson.write)) ∧
    ∀ calls flowId d, latest? flowId calls = some d → d.Storable →
      ∃ p, p.definition = d ∧ (publishAll {} calls).flow flowId none = .ok p ∧
        ∀ now, (publishAll {} calls).publish now flowId p.definition =
          ((p, false), publishAll {} calls) := by
  -- The parts in order: reading back, reading back what was read, the text, and publishing again.
  refine ⟨?_, ?_, fun d d' h h' => ⟨write_inj h h', eq_or_collide h h'⟩, ?_⟩
  · intro d hsorted hintegral
    refine ⟨fun htext => ?_, fun hdepth => readText_write ⟨hsorted, hintegral, hdepth⟩⟩
    have hreceived : d.Received := ⟨_, htext⟩
    exact (hreceived.storable hintegral).depth
  · intro text d htext hintegral
    have hreceived : d.Received := ⟨text, htext⟩
    exact readText_write (hreceived.storable hintegral)
  · intro calls flowId d hlatest h
    obtain ⟨p, hp, rfl⟩ := Option.map_eq_some_iff.1 hlatest
    exact ⟨p, rfl, publish_latest h (keeps_publishAll calls flowId) hp⟩

namespace Tour

/-- A flow whose settings hold the least and the greatest integers there are. -/
def ranged : Definition where
  containers := [⟨"hall", [⟨"ask", .input .number { saveVariable := some "seats" }⟩]⟩]
  settings := .obj [("range", .arr [.num (.int (-9223372036854775808)),
    .num (.int 18446744073709551615)])]

theorem storable : ranged.Storable where
  sorted := rfl
  integral := .obj (by
    simp only [List.mem_singleton, forall_eq]
    refine .arr ?_
    simp only [List.mem_cons, List.not_mem_nil, or_false, forall_eq_or_imp, forall_eq]
    exact ⟨.int (by decide) (by decide), .int (by decide) (by decide)⟩)
  depth := by decide

/-- The flow is published. -/
def opening : List Submission := [⟨"tour", ranged, ⟨0, 0⟩⟩]

end Tour

/-- The flow with the integers is given out as it was published, and is not published again. -/
theorem encoding_is_canonical_tour :
    Tour.ranged.Storable ∧ readText Definition.ofJson Tour.ranged.toJson.write = .ok Tour.ranged ∧
      ∃ p, p.definition = Tour.ranged ∧ (publishAll {} Tour.opening).flow "tour" none = .ok p ∧
        ∀ now, (publishAll {} Tour.opening).publish now "tour" p.definition =
          ((p, false), publishAll {} Tour.opening) := by
  obtain ⟨hread, -, -, hagain⟩ := encoding_is_canonical
  have h := Tour.storable
  exact ⟨h, (hread _ h.sorted h.integral).2 h.depth, hagain Tour.opening "tour" _ rfl h⟩

end Store

end Dialogue
