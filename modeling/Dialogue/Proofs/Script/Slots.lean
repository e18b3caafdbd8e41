import Dialogue.Script.Scopes
import Mathlib.Data.List.Sort

namespace Dialogue

/-!
# What scopes hold under a name

Every open block may hold a value under a name, and so may the globals. Whatever a script does to
its scopes it does to these slots: it fills the innermost one, it sets the innermost one that holds
something, or it puts an empty one in front and takes it away again.

* `Scopes.slots`: what the scopes hold under a name.
* `Slots.assign`: an assignment to a name, by its slots.
* `Scopes.slots_declare`, `Scopes.slots_assign?`, `Scopes.slots_enter`, `Scopes.slots_leave`: what
  the operations on scopes do to the slots of a name.
* `Scopes.Outside`, `Scopes.Inside`: what becomes of scopes around a block, and within it.
* `Dictionary.names_eq`, `Scopes.names_blocks`: scopes whose slots are filled alike have the same
  names.
-/

/-! ### The names of a scope -/

namespace Dictionary

variable {α β : Type}

/-- A name is found exactly if it stands in the list. -/
theorem find_isSome_iff {name : String} {entries : List (String × α)} :
    (find name entries).isSome ↔ name ∈ entries.map Prod.fst := by
  induction entries with
  | nil => simp [find]
  | cons e rest ih =>
    obtain ⟨key, value⟩ := e
    by_cases h : name = key <;> simp [find, h, ← ih]

/-- The names are those under which there is a value. -/
theorem mem_names_iff {d : Dictionary α} {name : String} :
    name ∈ d.names ↔ (d.get? name).isSome := find_isSome_iff.symm

/-- The names stand in one order, so it is enough to know which they are. -/
theorem names_eq {d : Dictionary α} {d' : Dictionary β}
    (h : ∀ name, (d.get? name).isSome = (d'.get? name).isSome) : d.names = d'.names := by
  have hsorted : d.names.Pairwise (· < ·) := List.pairwise_map.2 d.sorted
  have hsorted' : d'.names.Pairwise (· < ·) := List.pairwise_map.2 d'.sorted
  apply hsorted.eq_of_mem_iff hsorted'
  intro name
  rw [mem_names_iff, mem_names_iff, h name]

end Dictionary

namespace Script

/-- What scopes hold under one name, from the innermost block outwards to the globals. -/
abbrev Slots := List (Option Value)

namespace Slots

variable {slots outer : Slots}

/-- Sets the innermost slot that holds something, or the last one if none does. -/
def assign (v : Value) : Slots → Slots
  | [] => []
  | slot :: outer =>
    if slot.isSome || outer.isEmpty then some v :: outer else slot :: assign v outer

/-- The innermost slot holds something, so it is set. -/
theorem assign_some (v w : Value) (outer : Slots) :
    assign v (some w :: outer) = some v :: outer := by
  simp [assign]

/-- The innermost slot is empty, so the assignment goes outwards. -/
theorem assign_none (v : Value) (h : outer ≠ []) :
    assign v (none :: outer) = none :: assign v outer := by
  simp [assign, h]

/-- The slot of the globals is set in any case. -/
theorem assign_last (v : Value) (slot : Option Value) : assign v [slot] = [some v] := by
  simp [assign]

/-- No slot is added. -/
@[simp] theorem length_assign (v : Value) (slots : Slots) :
    (assign v slots).length = slots.length := by
  induction slots with
  | nil => rfl
  | cons slot outer ih =>
    unfold assign
    split
    · rfl
    · simp [ih]

/-- Of two assignments to a name the second one counts: it reaches the same slot. -/
theorem assign_assign (v w : Value) (slots : Slots) :
    assign v (assign w slots) = assign v slots := by
  induction slots with
  | nil => rfl
  | cons slot outer ih =>
    cases slot with
    | some u => rw [assign_some, assign_some, assign_some]
    | none =>
      by_cases h : outer = []
      · subst h
        rw [assign_last, assign_last, assign_last]
      · have h' : assign w outer ≠ [] := by
          -- The slots outside are not empty after the assignment either.
          intro hnil
          apply h
          rw [← List.length_eq_zero_iff, ← length_assign w, hnil, List.length_nil]
        rw [assign_none w h, assign_none v h', assign_none v h, ih]

/-- Where no block has the name, an assignment sets the global. -/
theorem assign_global (v : Value) (global : Option Value) (h : ∀ slot ∈ slots, slot = none) :
    assign v (slots ++ [global]) = slots ++ [some v] := by
  induction slots with
  | nil => exact assign_last v global
  | cons slot outer ih =>
    rw [List.forall_mem_cons] at h
    rw [h.1, List.cons_append, assign_none v (by simp), ih h.2]
    rfl

/-- Where some scope has the name, an assignment introduces it nowhere. -/
theorem declared_assign (v : Value) (h : ∃ slot ∈ slots, slot.isSome) :
    (assign v slots).map Option.isSome = slots.map Option.isSome := by
  induction slots with
  | nil => rfl
  | cons slot outer ih =>
    cases slot with
    | some w => rw [assign_some, List.map_cons, List.map_cons, Option.isSome_some,
        Option.isSome_some]
    | none =>
      obtain ⟨held, hheld, hsome⟩ := h
      have houter : held ∈ outer := by
        rcases List.mem_cons.1 hheld with rfl | hmem
        · cases hsome
        · exact hmem
      rw [assign_none v (List.ne_nil_of_mem houter), List.map_cons, List.map_cons,
        ih ⟨held, houter, hsome⟩]

end Slots

namespace Scopes

variable {s s' : Scopes} {name other : String} {v : Value}

/-- What the scopes hold under a name. -/
def slots (s : Scopes) (name : String) : Slots :=
  s.blocks.map (·.get? name) ++ [s.globals.get? name]

/-- How many scopes there are, the globals among them. -/
def height (s : Scopes) : Nat := s.blocks.length + 1

/-- There is a slot in each block and one among the globals. -/
@[simp] theorem length_slots (s : Scopes) (name : String) : (s.slots name).length = s.height := by
  simp [slots, height]

/-- There is always a slot: that of the globals. -/
theorem exists_slots (s : Scopes) (name : String) : ∃ slot outer, s.slots name = slot :: outer :=
  List.exists_cons_of_length_eq_add_one (s.length_slots name)

/-- A name has the value of the innermost slot that holds one. -/
theorem find?_eq (s : Scopes) (name : String) : s.find? name = (s.slots name).findSome? id := by
  rw [slots, List.findSome?_append, List.findSome?_map, List.findSome?_singleton]
  rfl

/-! ### What operations do to slots -/

/-- Setting a global changes the last slot of its name, and nothing for other names. -/
theorem slots_setGlobal (s : Scopes) (name other : String) (v : Value) :
    (s.setGlobal name v).slots other =
      if other = name then s.blocks.map (·.get? other) ++ [some v] else s.slots other := by
  by_cases h : other = name <;> simp [slots, setGlobal, h]

/-- A name that is introduced takes the innermost slot. -/
theorem slots_declare (s : Scopes) (name other : String) (v : Value) :
    (s.declare name v).slots other =
      if other = name then some v :: (s.slots other).tail else s.slots other := by
  obtain ⟨blocks, globals⟩ := s
  cases blocks with
  | nil => by_cases h : other = name <;> simp [slots, declare, h]
  | cons inner outer => by_cases h : other = name <;> simp [slots, declare, h]

/-- The innermost block that has the name is assigned to. -/
theorem slots_assignIn? {blocks blocks' : List Scope} (global : Option Value)
    (h : assignIn? name v blocks = some blocks') :
    blocks'.map (·.get? other) ++ [global] =
      if other = name then Slots.assign v (blocks.map (·.get? other) ++ [global])
      else blocks.map (·.get? other) ++ [global] := by
  -- On the blocks, from the inside out: the name is here, or it is looked for outside.
  induction blocks generalizing blocks' with
  | nil => cases h
  | cons inner outer ih =>
    unfold assignIn? at h
    split at h
    · rename_i old hold
      cases h
      by_cases hname : other = name
      · simp [hname, hold, Slots.assign_some]
      · simp [hname]
    · rename_i hnone
      obtain ⟨rest, hrest, rfl⟩ := Option.map_eq_some_iff.1 h
      rw [List.map_cons, List.cons_append, ih hrest]
      by_cases hname : other = name
      · simp [hname, hnone, Slots.assign_none]
      · simp [hname]

/-- Where no block takes the assignment, no block has the name. -/
theorem get?_of_assignIn? {blocks : List Scope} (h : assignIn? name v blocks = none) :
    ∀ slot ∈ blocks.map (·.get? name), slot = none := by
  induction blocks with
  | nil => exact List.forall_mem_nil _
  | cons inner outer ih =>
    unfold assignIn? at h
    split at h
    · cases h
    · rename_i hnone
      rw [List.map_cons, List.forall_mem_cons]
      exact ⟨hnone, ih (Option.map_eq_none_iff.1 h)⟩

/-- A global is assigned to if no block has the name. -/
theorem slots_setGlobal_of_blocks (h : assignIn? name v s.blocks = none) (other : String) :
    (s.setGlobal name v).slots other =
      if other = name then Slots.assign v (s.slots other) else s.slots other := by
  rw [slots_setGlobal]
  by_cases hname : other = name
  · subst hname
    rw [if_pos rfl, if_pos rfl, slots, Slots.assign_global v _ (get?_of_assignIn? h)]
  · rw [if_neg hname, if_neg hname]

/-- A name is set where it was introduced. -/
theorem slots_assign? (h : s.assign? name v = some s') (other : String) :
    s'.slots other = if other = name then Slots.assign v (s.slots other) else s.slots other := by
  unfold assign? at h
  split at h
  · rename_i blocks hblocks
    cases h
    exact slots_assignIn? (s.globals.get? other) hblocks
  · rename_i hblocks
    obtain ⟨old, -, rfl⟩ := Option.map_eq_some_iff.1 h
    exact slots_setGlobal_of_blocks hblocks other

/-- A name that was introduced nowhere becomes a global. -/
theorem slots_setGlobal_of_assign? (h : s.assign? name v = none) (other : String) :
    (s.setGlobal name v).slots other =
      if other = name then Slots.assign v (s.slots other) else s.slots other := by
  unfold assign? at h
  split at h
  · cases h
  · rename_i hblocks
    exact slots_setGlobal_of_blocks hblocks other

/-- A new block has an empty slot for each name. -/
@[simp] theorem slots_enter (s : Scopes) (name : String) :
    s.enter.slots name = none :: s.slots name := rfl

/-- Leaving a block drops its slot. -/
theorem slots_leave (h : s.blocks ≠ []) (name : String) :
    s.leave.slots name = (s.slots name).tail := by
  obtain ⟨blocks, globals⟩ := s
  cases blocks with
  | nil => contradiction
  | cons inner outer => rfl

end Scopes

/-! ### The slots of a name around a block and within it -/

namespace Slots

variable {may may' : Prop} {v : Value} {slot global global' : Option Value}
  {slots slots' slots'' outer blocks blocks' : Slots}

/-- What becomes of the slots of a name around a block: they stay as they are, or an assignment
reaches them, if the block may assign to the name. -/
inductive Outside (may : Prop) (slots : Slots) : Slots → Prop
  | kept : Outside may slots slots
  | assigned (h : may) (v : Value) : Outside may slots (assign v slots)

/-- What becomes of the slots of a name by statements in a row: the innermost slot is theirs, and it
is not emptied again. An assignment reaches the others only while the innermost one is empty. -/
inductive Inside (may : Prop) : Slots → Slots → Prop
  | own {slot slot' : Option Value} (h : slot.isSome → slot'.isSome) (outer : Slots) :
    Inside may (slot :: outer) (slot' :: outer)
  | through (h : may) (slot' : Option Value) (v : Value) (outer : Slots) :
    Inside may (none :: outer) (slot' :: assign v outer)

/-- Two changes one after the other are one, the later. -/
theorem Outside.trans (h : Outside may slots slots') (h' : Outside may slots' slots'') :
    Outside may slots slots'' := by
  cases h with
  | kept => exact h'
  | assigned hmay w =>
    cases h' with
    | kept => exact .assigned hmay w
    | assigned _ v =>
      rw [assign_assign]
      exact .assigned hmay v

/-- A change may happen under a weaker condition. -/
theorem Outside.mono (h : Outside may slots slots') (hmay : may → may') :
    Outside may' slots slots' := by
  cases h with
  | kept => exact .kept
  | assigned h v => exact .assigned (hmay h) v

/-- An assignment takes the innermost slot if it holds something, and passes it by if not. -/
theorem Outside.inside (h : Outside may (slot :: outer) slots') :
    Inside may (slot :: outer) slots' := by
  -- The assignment stays in the innermost slot or passes through it.
  cases h with
  | kept => exact .own id outer
  | assigned hmay v =>
    cases slot with
    | some w =>
      rw [assign_some]
      exact .own (fun _ => rfl) outer
    | none =>
      by_cases houter : outer = []
      · subst houter
        rw [assign_last]
        exact .own (fun _ => rfl) []
      · rw [assign_none v houter]
        exact .through hmay none v outer

/-- Around a block no name is introduced but a global, and that only if no scope has it. -/
theorem Outside.declared (h : Outside may (blocks ++ [global]) (blocks' ++ [global'])) :
    blocks'.map Option.isSome = blocks.map Option.isSome ∧
      (global.isSome → global'.isSome) ∧
      (global'.isSome → global.isSome ∨ may ∧ ∀ slot ∈ blocks, slot = none) := by
  generalize hslots : blocks' ++ [global'] = slots' at h
  cases h with
  | kept =>
    obtain ⟨rfl, hglobal⟩ := List.append_inj' hslots rfl
    -- Without an assignment the slots are the same, block by block.
    cases hglobal
    exact ⟨rfl, id, .inl⟩
  | assigned hmay v =>
    by_cases hnone : ∀ slot ∈ blocks, slot = none
    · rw [assign_global v global hnone] at hslots
      obtain ⟨rfl, hglobal⟩ := List.append_inj' hslots rfl
      cases hglobal
      exact ⟨rfl, fun _ => rfl, fun _ => .inr ⟨hmay, hnone⟩⟩
    · -- Some block has the name, so the assignment goes to a slot that holds something.
      push Not at hnone
      obtain ⟨slot, hslot, hsome⟩ := hnone
      have hdeclared : (assign v (blocks ++ [global])).map Option.isSome =
          (blocks ++ [global]).map Option.isSome :=
        declared_assign v
          ⟨slot, List.mem_append_left _ hslot, Option.isSome_iff_ne_none.2 hsome⟩
      rw [← hslots, List.map_append, List.map_append] at hdeclared
      obtain ⟨hblocks, hglobal⟩ := List.append_inj' hdeclared rfl
      have hsame : global'.isSome = global.isSome := by simpa using hglobal
      rw [hsame]
      exact ⟨hblocks, id, .inl⟩

/-- What is left of the slots of a name when the innermost scope is closed. -/
theorem Inside.outside (h : Inside may (none :: slots) slots') : Outside may slots slots'.tail := by
  cases h with
  | own _ => exact .kept
  | through hmay _ v => exact .assigned hmay v

/-- A change inside may happen under a weaker condition. -/
theorem Inside.mono (h : Inside may slots slots') (hmay : may → may') :
    Inside may' slots slots' := by
  cases h with
  | own h outer => exact .own h outer
  | through h slot' v outer => exact .through (hmay h) slot' v outer

/-- No slot is added inside. -/
theorem Inside.length_eq (h : Inside may slots slots') : slots'.length = slots.length := by
  cases h with
  | own _ outer => rfl
  | through _ _ v outer => simp

/-- Behind an introduction of the name, statements do not get at the slots around. -/
theorem Inside.of_declared (h : Inside may (some v :: outer) slots') :
    ∃ w, slots' = some w :: outer := by
  cases h with
  | own h =>
    obtain ⟨w, rfl⟩ := Option.isSome_iff_exists.1 (h rfl)
    exact ⟨w, rfl⟩

/-- Two changes inside are one. -/
theorem Inside.trans (h : Inside may slots slots') (h' : Inside may slots' slots'') :
    Inside may slots slots'' := by
  cases h with
  | own hown outer =>
    cases h' with
    | own hown' => exact .own (hown' ∘ hown) outer
    | through hmay slot'' v =>
      -- The innermost slot is empty in between, so it was empty before.
      rename_i slot
      cases slot with
      | none => exact .through hmay slot'' v outer
      | some w => cases hown rfl
  | through hmay slot' w outer =>
    cases h' with
    | own _ => exact .through hmay _ w outer
    | through _ slot'' v =>
      rw [assign_assign]
      exact .through hmay slot'' v outer

/-- A statement, and the statements behind it. If it introduces the name, they assign to that. -/
theorem Inside.cons {declares : Prop} (h : Inside may slots slots')
    (hdeclares : declares → ∃ v outer, slots' = some v :: outer)
    (h' : Inside may' slots' slots'') : Inside (may ∨ ¬declares ∧ may') slots slots'' := by
  by_cases hname : declares
  · obtain ⟨v, outer, rfl⟩ := hdeclares hname
    obtain ⟨w, rfl⟩ := h'.of_declared
    exact (h.mono .inl).trans (.own (fun _ => rfl) outer)
  · exact (h.mono .inl).trans (h'.mono fun hmay => .inr ⟨hname, hmay⟩)

end Slots

/-! ### Scopes around a block and within it -/

namespace Scopes

variable {may may' : String → Prop} {s s' s'' : Scopes}

/-- What becomes of the scopes around a block that may assign to some names. -/
def Outside (may : String → Prop) (s s' : Scopes) : Prop :=
  ∀ name, Slots.Outside (may name) (s.slots name) (s'.slots name)

/-- What becomes of scopes by statements in a row that may assign to some names. -/
def Inside (may : String → Prop) (s s' : Scopes) : Prop :=
  ∀ name, Slots.Inside (may name) (s.slots name) (s'.slots name)

theorem Outside.refl (may : String → Prop) (s : Scopes) : s.Outside may s := fun _ => .kept

/-- Two changes that are seen from outside are one. -/
theorem Outside.trans (h : s.Outside may s') (h' : s'.Outside may s'') : s.Outside may s'' :=
  fun name => (h name).trans (h' name)

/-- They may reach more names. -/
theorem Outside.mono (h : s.Outside may s') (hmay : ∀ name, may name → may' name) :
    s.Outside may' s' := fun name => (h name).mono (hmay name)

/-- What is seen from outside may happen inside. -/
theorem Outside.inside (h : s.Outside may s') : s.Inside may s' := by
  intro name
  have hname := h name
  obtain ⟨slot, outer, hslots⟩ := s.exists_slots name
  rw [hslots] at hname ⊢
  exact hname.inside

/-- Blocks that are opened inside are closed there. -/
theorem Inside.height_eq (h : s.Inside may s') : s'.height = s.height := by
  simpa using (h "").length_eq

/-- The scope that a block has opened is there to be closed. -/
theorem Inside.blocks_ne_nil (h : s.enter.Inside may s') : s'.blocks ≠ [] := by
  have hheight := h.height_eq
  intro hnil
  simp [height, enter, hnil] at hheight

/-- What is left of the scopes when a block is closed. -/
theorem Inside.leave (h : s.enter.Inside may s') : s.Outside may s'.leave := by
  intro name
  rw [slots_leave h.blocks_ne_nil]
  exact (h name).outside

/-- A name that is introduced fills the innermost slot. -/
theorem inside_declare (s : Scopes) (name : String) (v : Value) :
    s.Inside (fun _ => False) (s.declare name v) := by
  intro other
  obtain ⟨slot, outer, hslots⟩ := s.exists_slots other
  rw [slots_declare, hslots]
  by_cases h : other = name
  · rw [if_pos h]
    exact .own (fun _ => rfl) outer
  · rw [if_neg h]
    exact .own id outer

/-- An assignment changes the slots of the name that is assigned to. -/
theorem outside_of_assigned {name : String} {v : Value}
    (h : ∀ other, s'.slots other =
      if other = name then Slots.assign v (s.slots other) else s.slots other) :
    s.Outside (name = ·) s' := by
  intro other
  rw [h]
  by_cases hname : other = name
  · rw [if_pos hname]
    exact .assigned hname.symm v
  · rw [if_neg hname]
    exact .kept

/-- Scopes have the same names if the slots of every name are filled alike. -/
theorem names_blocks {blocks blocks' : List Scope}
    (h : ∀ name, (blocks'.map (·.get? name)).map Option.isSome =
      (blocks.map (·.get? name)).map Option.isSome) :
    blocks'.map Dictionary.names = blocks.map Dictionary.names := by
  -- Block by block: a scope's names are those whose slot holds something.
  induction blocks generalizing blocks' with
  | nil => simpa using h ""
  | cons inner outer ih =>
    cases blocks' with
    | nil => simpa using h ""
    | cons inner' outer' =>
      rw [List.map_cons, List.map_cons, Dictionary.names_eq fun name => (List.cons.inj (h name)).1,
        ih fun name => (List.cons.inj (h name)).2]

end Scopes

end Script

end Dialogue
