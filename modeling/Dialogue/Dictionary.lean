namespace Dialogue

/-!
# Dictionaries

A dictionary holds at most one value per name, and its entries stand in the order of their names.
So two dictionaries are equal exactly when they answer every look-up alike.

* `Dictionary.get?`, `Dictionary.insert`, `Dictionary.erase`: look up a name, set it, take it out.
* `Dictionary.get?_insert`, `Dictionary.get?_erase`: what a look-up finds afterwards.
* `Dictionary.ext_get?`: equal look-ups make equal dictionaries.
-/

namespace Dictionary

variable {α : Type}

/-! ### Sorted entries -/

/-- Puts an entry into sorted entries; an entry of the same name is replaced. -/
def insertEntry (name : String) (value : α) : List (String × α) → List (String × α)
  | [] => [(name, value)]
  | (other, old) :: rest =>
    if name < other then (name, value) :: (other, old) :: rest
    else if name = other then (name, value) :: rest
    else (other, old) :: insertEntry name value rest

/-- The value of a name. -/
def find (name : String) : List (String × α) → Option α
  | [] => none
  | (other, value) :: rest => if name = other then some value else find name rest

/-- Names in ascending order. -/
def Sorted (entries : List (String × α)) : Prop :=
  entries.Pairwise fun a b => a.1 < b.1

/-- What is in the list after an insertion was put in, or was there before. -/
theorem mem_insertEntry {name : String} {value : α} {e : String × α}
    {entries : List (String × α)} (h : e ∈ insertEntry name value entries) :
    e = (name, value) ∨ e ∈ entries := by
  induction entries with
  | nil => simpa [insertEntry] using h
  | cons hd tl ih =>
    unfold insertEntry at h
    split at h
    · simpa using h
    · split at h
      · rcases List.mem_cons.1 h with h | h
        · exact .inl h
        · exact .inr (List.mem_cons_of_mem _ h)
      · rcases List.mem_cons.1 h with h | h
        · exact .inr (h ▸ List.mem_cons_self)
        · rcases ih h with h | h
          · exact .inl h
          · exact .inr (List.mem_cons_of_mem _ h)

/-- Names are ordered totally. -/
theorem lt_of_not_lt_of_ne {a b : String} (h : ¬a < b) (hne : a ≠ b) : b < a := by
  rcases Classical.em (b < a) with h' | h'
  · exact h'
  · exact absurd (String.le_antisymm (String.not_lt.1 h') (String.not_lt.1 h)) hne

/-- An insertion keeps the names in order. -/
theorem sorted_insertEntry {name : String} {value : α} {entries : List (String × α)}
    (h : Sorted entries) : Sorted (insertEntry name value entries) := by
  induction entries with
  | nil => simp [insertEntry, Sorted]
  | cons hd tl ih =>
    obtain ⟨hhd, htl⟩ := List.pairwise_cons.1 h
    unfold insertEntry
    split
    · rename_i hlt
      refine List.pairwise_cons.2 ⟨fun e he => ?_, h⟩
      rcases List.mem_cons.1 he with he | he
      · exact he ▸ hlt
      · exact String.lt_trans hlt (hhd e he)
    · rename_i hnlt
      split
      · rename_i heq
        exact List.pairwise_cons.2 ⟨fun e he => heq ▸ hhd e he, htl⟩
      · rename_i hne
        refine List.pairwise_cons.2 ⟨fun e he => ?_, ih htl⟩
        rcases mem_insertEntry he with he | he
        · exact he ▸ lt_of_not_lt_of_ne hnlt hne
        · exact hhd e he

/-- An insertion is found under its own name; other names are found as before. -/
theorem find_insertEntry (name other : String) (value : α) (entries : List (String × α)) :
    find other (insertEntry name value entries) =
      if other = name then some value else find other entries := by
  induction entries with
  | nil => simp [insertEntry, find]
  | cons hd tl ih =>
    unfold insertEntry
    split
    · simp [find]
    · split
      · rename_i heq
        by_cases h : other = name
        · simp [find, h]
        · simp [find, h, ← heq]
      · rename_i hne
        by_cases h : other = name
        · subst h
          simp [find, hne, ih]
        · simp [find, h, ih]

/-- A name that is taken out is not found; other names are. -/
theorem find_filter (name other : String) (entries : List (String × α)) :
    find other (entries.filter (·.1 != name)) =
      if other = name then none else find other entries := by
  induction entries with
  | nil => simp [find]
  | cons hd tl ih =>
    by_cases hname : hd.1 = name
    · rw [List.filter_cons_of_neg (by simp [hname]), ih]
      by_cases h : other = name <;> simp [find, h, hname]
    · rw [List.filter_cons_of_pos (by simp [hname])]
      by_cases h : other = hd.1
      · simp [find, h, hname]
      · simp [find, h, ih]

/-- A name below all others is not found. -/
theorem find_eq_none {name : String} {entries : List (String × α)}
    (h : ∀ e ∈ entries, name < e.1) : find name entries = none := by
  induction entries with
  | nil => rfl
  | cons hd tl ih =>
    have hne : name ≠ hd.1 := by
      intro he
      have := h hd List.mem_cons_self
      rw [← he] at this
      exact String.lt_irrefl _ this
    simp [find, hne, ih fun e he => h e (List.mem_cons_of_mem _ he)]

/-- Two sorted lists in which the same is found are equal. -/
theorem eq_of_find_eq {a b : List (String × α)} (ha : Sorted a) (hb : Sorted b)
    (h : ∀ name, find name a = find name b) : a = b := by
  induction a generalizing b with
  | nil =>
    cases b with
    | nil => rfl
    | cons hd tl =>
      have := h hd.1
      simp [find] at this
  | cons x xs ih =>
    cases b with
    | nil =>
      have := h x.1
      simp [find] at this
    | cons y ys =>
      obtain ⟨hx, hxs⟩ := List.pairwise_cons.1 ha
      obtain ⟨hy, hys⟩ := List.pairwise_cons.1 hb
      have hkey : x.1 = y.1 := by
        -- The smaller of the two first names would be found in one list only.
        rcases Classical.em (x.1 < y.1) with hlt | hnlt
        · have := h x.1
          have hne : x.1 ≠ y.1 := fun he => String.lt_irrefl _ (he ▸ hlt)
          rw [find, if_pos rfl, find, if_neg hne,
            find_eq_none fun e he => String.lt_trans hlt (hy e he)] at this
          cases this
        · rcases Classical.em (x.1 = y.1) with heq | hne
          · exact heq
          · have hlt := lt_of_not_lt_of_ne hnlt hne
            have := h y.1
            rw [find, if_neg (Ne.symm hne),
              find_eq_none fun e he => String.lt_trans hlt (hx e he), find, if_pos rfl] at this
            cases this
      have hvalue : x.2 = y.2 := by
        have := h x.1
        rw [find, if_pos rfl, find, if_pos hkey] at this
        exact Option.some.inj this
      have htail : xs = ys := by
        refine ih hxs hys fun name => ?_
        rcases Classical.em (name = x.1) with heq | hne
        · subst heq
          rw [find_eq_none hx, find_eq_none (hkey ▸ hy)]
        · have := h name
          rwa [find, if_neg hne, find, if_neg (hkey ▸ hne)] at this
      rw [htail, show x = y from Prod.ext hkey hvalue]

end Dictionary

/-- At most one value per name, in the order of the names. -/
structure Dictionary (α : Type) where
  entries : List (String × α) := []
  sorted : Dictionary.Sorted entries := by exact List.Pairwise.nil

namespace Dictionary

variable {α : Type}

/-- The dictionary without entries. -/
def empty : Dictionary α := {}

instance : Inhabited (Dictionary α) := ⟨empty⟩

/-- The value of a name. -/
def get? (d : Dictionary α) (name : String) : Option α :=
  find name d.entries

/-- Sets a name. -/
def insert (d : Dictionary α) (name : String) (value : α) : Dictionary α :=
  ⟨insertEntry name value d.entries, sorted_insertEntry d.sorted⟩

/-- Takes a name out. -/
def erase (d : Dictionary α) (name : String) : Dictionary α :=
  ⟨d.entries.filter (·.1 != name), d.sorted.filter _⟩

/-- Sets one name after the other; of two entries with one name the later one stays. -/
def ofList (entries : List (String × α)) : Dictionary α :=
  entries.foldl (fun d e => d.insert e.1 e.2) empty

/-- The names, in ascending order. -/
def names (d : Dictionary α) : List String :=
  d.entries.map Prod.fst

theorem ext {a b : Dictionary α} (h : a.entries = b.entries) : a = b := by
  cases a
  cases b
  cases h
  rfl

instance [DecidableEq α] : DecidableEq (Dictionary α) := fun a b =>
  if h : a.entries = b.entries then isTrue (ext h) else isFalse fun he => h (he ▸ rfl)

@[simp] theorem get?_empty (name : String) : (empty : Dictionary α).get? name = none := rfl

@[simp] theorem get?_insert (d : Dictionary α) (name other : String) (value : α) :
    (d.insert name value).get? other = if other = name then some value else d.get? other :=
  find_insertEntry name other value d.entries

/-- What is erased is not found any more. -/
@[simp] theorem get?_erase (d : Dictionary α) (name other : String) :
    (d.erase name).get? other = if other = name then none else d.get? other :=
  find_filter name other d.entries

/-- Dictionaries in which the same is found are equal. -/
theorem ext_get? {a b : Dictionary α} (h : ∀ name, a.get? name = b.get? name) : a = b :=
  ext (eq_of_find_eq a.sorted b.sorted h)

end Dictionary

end Dialogue
