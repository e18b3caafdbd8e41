import Dialogue.Script.Machine
import Mathlib.Data.List.Nodup

namespace Dialogue.Script

/-!
# Variables behind an overlay

An overlay holds the written values in a dictionary, and the written names in a list beside it. The
two agree: the names are distinct, and they are those that have a value. So what an overlay hands
out is one entry per written name, and these may be written out in any order. What is read through
an overlay is what would be read if every write had gone to the variables themselves.

* `Overlay.Coherent`, `Overlay.Coherent.write`: the names agree with the values, and go on to.
* `Overlay.Coherent.lookup_mutations`: what is handed out are the values that are held.
* `Overlay.Coherent.mutations_write`: what a write makes of what is handed out.
* `Overlay.through`: what is read through an overlay.
* `Overlay.get?_written_out`: variables into which the entries are written one by one.
-/

namespace Overlay

variable {name other text : String} {entries : List (String × String)}

/-! ### Entries -/

/-- Sets an entry where it stands, or adds it at the end. -/
def setEntry (name value : String) : List (String × String) → List (String × String)
  | [] => [(name, value)]
  | (other, old) :: rest =>
    if name = other then (name, value) :: rest else (other, old) :: setEntry name value rest

/-- The first entry is found under its name. -/
theorem lookup_cons (name key text : String) (rest : List (String × String)) :
    ((key, text) :: rest).lookup name = if name = key then some text else rest.lookup name := by
  rw [List.lookup_cons]
  split <;> simp_all

/-- An entry that is set is found under its name, and all others as before. -/
theorem lookup_setEntry (name other text : String) (entries : List (String × String)) :
    (setEntry name text entries).lookup other =
      if other = name then some text else entries.lookup other := by
  induction entries with
  | nil => exact lookup_cons other name text []
  | cons e rest ih =>
    obtain ⟨key, old⟩ := e
    unfold setEntry
    split
    · rename_i hk
      subst hk
      simp only [lookup_cons]
      split <;> rfl
    · -- the entry of another name stays in front
      rename_i hk
      simp only [lookup_cons, ih]
      by_cases h : other = key
      · simp [h, Ne.symm hk]
      · simp [h]

/-- An entry is set where it stands, or added at the end. -/
theorem keys_setEntry (name text : String) (entries : List (String × String)) :
    (setEntry name text entries).map Prod.fst =
      if name ∈ entries.map Prod.fst then entries.map Prod.fst
      else entries.map Prod.fst ++ [name] := by
  induction entries with
  | nil => simp [setEntry]
  | cons e rest ih =>
    obtain ⟨key, old⟩ := e
    unfold setEntry
    split
    · rename_i hk
      simp [hk]
    · rename_i hk
      simp only [List.map_cons, ih, List.mem_cons, hk, false_or]
      split <;> simp

/-- What is found is an entry. -/
theorem mem_of_lookup (h : entries.lookup name = some text) : (name, text) ∈ entries := by
  obtain ⟨before, after, rfl, _⟩ := List.lookup_eq_some_iff.1 h
  exact List.mem_append_right _ List.mem_cons_self

/-- Nothing is found under a name that no entry has. -/
theorem lookup_eq_none (h : name ∉ entries.map Prod.fst) : entries.lookup name = none :=
  List.lookup_eq_none_iff.2 fun e he => by
    have : name ≠ e.1 := fun hn => h (hn ▸ List.mem_map_of_mem he)
    simpa using this

/-- Where names are distinct, an entry is what is found under its name. -/
theorem lookup_of_mem (h : (entries.map Prod.fst).Nodup) (hm : (name, text) ∈ entries) :
    entries.lookup name = some text := by
  obtain ⟨before, after, rfl⟩ := List.append_of_mem hm
  refine List.lookup_eq_some_iff.2 ⟨before, after, rfl, fun e he => ?_⟩
  rw [List.map_append, List.map_cons] at h
  have hne := (List.nodup_append.1 h).2.2 e.1 (List.mem_map_of_mem he) name List.mem_cons_self
  simpa using Ne.symm hne

/-- The order of entries with distinct names does not matter. -/
theorem lookup_perm {entries' : List (String × String)} (hp : entries'.Perm entries)
    (h : (entries.map Prod.fst).Nodup) (name : String) :
    entries'.lookup name = entries.lookup name := by
  have h' : (entries'.map Prod.fst).Nodup := (hp.map Prod.fst).nodup_iff.2 h
  refine Option.ext fun text => ⟨fun hl => ?_, fun hl => ?_⟩
  · exact lookup_of_mem h (hp.subset (mem_of_lookup hl))
  · exact lookup_of_mem h' (hp.symm.subset (mem_of_lookup hl))

/-- Entries with the same distinct names, in the same order and with the same values, are the same.
-/
theorem eq_of_lookup {entries' : List (String × String)}
    (hnames : entries.map Prod.fst = entries'.map Prod.fst) (hnodup : (entries.map Prod.fst).Nodup)
    (h : ∀ name, entries.lookup name = entries'.lookup name) : entries = entries' := by
  induction entries generalizing entries' with
  | nil => exact (List.map_eq_nil_iff.1 hnames.symm).symm
  | cons e rest ih =>
    obtain ⟨key, text⟩ := e
    obtain ⟨⟨key', text'⟩, rest', rfl⟩ := List.exists_cons_of_length_pos
      (show 0 < entries'.length by rw [← List.length_map Prod.fst, ← hnames]; simp)
    obtain ⟨rfl, hrest⟩ : key = key' ∧ rest.map Prod.fst = rest'.map Prod.fst := by
      simpa using hnames
    obtain ⟨hkey, hnodup⟩ := List.nodup_cons.1 hnodup
    have htext : text = text' := by simpa [lookup_cons] using h key
    rw [htext, ih hrest hnodup fun name => ?_]
    -- The name in front is none of the names behind it.
    by_cases hname : name = key
    · rw [hname, lookup_eq_none hkey, lookup_eq_none (hrest ▸ hkey)]
    · simpa [lookup_cons, hname] using h name

/-! ### Values and names -/

/-- The names that are listed are distinct, and are those of the values that are held. -/
structure Coherent (o : Overlay) : Prop where
  nodup : o.written.Nodup
  mem_iff (name : String) : name ∈ o.written ↔ (o.get? name).isSome

/-- Of distinct names with values, each is taken out with its own. -/
theorem takeAll_eq {names : List String} (hnodup : names.Nodup) (values : Dictionary String) :
    takeAll values names = names.filterMap fun name => (values.get? name).map (name, ·) := by
  induction names generalizing values with
  | nil => rfl
  | cons name rest ih =>
    obtain ⟨hname, hrest⟩ := List.nodup_cons.1 hnodup
    unfold takeAll
    cases hget : values.get? name with
    | none =>
      rw [List.filterMap_cons_none (by rw [hget]; rfl)]
      exact ih hrest values
    | some value =>
      rw [List.filterMap_cons_some (by rw [hget]; rfl)]
      dsimp only
      rw [ih hrest]
      -- The name that was taken out is none of the others.
      refine congrArg _ (List.filterMap_congr fun other hother => ?_)
      have hne : other ≠ name := fun heq => hname (heq ▸ hother)
      rw [Dictionary.get?_erase, if_neg hne]

namespace Coherent

variable {o o' : Overlay} {limits : Limits}

theorem empty : Coherent {} where
  nodup := .nil
  mem_iff name := by simp [get?]

/-- A name that is set is listed once. -/
theorem set (h : o.Coherent) (name text : String) : (o.set name text).Coherent := by
  have hget (other : String) : (o.set name text).get? other =
      if other = name then some text else o.get? other :=
    Dictionary.get?_insert o.values name other text
  cases hname : o.get? name with
  | some old =>
    have hwritten : (o.set name text).written = o.written := if_neg (by simp [hname])
    refine ⟨by rw [hwritten]; exact h.nodup, fun other => ?_⟩
    rw [hwritten, h.mem_iff, hget]
    split
    · rename_i heq
      simp [heq, hname]
    · rfl
  | none =>
    have hnew : name ∉ o.written := by simp [h.mem_iff, hname]
    have hwritten : (o.set name text).written = o.written ++ [name] := if_pos (by simp [hname])
    refine ⟨?_, fun other => ?_⟩
    · rw [hwritten, ← List.concat_eq_append]
      exact h.nodup.concat hnew
    · rw [hwritten, List.mem_append, List.mem_singleton, h.mem_iff, hget]
      split
      · rename_i heq
        simp [heq]
      · rename_i hne
        simp [hne]

/-- The names of what is handed out are those that are listed. -/
theorem names_mutations (h : o.Coherent) : o.mutations.map Prod.fst = o.written := by
  unfold mutations
  rw [takeAll_eq h.nodup, List.map_filterMap]
  calc o.written.filterMap (fun name => ((o.values.get? name).map (name, ·)).map Prod.fst)
      = o.written.filterMap some := by
        refine List.filterMap_congr fun name hname => ?_
        obtain ⟨text, htext⟩ := Option.isSome_iff_exists.1 ((h.mem_iff name).1 hname)
        rw [show o.values.get? name = some text from htext]
        rfl
    _ = o.written := List.filterMap_some

/-- No name is handed out twice. -/
theorem nodup_mutations (h : o.Coherent) : (o.mutations.map Prod.fst).Nodup := by
  rw [h.names_mutations]
  exact h.nodup

/-- What is handed out under a name is the value that is held. -/
theorem lookup_mutations (h : o.Coherent) (name : String) :
    o.mutations.lookup name = o.get? name := by
  cases hget : o.get? name with
  | none =>
    refine lookup_eq_none ?_
    rw [h.names_mutations, h.mem_iff, hget]
    simp
  | some text =>
    refine lookup_of_mem h.nodup_mutations ?_
    unfold mutations
    rw [takeAll_eq h.nodup, List.mem_filterMap]
    refine ⟨name, (h.mem_iff name).2 (by rw [hget]; rfl), ?_⟩
    rw [show o.values.get? name = some text from hget]
    rfl

end Coherent

/-! ### Writes -/

/-- A limit may refuse a write, but it does not change one. -/
theorem eq_of_write {o o' : Overlay} {limits : Limits} (h : o.write limits name text = .ok o') :
    o' = o.set name text := by
  unfold write at h
  split at h
  · cases h
  · split at h
    · cases h
    · exact (Except.ok.inj h).symm

/-- A write changes the value of its name, and of no other. -/
theorem get?_write {o o' : Overlay} {limits : Limits} (h : o.write limits name text = .ok o')
    (other : String) : o'.get? other = if other = name then some text else o.get? other := by
  rw [eq_of_write h]
  exact Dictionary.get?_insert o.values name other text

namespace Coherent

variable {o o' : Overlay} {limits : Limits}

/-- After a write the names agree with the values. -/
theorem write (h : o.Coherent) (hwrite : o.write limits name text = .ok o') : o'.Coherent := by
  rw [eq_of_write hwrite]
  exact h.set name text

/-- A write lists its name after the others unless it is listed. -/
theorem written_write (h : o.Coherent) (hwrite : o.write limits name text = .ok o') :
    o'.written = if name ∈ o.written then o.written else o.written ++ [name] := by
  rw [eq_of_write hwrite]
  unfold Overlay.set
  cases hget : o.get? name <;> simp [h.mem_iff, hget]

/-- A write sets the entry of its name where it stands, or adds it at the end. -/
theorem mutations_write (h : o.Coherent) (hwrite : o.write limits name text = .ok o') :
    o'.mutations = setEntry name text o.mutations := by
  have h' := h.write hwrite
  refine eq_of_lookup ?_ h'.nodup_mutations fun other => ?_
  · rw [h'.names_mutations, keys_setEntry, h.names_mutations, h.written_write hwrite]
  · rw [h'.lookup_mutations, get?_write hwrite, lookup_setEntry, h.lookup_mutations]

end Coherent

/-! ### Reading through an overlay -/

/-- What is read through an overlay that lies over variables. -/
def through (o : Overlay) (vars : Dictionary String) (name : String) : Option String :=
  (o.get? name).or (vars.get? name)

/-- A write is seen at its name, and nowhere else. -/
theorem through_write {o o' : Overlay} {limits : Limits} (h : o.write limits name text = .ok o')
    (vars : Dictionary String) (other : String) :
    o'.through vars other = if other = name then some text else o.through vars other := by
  unfold through
  rw [get?_write h]
  split <;> simp

/-- Entries with distinct names are written one after the other: what is found then is the entry of
a name, else what was there. -/
theorem get?_foldl_insert {entries : List (String × String)} (h : (entries.map Prod.fst).Nodup)
    (vars : Dictionary String) (name : String) :
    (entries.foldl (fun vars e => vars.insert e.1 e.2) vars).get? name =
      (entries.lookup name).or (vars.get? name) := by
  induction entries generalizing vars with
  | nil => rfl
  | cons e rest ih =>
    obtain ⟨key, text⟩ := e
    obtain ⟨hkey, hrest⟩ := List.nodup_cons.1 h
    rw [List.foldl_cons, ih hrest, lookup_cons, Dictionary.get?_insert]
    by_cases hn : name = key
    · subst hn
      simp [lookup_eq_none hkey]
    · simp [hn]

/-- Written out in any order, the entries of an overlay make the variables what is read through
it. -/
theorem get?_written_out {o : Overlay} (h : o.Coherent) {writes : List (String × String)}
    (hp : writes.Perm o.mutations) (vars : Dictionary String) (name : String) :
    (writes.foldl (fun vars e => vars.insert e.1 e.2) vars).get? name = o.through vars name := by
  have hnodup := h.nodup_mutations
  rw [get?_foldl_insert ((hp.map Prod.fst).nodup_iff.2 hnodup), lookup_perm hp hnodup,
    h.lookup_mutations]
  rfl

end Overlay

end Dialogue.Script
