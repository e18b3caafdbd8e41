import Dialogue.Proofs.Script.Direct

namespace Dialogue.Script

open Effects

/-!
# The account of what is written

The size of an overlay is not computed from its entries; each write adds what it brings and takes
away what it replaces. At every point of a run the size is nevertheless that of the names written so
far with their latest texts, and so the budgets are kept exactly: a write succeeds if and only if
the entries that it leads to are within them.

* `writtenNames`, `machineAfter`: what the moments of a run tell.
* `Overlay.size`, `Limits.Admits`: the size of entries, and entries that are within the budgets.
* `Overlay.Balanced`: the size that is kept is that of the entries, and within the budgets.
* `Overlay.Balanced.write_eq_ok_iff`: when a write succeeds.
* `writes_are_accounted_for`: the account at every point of a run, and in its outcome.
-/

namespace Overlay

variable {name other text old : String} {entries : List (String × String)} {limits : Limits}

/-! ### The size of entries -/

/-- The sum of sizes. -/
def total (sizes : List Nat) : Nat := sizes.foldr (· + ·) 0

/-- The size of the names and values of entries. -/
def size (entries : List (String × String)) : Nat :=
  total (entries.map fun e => e.1.utf8ByteSize + e.2.utf8ByteSize)

@[simp] theorem size_cons (e : String × String) (rest : List (String × String)) :
    size (e :: rest) = e.1.utf8ByteSize + e.2.utf8ByteSize + size rest := rfl

/-- A value that is held is part of the size. -/
theorem le_size_of_lookup (h : entries.lookup name = some text) :
    text.utf8ByteSize ≤ size entries := by
  -- On the entries: the name is the first one's, or it is found behind.
  induction entries with
  | nil => cases h
  | cons e rest ih =>
    obtain ⟨key, value⟩ := e
    rw [lookup_cons] at h
    rw [size_cons]
    split at h
    · cases h
      exact Nat.le_trans (Nat.le_add_left _ _) (Nat.le_add_right _ _)
    · exact Nat.le_trans (ih h) (Nat.le_add_left _ _)

/-- A new name comes with its value. -/
theorem size_setEntry_of_none (h : entries.lookup name = none) :
    size (setEntry name text entries) = size entries + name.utf8ByteSize + text.utf8ByteSize := by
  induction entries with
  | nil => simp [setEntry, size, total]
  | cons e rest ih =>
    obtain ⟨key, value⟩ := e
    rw [lookup_cons] at h
    split at h
    · cases h
    · rename_i hk
      rw [setEntry, if_neg hk, size_cons, size_cons, ih h]
      omega

/-- The value of a name that there is takes the place of the old one. -/
theorem size_setEntry_of_some (h : entries.lookup name = some old) :
    size (setEntry name text entries) = size entries - old.utf8ByteSize + text.utf8ByteSize := by
  induction entries with
  | nil => cases h
  | cons e rest ih =>
    obtain ⟨key, value⟩ := e
    rw [lookup_cons] at h
    split at h
    · rename_i hk
      cases h
      subst hk
      rw [setEntry, if_pos rfl, size_cons, size_cons]
      dsimp only
      omega
    · rename_i hk
      have hle := le_size_of_lookup h
      rw [setEntry, if_neg hk, size_cons, size_cons, ih h]
      omega

/-- A name that is set twice has the second value. -/
theorem setEntry_setEntry (text text' : String) :
    setEntry name text' (setEntry name text entries) = setEntry name text' entries := by
  induction entries with
  | nil => simp [setEntry]
  | cons e rest ih =>
    obtain ⟨key, value⟩ := e
    by_cases hk : name = key
    · simp [setEntry, hk]
    · simp [setEntry, hk, ih]

end Overlay

/-! ### Writes within the budgets -/

/-- Entries that are within the budgets. -/
structure Limits.Admits (limits : Limits) (entries : List (String × String)) : Prop where
  bytes : Overlay.size entries ≤ limits.maxVariableBytes
  names : entries.length ≤ limits.maxVariables

/-- The names of an overlay agree with its values, the size that is kept along with them is that of
both, and they are within the budgets. -/
structure Overlay.Balanced (limits : Limits) (o : Overlay) : Prop where
  coherent : o.Coherent
  bytes : o.bytes = size o.mutations
  admits : limits.Admits o.mutations

namespace Overlay

variable {name text : String} {limits : Limits} {o o' : Overlay}

/-- An overlay to which nothing has been written is in balance. -/
theorem Balanced.empty : Balanced limits {} :=
  ⟨.empty, rfl, Nat.zero_le _, Nat.zero_le _⟩

/-- The size that is reckoned with is that of the entries after the write. -/
theorem Balanced.bytesAfter (h : o.Balanced limits) (name text : String) :
    o.bytesAfter name text = size (setEntry name text o.mutations) := by
  have hlookup := h.coherent.lookup_mutations name
  unfold Overlay.bytesAfter
  rw [h.bytes]
  cases hget : o.get? name with
  | none => exact (size_setEntry_of_none (hlookup.trans hget)).symm
  | some old => exact (size_setEntry_of_some (hlookup.trans hget)).symm

/-- There are too many names after a write exactly if the name is new and there are as many as there
may be. -/
theorem Balanced.length_le_iff (h : o.Balanced limits) (name text : String) :
    (setEntry name text o.mutations).length ≤ limits.maxVariables ↔
      ¬((o.get? name).isNone ∧ limits.maxVariables ≤ o.written.length) := by
  have hwritten : o.written.length = o.mutations.length := by
    rw [← h.coherent.names_mutations, List.length_map]
  have hlength : (setEntry name text o.mutations).length =
      if name ∈ o.written then o.written.length else o.written.length + 1 := by
    rw [← List.length_map Prod.fst, keys_setEntry, h.coherent.names_mutations]
    split <;> simp
  have hle : o.written.length ≤ limits.maxVariables := hwritten ▸ h.admits.names
  rw [hlength]
  -- A name that is written already adds no entry; a new one needs room for it.
  by_cases hmem : name ∈ o.written
  · rw [if_pos hmem]
    refine iff_of_true hle fun hnew => ?_
    have hsome := (h.coherent.mem_iff name).1 hmem
    rw [Option.isNone_iff_eq_none.1 hnew.1] at hsome
    cases hsome
  · have hnone : (o.get? name).isNone := by simpa [h.coherent.mem_iff] using hmem
    rw [if_neg hmem, Nat.succ_le_iff, ← Nat.not_le]
    exact not_congr ⟨fun hfull => ⟨hnone, hfull⟩, And.right⟩

/-- A write succeeds exactly if the entries that it leads to are within the budgets. -/
theorem Balanced.write_eq_ok_iff (h : o.Balanced limits) :
    o.write limits name text = .ok o' ↔
      limits.Admits (setEntry name text o.mutations) ∧ o' = o.set name text := by
  unfold write
  rw [h.bytesAfter]
  -- Both budgets are looked at one after the other, as in `write`.
  by_cases hbytes : limits.maxVariableBytes < size (setEntry name text o.mutations)
  · rw [if_pos hbytes]
    exact ⟨nofun, fun h' => absurd h'.1.bytes (Nat.not_le.2 hbytes)⟩
  by_cases hnames : (o.get? name).isNone ∧ limits.maxVariables ≤ o.written.length
  · rw [if_neg hbytes, if_pos hnames]
    exact ⟨nofun, fun h' => absurd hnames ((h.length_le_iff name text).1 h'.1.names)⟩
  · rw [if_neg hbytes, if_neg hnames]
    have hadmits : limits.Admits (setEntry name text o.mutations) :=
      ⟨Nat.not_lt.1 hbytes, (h.length_le_iff name text).2 hnames⟩
    constructor
    · intro h'
      cases h'
      exact ⟨hadmits, rfl⟩
    · rintro ⟨-, rfl⟩
      rfl

/-- A write that succeeds leaves the account in balance. -/
theorem Balanced.write (h : o.Balanced limits) (hwrite : o.write limits name text = .ok o') :
    o'.Balanced limits := by
  obtain ⟨hadmits, rfl⟩ := h.write_eq_ok_iff.1 hwrite
  have hmutations := h.coherent.mutations_write hwrite
  refine ⟨h.coherent.write hwrite, ?_, ?_⟩
  · rw [hmutations]
    exact h.bytesAfter name text
  · rw [hmutations]
    exact hadmits

end Overlay

/-- A variable may be written again and again, if the entries that each write alone would lead to
are within the budgets. -/
theorem Eval.writes_succeed {c : Context} {m : Machine} (h : m.overlay.Balanced c.limits)
    {name : String} {values : List Value}
    (hvalues : ∀ value ∈ values,
      c.limits.Admits (Overlay.setEntry name value.variableText m.overlay.mutations)) :
    ∃ m', (values.forM (writeVariable name) : Eval Unit) c m = .ok ((), m') := by
  induction values generalizing m with
  | nil => exact ⟨m, rfl⟩
  | cons value rest ih =>
    obtain ⟨hvalue, hrest⟩ := List.forall_mem_cons.1 hvalues
    obtain ⟨o, ho⟩ : ∃ o, m.overlay.write c.limits name value.variableText = .ok o :=
      ⟨_, h.write_eq_ok_iff.2 ⟨hvalue, rfl⟩⟩
    have hwrite :
        (writeVariable name value : Eval Unit) c m = .ok ((), { m with overlay := o }) := by
      show store name value.variableText c m = _
      unfold store
      rw [ho]
      rfl
    -- The next write replaces this one, so it leads to the same entries as it would alone.
    obtain ⟨m', hm'⟩ := ih (m := { m with overlay := o }) (h.write ho) fun value' hvalue' => by
      show c.limits.Admits (Overlay.setEntry name value'.variableText o.mutations)
      rw [h.coherent.mutations_write ho, Overlay.setEntry_setEntry]
      exact hrest value' hvalue'
    refine ⟨m', ?_⟩
    show ((writeVariable name value : Eval Unit) >>=
      fun _ => rest.forM (writeVariable name)) c m = _
    rw [bind_apply, hwrite]
    exact hm'

/-! ### What the moments tell -/

/-- The name that an act writes to. -/
def Act.writtenName? : Act → Option String
  | .wrote name _ => some name
  | _ => none

/-- The names that were written, in the order of the first writes. -/
def writtenNames (moments : List Moment) : List String :=
  (moments.filterMap fun moment => moment.act.writtenName?).eraseDups

/-- The machine behind the last moment; at first it has done nothing. -/
def machineAfter (moments : List Moment) : Machine :=
  (moments.getLast?.map Moment.machine).getD {}

/-- A moment that writes a name for the first time adds it at the end. -/
theorem writtenNames_concat (moments : List Moment) (moment : Moment) :
    writtenNames (moments ++ [moment]) =
      match moment.act.writtenName? with
      | none => writtenNames moments
      | some name =>
        if name ∈ writtenNames moments then writtenNames moments
        else writtenNames moments ++ [name] := by
  unfold writtenNames
  rw [List.filterMap_append, List.filterMap_cons, List.filterMap_nil, List.eraseDups_append]
  generalize moments.filterMap (fun moment => moment.act.writtenName?) = names
  cases moment.act.writtenName? with
  | none => simp [List.removeAll]
  | some name =>
    by_cases hname : name ∈ names <;> simp [List.removeAll, hname, List.eraseDups_cons]

/-- The account of an overlay after some moments of a run: it lists every name that was written, in
the order of the first writes, holds the text that was written last, and hands out these entries;
the size is that of the names with these texts; and the budgets are kept. -/
structure Overlay.Accounts (limits : Limits) (moments : List Moment) (o : Overlay) : Prop where
  names : o.written = writtenNames moments
  nodup : (writtenNames moments).Nodup
  latest (name : String) : o.get? name = lastWrite? name moments
  mutations : o.mutations.map Prod.fst = writtenNames moments ∧
    ∀ name, o.mutations.lookup name = lastWrite? name moments
  bytes : o.bytes = Overlay.total ((writtenNames moments).map fun name =>
    name.utf8ByteSize + (lastWrite? name moments).elim 0 String.utf8ByteSize)
  /-- A value that is replaced can be taken away from the size. -/
  covers (name text : String) : o.get? name = some text → text.utf8ByteSize ≤ o.bytes
  bytes_le : o.bytes ≤ limits.maxVariableBytes
  names_le : (writtenNames moments).length ≤ limits.maxVariables

/-- An overlay in balance that has the names and the texts of some moments accounts for them. -/
theorem Overlay.Balanced.accounts {limits : Limits} {moments : List Moment} {o : Overlay}
    (h : o.Balanced limits) (hnames : o.written = writtenNames moments)
    (hlatest : ∀ name, o.get? name = lastWrite? name moments) : o.Accounts limits moments where
  names := hnames
  nodup := hnames ▸ h.coherent.nodup
  latest := hlatest
  mutations := by
    refine ⟨h.coherent.names_mutations.trans hnames, fun name => ?_⟩
    rw [h.coherent.lookup_mutations, hlatest]
  bytes := by
    rw [h.bytes, size, ← hnames, ← h.coherent.names_mutations, List.map_map]
    congr 1
    -- Each entry holds the latest text of its name, so summing entries is summing latest writes.
    refine List.map_congr_left fun e he => ?_
    have hlast : lastWrite? e.1 moments = some e.2 := by
      rw [← hlatest, ← h.coherent.lookup_mutations]
      exact lookup_of_mem h.coherent.nodup_mutations he
    simp [hlast]
  covers name text hget := by
    rw [h.bytes]
    exact le_size_of_lookup ((h.coherent.lookup_mutations name).trans hget)
  bytes_le := h.bytes ▸ h.admits.bytes
  names_le := by
    rw [← hnames, ← h.coherent.names_mutations, List.length_map]
    exact h.admits.names

/-! ### Along a course -/

namespace Course

variable {pages : Prop} {c : Context} {m : Machine} {log : List Moment}

/-- The last moment of the log has the machine. -/
theorem machine_eq (h : Course pages c m log) : machineAfter log = m := by
  cases h with
  | start => rfl
  | move _ _ => simp [machineAfter]

/-- What comes before some moment of a course is a course. -/
theorem of_prefix (h : Course pages c m log) {before : List Moment} (hbefore : before <+: log) :
    Course pages c (machineAfter before) before := by
  induction h with
  | start =>
    rw [List.prefix_nil.1 hbefore]
    exact .start
  | move h hm ih =>
    rcases List.prefix_concat_iff.1 hbefore with rfl | hbefore
    · rw [(h.move hm).machine_eq]
      exact h.move hm
    · exact ih hbefore

/-- Along a course the overlay is in balance, and has the names that were written. -/
theorem balanced (h : Course pages c m log) :
    m.overlay.Balanced c.limits ∧ m.overlay.written = writtenNames log := by
  -- On the moments. Only a write changes the overlay, and it adds its own name.
  induction h with
  | start => exact ⟨.empty, rfl⟩
  | move _ hm ih =>
    obtain ⟨hbalanced, hnames⟩ := ih
    rw [writtenNames_concat]
    cases hm with
    | @wrote name text o ho =>
      refine ⟨hbalanced.write ho, ?_⟩
      show o.written = if name ∈ writtenNames _ then writtenNames _ else writtenNames _ ++ [name]
      rw [hbalanced.coherent.written_write ho, hnames]
    | _ => exact ⟨hbalanced, hnames⟩

/-- At each point of a run its overlay accounts for the writes so far. -/
theorem accounts (h : Course pages c m log) : m.overlay.Accounts c.limits log :=
  h.balanced.1.accounts h.balanced.2 h.reads.1

end Course

/-- At every point of a run, also of one that fails later on, the overlay accounts for what was
written so far, and a variable can be written any number of times as long as what each of the values
would lead to is within the budgets. The outcome of a run that succeeds sets exactly the variables
that were written, in the order of the first writes, to what was written last. -/
theorem writes_are_accounted_for (program : Program) (c : Context) :
    (program.watch c).1 = program.run c ∧
    (∀ moments, moments <+: (program.watch c).2 →
      (machineAfter moments).overlay.Accounts c.limits moments ∧
      ∀ name (values : List Value),
        (∀ value ∈ values, c.limits.Admits
          (Overlay.setEntry name value.variableText (machineAfter moments).overlay.mutations)) →
        ∃ m, (values.forM (writeVariable name) : Eval Unit) c (machineAfter moments) =
          .ok ((), m)) ∧
    ∀ outcome, program.run c = .ok outcome →
      outcome.mutations.map Prod.fst = writtenNames (program.watch c).2 ∧
      ∀ name, outcome.mutations.lookup name = lastWrite? name (program.watch c).2 := by
  obtain ⟨m, hcourse, hend⟩ := program.watch_course (fun _ => trivial : c.mode = .client → True)
  refine ⟨program.watch_outcome c, fun moments hmoments => ?_, fun outcome houtcome => ?_⟩
  -- A prefix of the log is a log of the run up to there.
  · have hpoint := hcourse.of_prefix hmoments
    exact ⟨hpoint.accounts, fun name values hvalues =>
      Eval.writes_succeed hpoint.balanced.1 hvalues⟩
  · rw [← program.watch_outcome] at houtcome
    obtain ⟨signal, rfl⟩ := hend outcome houtcome
    exact hcourse.accounts.mutations

end Dialogue.Script
