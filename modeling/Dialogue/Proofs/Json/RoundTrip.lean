import Dialogue.Json.Reader
import Dialogue.Json.Writer
import Dialogue.Proofs.Json.Tokens

namespace Dialogue.Json

/-!
# Values read back

What is written for a value without floats, nested no deeper than the reader allows, is read back as
the value, with every integer read back as `rereadInt` tells.

* `reread?`: what a value is read back as, if at all.
* `isWhole`, `depth`: the values that this tells something about.
* `Reader.run_tokens`: the reader makes the value of its tokens.
* `toOption_read_write`: reading what was written.
* `Fits`, `Plain`: values within the limits of the reader, and those of them without floats.
-/

mutual

/-- What a value is read back as, if at all. What is told of it here holds of whole values. -/
def reread? : Json → Option Json
  | .null => some .null
  | .bool b => some (.bool b)
  | .num (.int n) => (rereadInt n).map .num
  | .num (.float bits) => some (.num (.float bits))
  | .str s => some (.str s)
  | .arr items => (rereadItems? items).map .arr
  | .obj members => (rereadMembers? members).map .obj

/-- What the items of an array are read back as. -/
def rereadItems? : List Json → Option (List Json)
  | [] => some []
  | item :: rest => do
    let item ← reread? item
    let rest ← rereadItems? rest
    return item :: rest

/-- What the members of an object are read back as. -/
def rereadMembers? : List (String × Json) → Option (List (String × Json))
  | [] => some []
  | (name, value) :: rest => do
    let value ← reread? value
    let rest ← rereadMembers? rest
    return (name, value) :: rest

end

mutual

/-- Whether all numbers of a value are integers. -/
def isWhole : Json → Bool
  | .num (.float _) => false
  | .arr items => areWhole items
  | .obj members => membersWhole members
  | _ => true

/-- Whether all numbers of the items are integers. -/
def areWhole : List Json → Bool
  | [] => true
  | item :: rest => isWhole item && areWhole rest

/-- Whether all numbers of the members are integers. -/
def membersWhole : List (String × Json) → Bool
  | [] => true
  | (_, value) :: rest => isWhole value && membersWhole rest

end

/-- The numbers of the items are integers if those of each item are. -/
theorem areWhole_iff {items : List Json} : areWhole items ↔ ∀ item ∈ items, isWhole item := by
  induction items with
  | nil => simp [areWhole]
  | cons item rest ih => simp [areWhole, ih]

/-- The numbers of the members are integers if those of each member are. -/
theorem membersWhole_iff {members : List (String × Json)} :
    membersWhole members ↔ ∀ m ∈ members, isWhole m.2 := by
  induction members with
  | nil => simp [membersWhole]
  | cons m rest ih => simp [membersWhole, ih]

mutual

/-- How deep the containers of a value are nested. -/
def depth : Json → Nat
  | .arr items => itemsDepth items + 1
  | .obj members => membersDepth members + 1
  | _ => 0

/-- How deep the containers of the items are nested. -/
def itemsDepth : List Json → Nat
  | [] => 0
  | item :: rest => max (depth item) (itemsDepth rest)

/-- How deep the containers of the members are nested. -/
def membersDepth : List (String × Json) → Nat
  | [] => 0
  | (_, value) :: rest => max (depth value) (membersDepth rest)

end

/-! ### Tokens -/

mutual

/-- The tokens of a value are read back as the tokens of what the value is read back as. -/
theorem mapM_tokens (j : Json) : (tokens j).mapM Token.reread? = (reread? j).map tokens := by
  match j with
  | .null => rfl
  | .bool b => rfl
  | .num (.int n) =>
    show [Token.num (.int n)].mapM Token.reread? = _
    rw [reread?]
    cases h : rereadInt n <;> simp [Token.reread?, h, tokens]
  | .num (.float bits) => rfl
  | .str s => rfl
  | .arr items =>
    rw [tokens, reread?, List.mapM_cons, List.mapM_append, mapM_itemTokens items]
    cases rereadItems? items with
    | none => rfl
    | some items => simp [Token.reread?, tokens]
  | .obj members =>
    rw [tokens, reread?, List.mapM_cons, List.mapM_append, mapM_memberTokens members]
    cases rereadMembers? members with
    | none => rfl
    | some members => simp [Token.reread?, tokens]

/-- Reading the tokens of items anew reads the items anew. -/
theorem mapM_itemTokens (items : List Json) :
    (itemTokens items).mapM Token.reread? = (rereadItems? items).map itemTokens := by
  match items with
  | [] => rfl
  | [item] =>
    rw [itemTokens, mapM_tokens item]
    cases h : reread? item <;> simp [rereadItems?, h, itemTokens]
  | item :: next :: rest =>
    have hrest := mapM_itemTokens (next :: rest)
    rw [itemTokens.eq_3 _ _ (by simp), List.mapM_append, mapM_tokens item, List.mapM_cons, hrest]
    cases hitem : reread? item with
    | none => simp [rereadItems?, hitem]
    | some item =>
      cases hnext : reread? next with
      | none => simp [rereadItems?, hitem, hnext]
      | some next =>
        cases hmore : rereadItems? rest <;>
          simp [rereadItems?, hitem, hnext, hmore, itemTokens, Token.reread?]

/-- Reading the tokens of members anew reads the members anew. -/
theorem mapM_memberTokens (members : List (String × Json)) :
    (memberTokens members).mapM Token.reread? = (rereadMembers? members).map memberTokens := by
  match members with
  | [] => rfl
  | [(name, value)] =>
    rw [memberTokens, List.mapM_cons, List.mapM_cons, mapM_tokens value]
    cases h : reread? value <;> simp [rereadMembers?, h, memberTokens, Token.reread?]
  | (name, value) :: next :: rest =>
    have hrest := mapM_memberTokens (next :: rest)
    obtain ⟨name', value'⟩ := next
    rw [memberTokens.eq_3 _ _ _ (by simp), List.mapM_cons, List.mapM_cons, List.mapM_append,
      mapM_tokens value, List.mapM_cons, hrest]
    cases hvalue : reread? value with
    | none => simp [rereadMembers?, hvalue, Token.reread?]
    | some value =>
      cases hnext : reread? value' with
      | none => simp [rereadMembers?, hvalue, hnext, Token.reread?]
      | some next =>
        cases hmore : rereadMembers? rest <;>
          simp [rereadMembers?, hvalue, hnext, hmore, memberTokens, Token.reread?]

end

/-- Tokens may stand between two that are no numbers. -/
theorem between_apart {ts : List Token} (before after : Token) (h : ts.IsChain Token.Apart)
    (hbefore : before.isNumber = false) (hafter : after.isNumber = false) :
    (before :: (ts ++ [after])).IsChain Token.Apart := by
  refine List.isChain_cons.2 ⟨fun t _ => ?_, List.isChain_append.2
    ⟨h, List.isChain_singleton after, fun t _ u hu => ?_⟩⟩
  · simp [Token.Apart, hbefore]
  · obtain rfl := Option.some.inj hu
    simp [Token.Apart, hafter]

mutual

/-- No two numbers of a value stand side by side. -/
theorem tokens_apart (j : Json) : (tokens j).IsChain Token.Apart := by
  match j with
  | .null | .bool _ | .num _ | .str _ => exact List.isChain_singleton _
  | .arr items =>
    rw [tokens]
    exact itemTokens_apart items .openArray .closeArray rfl rfl
  | .obj members =>
    rw [tokens]
    exact memberTokens_apart members .openObject .closeObject rfl rfl

/-- Between items stand commas, so no two numbers touch. -/
theorem itemTokens_apart (items : List Json) (before after : Token)
    (hbefore : before.isNumber = false) (hafter : after.isNumber = false) :
    (before :: (itemTokens items ++ [after])).IsChain Token.Apart := by
  match items with
  | [] => simp [itemTokens, Token.Apart, hbefore]
  | [item] =>
    rw [itemTokens]
    exact between_apart before after (tokens_apart item) hbefore hafter
  | item :: next :: rest =>
    have hrest := itemTokens_apart (next :: rest) .comma after rfl hafter
    rw [itemTokens.eq_3 _ _ (by simp), List.append_assoc]
    have hitem := between_apart before .comma (tokens_apart item) hbefore rfl
    exact List.isChain_cons_split.2 ⟨hitem, hrest⟩

/-- Between names and values stand colons. -/
theorem memberTokens_apart (members : List (String × Json)) (before after : Token)
    (hbefore : before.isNumber = false) (hafter : after.isNumber = false) :
    (before :: (memberTokens members ++ [after])).IsChain Token.Apart := by
  match members with
  | [] => simp [memberTokens, Token.Apart, hbefore]
  | [(name, value)] =>
    have hvalue := between_apart .colon after (tokens_apart value) rfl hafter
    rw [memberTokens]
    exact .cons_cons (by simp [Token.Apart, hbefore])
      (.cons_cons (by simp [Token.Apart, Token.isNumber]) hvalue)
  | (name, value) :: next :: rest =>
    have hrest := memberTokens_apart (next :: rest) .comma after rfl hafter
    have hvalue := between_apart .colon .comma (tokens_apart value) rfl rfl
    rw [memberTokens.eq_3 _ _ _ (by simp), List.cons_append, List.cons_append, List.append_assoc]
    exact .cons_cons (by simp [Token.Apart, hbefore])
      (.cons_cons (by simp [Token.Apart, Token.isNumber])
        (List.isChain_cons_split.2 ⟨hvalue, hrest⟩))

end

mutual

/-- A whole value is written without floats. -/
theorem isFloat_of_mem_tokens (j : Json) (h : j.isWhole) : ∀ t ∈ tokens j, t.isFloat = false := by
  match j with
  | .null | .bool _ | .num (.int _) | .str _ => simp [tokens, Token.isFloat]
  | .num (.float _) => cases h
  | .arr items =>
    have hitems := isFloat_of_mem_itemTokens items h
    simpa [tokens, Token.isFloat, or_imp, forall_and] using hitems
  | .obj members =>
    have hmembers := isFloat_of_mem_memberTokens members h
    simpa [tokens, Token.isFloat, or_imp, forall_and] using hmembers

/-- Items without fractions have no token that is one. -/
theorem isFloat_of_mem_itemTokens (items : List Json) (h : areWhole items) :
    ∀ t ∈ itemTokens items, t.isFloat = false := by
  match items with
  | [] => simp [itemTokens]
  | [item] =>
    rw [areWhole, Bool.and_eq_true] at h
    exact isFloat_of_mem_tokens item h.1
  | item :: next :: rest =>
    rw [areWhole, Bool.and_eq_true] at h
    have hitem := isFloat_of_mem_tokens item h.1
    have hrest := isFloat_of_mem_itemTokens (next :: rest) h.2
    rw [itemTokens.eq_3 _ _ (by simp)]
    simpa [Token.isFloat, or_imp, forall_and] using ⟨hitem, hrest⟩

/-- Members without fractions have none. -/
theorem isFloat_of_mem_memberTokens (members : List (String × Json)) (h : membersWhole members) :
    ∀ t ∈ memberTokens members, t.isFloat = false := by
  match members with
  | [] => simp [memberTokens]
  | [(name, value)] =>
    rw [membersWhole, Bool.and_eq_true] at h
    have hvalue := isFloat_of_mem_tokens value h.1
    rw [memberTokens]
    simpa [Token.isFloat, or_imp, forall_and] using hvalue
  | (name, value) :: next :: rest =>
    rw [membersWhole, Bool.and_eq_true] at h
    have hvalue := isFloat_of_mem_tokens value h.1
    have hrest := isFloat_of_mem_memberTokens (next :: rest) h.2
    rw [memberTokens.eq_3 _ _ _ (by simp)]
    simpa [Token.isFloat, or_imp, forall_and] using ⟨hvalue, hrest⟩

end

/-! ### The reader -/

mutual

/-- Reading a value back does not nest it deeper. -/
theorem depth_of_reread {j j' : Json} (h : reread? j = some j') : depth j' = depth j := by
  match j with
  | .null | .bool _ | .num (.float _) | .str _ =>
    rw [reread?] at h
    cases h
    rfl
  | .num (.int n) =>
    rw [reread?] at h
    obtain ⟨number, -, rfl⟩ := Option.map_eq_some_iff.1 h
    rfl
  | .arr items =>
    rw [reread?] at h
    obtain ⟨items', hitems, rfl⟩ := Option.map_eq_some_iff.1 h
    rw [depth, depth, itemsDepth_of_reread hitems]
  | .obj members =>
    rw [reread?] at h
    obtain ⟨members', hmembers, rfl⟩ := Option.map_eq_some_iff.1 h
    rw [depth, depth, membersDepth_of_reread hmembers]

/-- Reading items anew keeps their depth. -/
theorem itemsDepth_of_reread {items items' : List Json} (h : rereadItems? items = some items') :
    itemsDepth items' = itemsDepth items := by
  match items with
  | [] =>
    cases h
    rfl
  | item :: rest =>
    rw [rereadItems?] at h
    obtain ⟨item', hitem, h⟩ := Option.bind_eq_some_iff.1 h
    obtain ⟨rest', hrest, h⟩ := Option.bind_eq_some_iff.1 h
    cases h
    rw [itemsDepth, itemsDepth, depth_of_reread hitem, itemsDepth_of_reread hrest]

/-- Reading members anew keeps their depth. -/
theorem membersDepth_of_reread {members members' : List (String × Json)}
    (h : rereadMembers? members = some members') :
    membersDepth members' = membersDepth members := by
  match members with
  | [] =>
    cases h
    rfl
  | (name, value) :: rest =>
    rw [rereadMembers?] at h
    obtain ⟨value', hvalue, h⟩ := Option.bind_eq_some_iff.1 h
    obtain ⟨rest', hrest, h⟩ := Option.bind_eq_some_iff.1 h
    cases h
    rw [membersDepth, membersDepth, depth_of_reread hvalue, membersDepth_of_reread hrest]

end

namespace Reader

/-- Goes on after a token. -/
def Outcome.resume (ending : Option Fault) (r : Reader) (rest : List Token) : Outcome → Result
  | .going next => run ending next rest
  | .done value => .value value rest
  | .failed fault => .broken fault r

variable {ending : Option Fault} {frames : List Frame} {rest : List Token}

/-- A run takes a step and resumes. -/
theorem run_cons (r : Reader) (t : Token) :
    run ending r (t :: rest) = (r.step t).resume ending r rest := by
  rw [run]
  cases r.step t <;> rfl

/-- A complete value is taken in whatever the reader was. -/
theorem resume_complete (value : Json) (r r' : Reader) :
    (complete value frames).resume ending r rest =
      (complete value frames).resume ending r' rest := by
  cases frames with
  | nil => rfl
  | cons frame frames => cases frame <;> rfl

/-- Where a value is expected, any token but the end of an array is read as a value. -/
theorem step_value {expects : Expects} {t : Token} (ht : t ≠ .closeArray)
    (h : expects = .value ∨ expects = .firstItem) :
    step ⟨frames, expects⟩ t = stepValue frames t := by
  rcases h with rfl | rfl <;> cases t <;> first | rfl | exact absurd rfl ht

/-- Where a name is expected, a text is read as one. -/
theorem step_name {expects : Expects} {members : List (String × Json)} {old : Option String}
    (name : String) (h : expects = .name ∨ expects = .firstName) :
    step ⟨.object members old :: frames, expects⟩ (.str name) =
      .going ⟨.object members (some name) :: frames, .colon⟩ := by
  rcases h with rfl | rfl <;> rfl

/-- A list or object may be opened where a level is left. -/
theorem openFrame_of_lt {frame : Frame} {expects : Expects} (h : frames.length < depthLimit) :
    openFrame frame expects frames = .going ⟨frame :: frames, expects⟩ := by
  unfold openFrame
  rw [if_pos h]

-- The open containers and the depth of what is read stay below the limit together.
mutual

/-- The reader makes a value of its tokens. -/
theorem run_tokens (j : Json) (frames : List Frame) (expects : Expects) (rest : List Token)
    (r : Reader) (hexpects : expects = .value ∨ expects = .firstItem)
    (hdepth : frames.length + depth j ≤ depthLimit) :
    run ending ⟨frames, expects⟩ (tokens j ++ rest) = (complete j frames).resume ending r rest := by
  -- What has no parts is complete after its token; a list or object opens a frame for its parts.
  match j with
  | .null | .bool _ | .num _ | .str _ =>
    rw [tokens, List.singleton_append, run_cons, step_value (by simp) hexpects]
    exact resume_complete _ _ _
  | .arr items =>
    rw [depth] at hdepth
    rw [tokens, List.cons_append, List.append_assoc, run_cons, step_value (by simp) hexpects,
      stepValue, openFrame_of_lt (by omega), List.singleton_append, Outcome.resume]
    match items with
    | [] =>
      rw [itemTokens, List.nil_append, run_cons]
      exact resume_complete (.arr []) _ _
    | item :: more =>
      exact run_items (item :: more) [] frames .firstItem rest r (.inr rfl) (by simp) (by omega)
  | .obj members =>
    rw [depth] at hdepth
    rw [tokens, List.cons_append, List.append_assoc, run_cons, step_value (by simp) hexpects,
      stepValue, openFrame_of_lt (by omega), List.singleton_append, Outcome.resume]
    match members with
    | [] =>
      rw [memberTokens, List.nil_append, run_cons]
      exact resume_complete (.obj []) _ _
    | member :: more =>
      exact run_members (member :: more) [] none frames .firstName rest r (.inr rfl) (by simp)
        (by omega)

/-- The reader comes to the list behind the tokens of its items. -/
theorem run_items (items done : List Json) (frames : List Frame) (expects : Expects)
    (rest : List Token) (r : Reader) (hexpects : expects = .value ∨ expects = .firstItem)
    (hne : items ≠ []) (hdepth : frames.length + 1 + itemsDepth items ≤ depthLimit) :
    run ending ⟨.array done :: frames, expects⟩ (itemTokens items ++ .closeArray :: rest) =
      (complete (.arr (done.reverse ++ items)) frames).resume ending r rest := by
  match items with
  | [] => exact absurd rfl hne
  | [item] =>
    rw [itemsDepth] at hdepth
    rw [itemTokens, run_tokens item (.array done :: frames) expects _ r hexpects
      (by rw [List.length_cons]; omega), complete, Outcome.resume, run_cons]
    show (complete (.arr (item :: done).reverse) frames).resume ending _ rest = _
    rw [List.reverse_cons]
    exact resume_complete _ _ _
  | item :: next :: more =>
    -- The comma after the item leads back to where a value is expected, with one item more done.
    rw [itemsDepth] at hdepth
    rw [itemTokens.eq_3 _ _ (by simp), List.append_assoc,
      run_tokens item (.array done :: frames) expects _ r hexpects
        (by rw [List.length_cons]; omega), complete, Outcome.resume, List.cons_append, run_cons]
    show run ending ⟨.array (item :: done) :: frames, .value⟩ _ = _
    rw [run_items (next :: more) (item :: done) frames .value rest r (.inl rfl) (by simp)
      (by omega), List.reverse_cons, List.append_assoc, List.singleton_append]

/-- The reader comes to the object behind the tokens of its members. -/
theorem run_members (members done : List (String × Json)) (old : Option String)
    (frames : List Frame) (expects : Expects) (rest : List Token) (r : Reader)
    (hexpects : expects = .name ∨ expects = .firstName) (hne : members ≠ [])
    (hdepth : frames.length + 1 + membersDepth members ≤ depthLimit) :
    run ending ⟨.object done old :: frames, expects⟩
        (memberTokens members ++ .closeObject :: rest) =
      (complete (.obj (done.reverse ++ members)) frames).resume ending r rest := by
  match members with
  | [] => exact absurd rfl hne
  | [(name, value)] =>
    rw [membersDepth] at hdepth
    rw [memberTokens, List.cons_append, List.cons_append, run_cons, step_name name hexpects,
      Outcome.resume, run_cons]
    show run ending ⟨.object done (some name) :: frames, .value⟩ _ = _
    rw [run_tokens value _ .value _ r (.inl rfl) (by rw [List.length_cons]; omega), complete,
      Outcome.resume, run_cons]
    show (complete (.obj ((name, value) :: done).reverse) frames).resume ending _ rest = _
    rw [List.reverse_cons]
    exact resume_complete _ _ _
  | (name, value) :: next :: more =>
    -- The comma after the member leads back to where a name is expected.
    rw [membersDepth] at hdepth
    rw [memberTokens.eq_3 _ _ _ (by simp), List.cons_append, List.cons_append, run_cons,
      step_name name hexpects, Outcome.resume, run_cons]
    show run ending ⟨.object done (some name) :: frames, .value⟩ _ = _
    rw [List.append_assoc, run_tokens value _ .value _ r (.inl rfl)
      (by rw [List.length_cons]; omega), complete, Outcome.resume, List.cons_append, run_cons]
    show run ending ⟨.object ((name, value) :: done) none :: frames, .name⟩ _ = _
    rw [run_members (next :: more) ((name, value) :: done) none frames .name rest r (.inl rfl)
      (by simp) (by omega), List.reverse_cons, List.append_assoc, List.singleton_append]

end

end Reader

/-! ### Texts -/

/-- What is read back from the text of a whole value that is not nested too deep. -/
theorem toOption_read_write (j : Json) (hwhole : j.isWhole) (hdepth : j.depth ≤ Reader.depthLimit) :
    (read j.write).toOption = j.reread? := by
  have hscan := Token.scanFrom_texts [] (tokens_apart j) (isFloat_of_mem_tokens j hwhole)
  rw [mapM_tokens] at hscan
  simp only [read, write, Token.scan, String.toList_ofList]
  cases hread : reread? j with
  | none =>
    -- The scanner stops at the number that is not read back, so the reader does not get to an end.
    rw [hread] at hscan
    obtain ⟨ts, fault, hts⟩ := hscan
    rw [hts]
    dsimp only
    split
    · rename_i hending
      cases hending
    · rfl
    · rfl
    · rfl
  | some j' =>
    rw [hread] at hscan
    have hts : Token.scanFrom [] ((tokens j).flatMap Token.text) = (tokens j', none) := hscan
    have hrun : Reader.run none {} (tokens j' ++ []) = .value j' [] :=
      Reader.run_tokens j' [] .value [] {} (.inl rfl)
        (by rw [depth_of_reread hread, List.length_nil]; omega)
    rw [List.append_nil] at hrun
    rw [hts]
    dsimp only
    rw [hrun]
    rfl

/-! ### Plain values -/

/-- A value that is nested at most so deep, and whose integers are read back as they are. -/
structure Fits (room : Nat) (j : Json) : Prop where
  depth : j.depth ≤ room
  reread : j.reread? = some j

namespace Fits

variable {room : Nat} {j : Json} {items : List Json} {members : List (String × Json)}

/-- What fits stays so with more room. -/
theorem mono {room' : Nat} (h : Fits room j) (hroom : room ≤ room') : Fits room' j :=
  ⟨Nat.le_trans h.depth hroom, h.reread⟩

/-- Items fit together if each of them does. -/
theorem items_iff : itemsDepth items ≤ room ∧ rereadItems? items = some items ↔
    ∀ item ∈ items, Fits room item := by
  induction items with
  | nil => simp [itemsDepth, rereadItems?]
  | cons item rest ih =>
    have hreread : rereadItems? (item :: rest) = some (item :: rest) ↔
        item.reread? = some item ∧ rereadItems? rest = some rest := by
      simp [rereadItems?, Option.bind_eq_some_iff]
    rw [List.forall_mem_cons, ← ih, itemsDepth, Nat.max_le, hreread]
    exact ⟨fun ⟨hdepth, hreread⟩ => ⟨⟨hdepth.1, hreread.1⟩, hdepth.2, hreread.2⟩,
      fun ⟨hitem, hrest⟩ => ⟨⟨hitem.depth, hrest.1⟩, hitem.reread, hrest.2⟩⟩

/-- So do members. -/
theorem members_iff : membersDepth members ≤ room ∧ rereadMembers? members = some members ↔
    ∀ m ∈ members, Fits room m.2 := by
  induction members with
  | nil => simp [membersDepth, rereadMembers?]
  | cons m rest ih =>
    obtain ⟨name, value⟩ := m
    have hreread : rereadMembers? ((name, value) :: rest) = some ((name, value) :: rest) ↔
        value.reread? = some value ∧ rereadMembers? rest = some rest := by
      simp [rereadMembers?, Option.bind_eq_some_iff]
    rw [List.forall_mem_cons, ← ih, membersDepth, Nat.max_le, hreread]
    exact ⟨fun ⟨hdepth, hreread⟩ => ⟨⟨hdepth.1, hreread.1⟩, hdepth.2, hreread.2⟩,
      fun ⟨hvalue, hrest⟩ => ⟨⟨hvalue.depth, hrest.1⟩, hvalue.reread, hrest.2⟩⟩

/-- A list fits if its items fit into one level less. -/
theorem arr_iff : Fits (room + 1) (.arr items) ↔ ∀ item ∈ items, Fits room item := by
  rw [← items_iff]
  refine ⟨fun h => ⟨Nat.le_of_succ_le_succ h.depth, ?_⟩, fun h => ⟨Nat.succ_le_succ h.1, ?_⟩⟩
  · simpa [reread?] using h.reread
  · simpa [reread?] using h.2

/-- An object fits if its members fit into one level less. -/
theorem obj_iff : Fits (room + 1) (.obj members) ↔ ∀ m ∈ members, Fits room m.2 := by
  rw [← members_iff]
  refine ⟨fun h => ⟨Nat.le_of_succ_le_succ h.depth, ?_⟩, fun h => ⟨Nat.succ_le_succ h.1, ?_⟩⟩
  · simpa [reread?] using h.reread
  · simpa [reread?] using h.2

end Fits

/-- A value that is read back as it is, nested at most so deep. -/
structure Plain (room : Nat) (j : Json) : Prop where
  whole : j.isWhole
  depth : j.depth ≤ room
  reread : j.reread? = some j

namespace Plain

variable {room : Nat}

/-- Null is plain. -/
theorem null : Plain room .null := ⟨rfl, Nat.zero_le room, rfl⟩

/-- Texts are plain. -/
theorem str (s : String) : Plain room (.str s) := ⟨rfl, Nat.zero_le room, rfl⟩

/-- Truth values are plain. -/
theorem bool (b : Bool) : Plain room (.bool b) := ⟨rfl, Nat.zero_le room, rfl⟩

/-- Integers are plain if they fit into 64 bits. -/
theorem int {n : Int} (hleast : Decimal.leastInteger ≤ n) (hmost : n ≤ Decimal.greatestWord) :
    Plain room (.int n) where
  whole := rfl
  depth := Nat.zero_le room
  reread := by
    show (rereadInt n).map Json.num = some (.num (.int n))
    rw [rereadInt_inRange hleast hmost]
    rfl

/-- A list of plain items is plain with one level more. -/
theorem arr {items : List Json} (h : ∀ item ∈ items, Plain room item) :
    Plain (room + 1) (.arr items) := by
  have hfits : Fits (room + 1) (.arr items) :=
    Fits.arr_iff.2 fun item hitem => ⟨(h item hitem).depth, (h item hitem).reread⟩
  exact ⟨areWhole_iff.2 fun item hitem => (h item hitem).whole, hfits.depth, hfits.reread⟩

/-- So is an object with plain members. -/
theorem obj {members : List (String × Json)} (h : ∀ m ∈ members, Plain room m.2) :
    Plain (room + 1) (.obj members) := by
  have hfits : Fits (room + 1) (.obj members) :=
    Fits.obj_iff.2 fun m hm => ⟨(h m hm).depth, (h m hm).reread⟩
  exact ⟨membersWhole_iff.2 fun m hm => (h m hm).whole, hfits.depth, hfits.reread⟩

/-- What is plain stays so with more room. -/
theorem mono {room' : Nat} {j : Json} (h : Plain room j) (hroom : room ≤ room') : Plain room' j :=
  ⟨h.whole, Nat.le_trans h.depth hroom, h.reread⟩

end Plain

end Dialogue.Json
