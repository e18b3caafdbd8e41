import Dialogue.Text.Template
import Mathlib.Data.List.Basic
import Mathlib.Data.List.TakeWhile

namespace Dialogue.Text

/-!
# What interpolation replaces

A token occurs where doubled braces stand around a name of word characters, wherever that is in the
text: behind a third brace, or inside braces that were opened before and never closed. No two
tokens overlap, so there is one way to divide a text into characters and the tokens that occur in
it. The parts of a text divide it in this way, and interpolation puts values where the tokens were.

* `Occurs`: a token of a name occurs at a place of the text.
* `Occurs.eq_or_apart`: tokens that occur are the same, or stand apart.
* `Divides`: the text is divided into characters and the tokens that occur in it.
* `divides_pieces`, `Divides.unique`: the parts of a text divide it, and nothing else does.
* `interpolate_replaces_tokens`: interpolation replaces the tokens that occur, and nothing else.
-/

variable {cs rest name m n : List Char} {i j : Nat} {p : Piece} {ps qs : List Piece}

/-! ### Tokens at the head of a text -/

theorem not_isWord_open : Unicode.isWord '\x7b' = false := by decide

theorem not_isWord_close : Unicode.isWord '\x7d' = false := by decide

namespace Template

/-- There is a token at the head of a text exactly where the text starts with one as it is
written. -/
theorem token?_eq_some_iff : token? cs = some (name, rest) ↔
    name ≠ [] ∧ (∀ c ∈ name, Unicode.isWord c = true) ∧
      cs = (Piece.token name).source ++ rest := by
  constructor
  · intro h
    have hcs := eq_of_token? h
    unfold token? at h
    split at h
    case h_2 => cases h
    case h_1 tail =>
      split at h
      case h_1 => cases h
      case h_3 => cases h
      case h_2 hne =>
        simp only [Option.some.injEq, Prod.mk.injEq] at h
        obtain ⟨hname, -⟩ := h
        refine ⟨fun hnil => hne (hname.trans hnil), fun c hc => ?_, hcs⟩
        exact List.mem_takeWhile_imp (hname ▸ hc)
  · rintro ⟨hne, hword, rfl⟩
    -- The word characters end before the first closing brace.
    have htake : (name ++ '\x7d' :: '\x7d' :: rest).takeWhile Unicode.isWord = name := by
      rw [List.takeWhile_append_of_pos hword, List.takeWhile_cons, not_isWord_close]
      simp
    have hdrop : (name ++ '\x7d' :: '\x7d' :: rest).dropWhile Unicode.isWord =
        '\x7d' :: '\x7d' :: rest := by
      rw [List.dropWhile_append_of_pos hword, List.dropWhile_cons, not_isWord_close]
      simp
    have hsource : (Piece.token name).source ++ rest =
        '\x7b' :: '\x7b' :: (name ++ '\x7d' :: '\x7d' :: rest) := by
      simp [Piece.source]
    rw [hsource]
    cases name with
    | nil => exact absurd rfl hne
    | cons c name => simp only [token?, htake, hdrop]

/-! ### The parts of a text from left to right -/

/-- A token at the head is one piece. -/
theorem piecesFrom_token (done : List Piece) (h : token? cs = some (name, rest)) :
    piecesFrom done cs = piecesFrom (.token name :: done) rest := by
  rw [piecesFrom]
  split
  · rename_i h'
    obtain ⟨rfl, rfl⟩ := Prod.mk.inj (Option.some.inj (h.symm.trans h'))
    rfl
  · rename_i h'
    cases h.symm.trans h'

/-- A character that begins no token is one piece. -/
theorem piecesFrom_char (done : List Piece) {c : Char} (h : token? (c :: rest) = none) :
    piecesFrom done (c :: rest) = piecesFrom (.char c :: done) rest := by
  rw [piecesFrom]
  split
  · rename_i h'
    cases h.symm.trans h'
  · rfl

@[simp]
theorem piecesFrom_nil (done : List Piece) : piecesFrom done [] = done := by
  rw [piecesFrom]
  rfl

/-- The parts of a text do not depend on those found before it. -/
theorem piecesFrom_append (more done : List Piece) (cs : List Char) :
    piecesFrom (more ++ done) cs = piecesFrom more cs ++ done := by
  induction more, cs using piecesFrom.induct with
  | case1 more cs name rest h ih =>
    rw [piecesFrom_token _ h, piecesFrom_token _ h, ← ih, List.cons_append]
  | case2 more h => simp
  | case3 more c rest h ih =>
    rw [piecesFrom_char _ h, piecesFrom_char _ h, ← ih, List.cons_append]

@[simp]
theorem pieces_nil : pieces [] = [] := by
  simp [pieces]

theorem pieces_token (h : token? cs = some (name, rest)) :
    pieces cs = .token name :: pieces rest := by
  have hrest := piecesFrom_append [] [.token name] rest
  rw [List.nil_append] at hrest
  rw [pieces, pieces, piecesFrom_token _ h, hrest, List.reverse_concat]

theorem pieces_char {c : Char} (h : token? (c :: rest) = none) :
    pieces (c :: rest) = .char c :: pieces rest := by
  have hrest := piecesFrom_append [] [.char c] rest
  rw [List.nil_append] at hrest
  rw [pieces, pieces, piecesFrom_char _ h, hrest, List.reverse_concat]

/-- A text is empty, or it starts with a token, or with a character where no token starts. -/
@[elab_as_elim]
theorem scan_induction {motive : List Char → Prop} (nil : motive [])
    (token : ∀ cs name rest, token? cs = some (name, rest) → motive rest → motive cs)
    (char : ∀ c rest, token? (c :: rest) = none → motive rest → motive (c :: rest))
    (cs : List Char) : motive cs :=
  piecesFrom.induct (fun _ cs => motive cs) (fun _ cs name rest => token cs name rest)
    (fun _ _ => nil) (fun _ c rest => char c rest) [] cs

end Template

/-! ### Where tokens occur -/

/-- A token of a name occurs at a place of a text: the doubled braces stand there around the name,
which is one word character or more. -/
structure Occurs (cs : List Char) (i : Nat) (name : List Char) : Prop where
  stands : '\x7b' :: '\x7b' :: (name ++ ['\x7d', '\x7d']) <+: cs.drop i
  ne_nil : name ≠ []
  isWord : ∀ c ∈ name, Unicode.isWord c = true

/-- A place where a token occurs is one where the rest of the text starts with the token. -/
theorem occurs_iff :
    Occurs cs i name ↔ ∃ rest, Template.token? (cs.drop i) = some (name, rest) := by
  simp only [Template.token?_eq_some_iff]
  constructor
  · intro h
    obtain ⟨rest, hrest⟩ := h.stands
    exact ⟨rest, h.ne_nil, h.isWord, hrest.symm⟩
  · rintro ⟨rest, hne, hword, hrest⟩
    exact ⟨⟨rest, hrest.symm⟩, hne, hword⟩

/-- One token at most occurs at a place. -/
theorem Occurs.name_eq (h : Occurs cs i m) (h' : Occurs cs i n) : m = n := by
  obtain ⟨rest, hm⟩ := occurs_iff.1 h
  obtain ⟨rest', hn⟩ := occurs_iff.1 h'
  exact (Prod.mk.inj (Option.some.inj (hm.symm.trans hn))).1

/-- Nothing occurs in the empty text. -/
@[simp]
theorem not_occurs_nil : ¬ Occurs [] i name := by
  intro h
  simpa using h.stands.length_le

/-- Behind a part of a text a token occurs where it occurs in what follows the part. -/
theorem occurs_append (before after : List Char) :
    Occurs (before ++ after) (before.length + i) name ↔ Occurs after i name := by
  rw [occurs_iff, occurs_iff, List.drop_length_add_append]

/-- An opening brace inside a token is one of the two it starts with. -/
theorem Piece.lt_of_open {k : Nat} (hword : ∀ c ∈ name, Unicode.isWord c = true)
    (h : (Piece.token name).source[k]? = some '\x7b') : k < 2 := by
  by_contra hk
  obtain ⟨k, rfl⟩ : ∃ l, k = l + 2 := ⟨k - 2, by omega⟩
  -- Behind the opening braces stand word characters and closing braces.
  have hmem : '\x7b' ∈ name ++ ['\x7d', '\x7d'] := List.mem_of_getElem? h
  rcases List.mem_append.1 hmem with hname | hclose
  · have := hword _ hname
    rw [not_isWord_open] at this
    cases this
  · simp at hclose

/-- The characters of a token that occurs. -/
theorem Occurs.getElem? (h : Occurs cs i name) {k : Nat}
    (hk : k < (Piece.token name).source.length) : cs[i + k]? = (Piece.token name).source[k]? := by
  obtain ⟨rest, hrest⟩ := h.stands
  rw [← List.getElem?_drop, ← hrest]
  exact List.getElem?_append_left hk

/-- **Tokens do not overlap.** Of two tokens that occur, the one that starts later starts behind the
end of the other. -/
theorem Occurs.eq_or_apart (h : Occurs cs i m) (h' : Occurs cs j n) (hij : i ≤ j) :
    (i = j ∧ m = n) ∨ i + (Piece.token m).source.length ≤ j := by
  by_cases hend : i + (Piece.token m).source.length ≤ j
  · exact .inr hend
  -- Both opening braces of the later token would stand inside the earlier one.
  have hlen : 4 ≤ (Piece.token n).source.length := by simp [Piece.source]
  have hfirst : cs[j]? = some '\x7b' := h'.getElem? (k := 0) (by omega)
  have hsecond : cs[j + 1]? = some '\x7b' := h'.getElem? (k := 1) (by omega)
  obtain ⟨k, rfl⟩ := Nat.exists_eq_add_of_le hij
  rw [h.getElem? (by omega)] at hfirst
  have hk := Piece.lt_of_open h.isWord hfirst
  have hinside : k + 1 < (Piece.token m).source.length := by
    simp [Piece.source]
    omega
  rw [Nat.add_assoc, h.getElem? hinside] at hsecond
  have hk' := Piece.lt_of_open h.isWord hsecond
  obtain rfl : k = 0 := by omega
  exact .inl ⟨rfl, h.name_eq h'⟩

/-- A token at the head of a text is the first one that occurs. -/
theorem occurs_iff_of_token? (h : Template.token? cs = some (name, rest)) :
    Occurs cs i m ↔
      (m = name ∧ i = 0) ∨ ∃ k, i = (Piece.token name).source.length + k ∧ Occurs rest k m := by
  have hfirst : Occurs cs 0 name := occurs_iff.2 ⟨rest, h⟩
  have hcs := Template.eq_of_token? h
  constructor
  · intro hi
    rcases hfirst.eq_or_apart hi (Nat.zero_le i) with ⟨hzero, hname⟩ | hlen
    · exact .inl ⟨hname.symm, hzero.symm⟩
    · obtain ⟨k, hk⟩ := Nat.exists_eq_add_of_le hlen
      rw [Nat.zero_add] at hk
      rw [hcs, hk, occurs_append] at hi
      exact .inr ⟨k, hk, hi⟩
  · rintro (⟨rfl, rfl⟩ | ⟨k, rfl, hk⟩)
    · exact hfirst
    · rw [hcs, occurs_append]
      exact hk

/-- Where no token starts at the head of a text, tokens occur behind its first character only. -/
theorem occurs_iff_of_token?_eq_none {c : Char} (h : Template.token? (c :: rest) = none) :
    Occurs (c :: rest) i m ↔ ∃ k, i = 1 + k ∧ Occurs rest k m := by
  constructor
  · intro hi
    cases i with
    | zero =>
      obtain ⟨after, hafter⟩ := occurs_iff.1 hi
      cases h.symm.trans hafter
    | succ k => exact ⟨k, Nat.add_comm k 1, (occurs_append [c] rest).1 (Nat.add_comm k 1 ▸ hi)⟩
  · rintro ⟨k, rfl, hk⟩
    exact (occurs_append [c] rest).2 hk

/-! ### Dividing a text -/

/-- A token of a name stands among the parts, at a place of the text that they make up. -/
def TokenAt (ps : List Piece) (i : Nat) (name : List Char) : Prop :=
  ∃ before after, ps = before ++ .token name :: after ∧ (before.flatMap Piece.source).length = i

theorem not_tokenAt_nil : ¬ TokenAt [] i name := by
  rintro ⟨before, after, h, -⟩
  simp at h

/-- A token is the first piece, or it stands among the others behind it. -/
theorem tokenAt_cons :
    TokenAt (p :: ps) i name ↔
      (p = .token name ∧ i = 0) ∨ ∃ k, i = p.source.length + k ∧ TokenAt ps k name := by
  constructor
  · rintro ⟨before, after, h, hi⟩
    cases before with
    | nil => exact .inl ⟨(List.cons.inj h).1, by simpa using hi.symm⟩
    | cons first before =>
      obtain ⟨rfl, hps⟩ := List.cons.inj h
      exact .inr ⟨_, by simpa using hi.symm, before, after, hps, rfl⟩
  · rintro (⟨rfl, rfl⟩ | ⟨k, rfl, before, after, rfl, rfl⟩)
    · exact ⟨[], ps, rfl, rfl⟩
    · exact ⟨p :: before, after, rfl, by simp⟩

/-- The parts make up the text, and the tokens among them are those that occur in it, each at its
place. -/
structure Divides (cs : List Char) (ps : List Piece) : Prop where
  source : ps.flatMap Piece.source = cs
  token : ∀ i name, Occurs cs i name ↔ TokenAt ps i name

/-- The parts of a text divide it. -/
theorem divides_pieces (cs : List Char) : Divides cs (Template.pieces cs) := by
  -- On the pieces as the scan takes them off: a token, or a character that begins none.
  induction cs using Template.scan_induction with
  | nil =>
    rw [Template.pieces_nil]
    exact ⟨rfl, fun i name => iff_of_false not_occurs_nil not_tokenAt_nil⟩
  | token cs name rest h ih =>
    rw [Template.pieces_token h]
    refine ⟨?_, fun i m => ?_⟩
    · rw [List.flatMap_cons, ih.source, ← Template.eq_of_token? h]
    · simp only [occurs_iff_of_token? h, tokenAt_cons, ih.token, Piece.token.injEq, eq_comm]
  | char c rest h ih =>
    rw [Template.pieces_char h]
    refine ⟨?_, fun i m => ?_⟩
    · rw [List.flatMap_cons, ih.source]
      rfl
    · simp only [occurs_iff_of_token?_eq_none h, tokenAt_cons, ih.token]
      simp [Piece.source]

theorem Piece.source_length_pos (p : Piece) : 0 < p.source.length := by
  cases p <;> simp [Piece.source]

namespace Divides

/-- A text with parts is not empty. -/
theorem ne_nil (h : Divides cs (p :: ps)) : cs ≠ [] := by
  rintro rfl
  have hsource : p.source ++ ps.flatMap Piece.source = [] := h.source
  have hp := p.source_length_pos
  rw [(List.append_eq_nil_iff.1 hsource).1] at hp
  cases hp

/-- What follows the first part is divided by the parts that follow it. -/
theorem tail (h : Divides cs (p :: ps)) : Divides (ps.flatMap Piece.source) ps := by
  refine ⟨rfl, fun i name => ?_⟩
  have hcs : cs = p.source ++ ps.flatMap Piece.source := by rw [← h.source, List.flatMap_cons]
  have hp := p.source_length_pos
  rw [← occurs_append p.source, ← hcs, h.token, tokenAt_cons]
  constructor
  · rintro (⟨-, hzero⟩ | ⟨k, hk, htoken⟩)
    · omega
    · obtain rfl : i = k := by omega
      exact htoken
  · intro htoken
    exact .inr ⟨i, rfl, htoken⟩

/-- A token that starts a text is its first part. -/
theorem head_of_occurs (h : Divides cs (p :: ps)) (hocc : Occurs cs 0 name) : p = .token name := by
  have hp := p.source_length_pos
  rcases tokenAt_cons.1 ((h.token 0 name).1 hocc) with ⟨htoken, -⟩ | ⟨k, hk, -⟩
  · exact htoken
  · omega

/-- A text that starts with the token of a division has the token there. -/
theorem occurs_head (h : Divides cs (.token name :: ps)) : Occurs cs 0 name :=
  (h.token 0 name).2 (tokenAt_cons.2 (.inl ⟨rfl, rfl⟩))

/-- Two divisions of a text begin with the same piece. -/
theorem head_eq {q : Piece} (hp : Divides cs (p :: ps)) (hq : Divides cs (q :: qs)) : p = q := by
  cases p with
  | token name => exact (hq.head_of_occurs hp.occurs_head).symm
  | char c =>
    cases q with
    | token name => exact hp.head_of_occurs hq.occurs_head
    | char c' =>
      have hsource := hp.source.trans hq.source.symm
      simp only [List.flatMap_cons, Piece.source, List.cons_append] at hsource
      rw [(List.cons.inj hsource).1]

/-- There is one way only to divide a text. -/
theorem unique (hp : Divides cs ps) (hq : Divides cs qs) : ps = qs := by
  induction ps generalizing cs qs with
  | nil =>
    cases qs with
    | nil => rfl
    | cons q qs => exact absurd hp.source.symm hq.ne_nil
  | cons p ps ih =>
    cases qs with
    | nil => exact absurd hq.source.symm hp.ne_nil
    | cons q qs =>
      obtain rfl := hp.head_eq hq
      have hsource := hp.source.trans hq.source.symm
      rw [List.flatMap_cons, List.flatMap_cons] at hsource
      rw [ih hp.tail (List.append_cancel_left hsource ▸ hq.tail)]

/-- A token among the parts occurs in the text. -/
theorem occurs_of_mem (h : Divides cs ps) (hmem : .token name ∈ ps) : ∃ i, Occurs cs i name := by
  obtain ⟨before, after, rfl⟩ := List.append_of_mem hmem
  exact ⟨_, (h.token _ name).2 ⟨before, after, rfl, rfl⟩⟩

end Divides

/-! ### Replacing the tokens -/

/-- Interpolation looks up the names that occur in the text, and no others. -/
theorem interpolate_congr {vars vars' : Dictionary String} {text : String}
    (h : ∀ i name, Occurs text.toList i name →
      vars'.get? (String.ofList name) = vars.get? (String.ofList name)) :
    interpolate vars' text = interpolate vars text := by
  -- Only the tokens ask for variables, and those occur in the text.
  unfold interpolate
  congr 1
  refine List.flatMap_congr fun p hp => ?_
  cases p with
  | char c => rfl
  | token name =>
    obtain ⟨i, hocc⟩ := (divides_pieces text.toList).occurs_of_mem hp
    simp only [Piece.render, h i name hocc]

/-- Without variables every token stays as it is written. -/
theorem interpolate_empty (text : String) : interpolate .empty text = text := by
  have hrender : Piece.render .empty = Piece.source := by
    funext p
    cases p <;> rfl
  rw [interpolate, hrender, (divides_pieces text.toList).source, String.ofList_toList]

/-- **Interpolation replaces the tokens that occur in a text, and nothing else.** The tokens that
occur do not overlap. The text divides in one way into them and single characters, and the result is
made of these parts in their order: a token gives the value of its name if the name is set, whatever
the value is, and what is written otherwise, and a character gives itself. Values are not looked at
again: the result depends on the names that occur in the text alone, and where none of them is set,
as without variables, it is the text. -/
theorem interpolate_replaces_tokens (vars : Dictionary String) (text : String) :
    (∀ i j m n, Occurs text.toList i m → Occurs text.toList j n → i ≤ j →
      (i = j ∧ m = n) ∨ i + (Piece.token m).source.length ≤ j) ∧
    (∃ ps, Divides text.toList ps ∧ (∀ qs, Divides text.toList qs → qs = ps) ∧
      (interpolate vars text).toList = ps.flatMap fun
        | .char c => [c]
        | .token name =>
          ((vars.get? (String.ofList name)).map String.toList).getD (Piece.token name).source) ∧
    (∀ vars' : Dictionary String,
      (∀ i name, Occurs text.toList i name →
        vars'.get? (String.ofList name) = vars.get? (String.ofList name)) →
      interpolate vars' text = interpolate vars text) ∧
    ((∀ i name, Occurs text.toList i name → vars.get? (String.ofList name) = none) →
      interpolate vars text = text) ∧
    interpolate .empty text = text := by
  refine ⟨fun i j m n hi hj hij => hi.eq_or_apart hj hij, ?_, fun vars' h => interpolate_congr h,
    fun h => ?_, interpolate_empty text⟩
  -- The division is there and is the only one; what a piece is rendered as is looked up.
  · refine ⟨_, divides_pieces text.toList, fun qs h => h.unique (divides_pieces _), ?_⟩
    rw [interpolate, String.toList_ofList]
    refine List.flatMap_congr fun p _ => ?_
    cases p with
    | char c => rfl
    | token name =>
      simp only [Piece.render]
      cases vars.get? (String.ofList name) <;> rfl
  · have hempty : interpolate vars text = interpolate .empty text := interpolate_congr h
    rw [hempty, interpolate_empty]

/-- A token behind a third brace is replaced, and a value that looks like a token stays. -/
example :
    interpolate ((Dictionary.empty.insert "a" "\x7b\x7bb\x7d\x7d").insert "b" "")
        "\x7b\x7b\x7ba\x7d\x7d\x7d \x7b\x7bb\x7d\x7d." = "\x7b\x7b\x7bb\x7d\x7d\x7d ." := by
  cbv

end Dialogue.Text
