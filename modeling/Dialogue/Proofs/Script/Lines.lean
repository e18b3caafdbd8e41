import Dialogue.Proofs.Script.Embedded

namespace Dialogue.Script

/-!
# The lines of tokens

The line of a token is counted along blanks and comments, and inside of a token it stays. Only a
text may hold a line feed, behind a backslash; what follows such a text is put on a line too low.

* `Lexer.Counts`: all line feeds that have been passed over are counted.
* `Lexer.skip_counts`, `lexeme_cases`: blanks and comments are counted; only texts hold line feeds.
* `Placed`, `placed`: the tokens of a source with the characters in front of each of them.
* `lines_count_feeds_outside_texts`: what the line of a token is.
* `line_behind_escaped_feed`: that it is not always the line that the token stands on.
-/

namespace Lexer

variable {line line' line'' : Nat} {c quote : Char} {cs cs' rest : List Char} {t : Token}
  {e : SyntaxError}

/-- What is left of a text is its end, and the line feeds in front of that are counted. -/
structure Counts (line : Nat) (cs : List Char) (line' : Nat) (rest : List Char) : Prop where
  suffix : rest <:+ cs
  lines : line' + rest.count '\n' = line + cs.count '\n'

namespace Counts

/-- Nothing is passed over. -/
theorem refl (line : Nat) (cs : List Char) : Counts line cs line cs := ⟨List.suffix_rfl, rfl⟩

/-- Two parts are passed over one after the other. -/
theorem trans (h : Counts line cs line' cs') (h' : Counts line' cs' line'' rest) :
    Counts line cs line'' rest :=
  ⟨h'.suffix.trans h.suffix, h'.lines.trans h.lines⟩

/-- Characters without line feeds are passed over. -/
theorem pass (h : '\n' ∉ cs) (line : Nat) (rest : List Char) :
    Counts line (cs ++ rest) line rest := by
  refine ⟨List.suffix_append cs rest, ?_⟩
  rw [List.count_append, List.count_eq_zero_of_not_mem h, Nat.zero_add]

/-- A character is passed over, and counted if it is a line feed. -/
theorem next (line : Nat) (c : Char) (rest : List Char) :
    Counts line (c :: rest) (if c = '\n' then line + 1 else line) rest := by
  refine ⟨List.suffix_cons c rest, ?_⟩
  by_cases h : c = '\n'
  · rw [if_pos h, h, List.count_cons_self]
    omega
  · rw [if_neg h, List.count_cons_of_ne h]

/-- Lines only go up. -/
theorem le (h : Counts line cs line' rest) : line ≤ line' := by
  have hcount := h.suffix.sublist.count_le '\n'
  have hlines := h.lines
  omega

/-- A line that may be reached from what is left may be reached from the text. -/
theorem within {n : Nat} (h : Counts line cs line' rest)
    (hn : line' ≤ n ∧ n ≤ line' + rest.count '\n') : line ≤ n ∧ n ≤ line + cs.count '\n' :=
  ⟨h.le.trans hn.1, h.lines ▸ hn.2⟩

end Counts

/-! ### Blanks and comments -/

/-- A comment counts its line feeds. -/
theorem skipComment_counts (h : skipComment line cs = .ok (line', rest)) :
    Counts line cs line' rest := by
  fun_induction skipComment line cs with
  | case1 line cs =>
    cases h
    exact .pass (by decide : '\n' ∉ ['*', '/']) line' rest
  | case2 line c cs _ ih => exact (Counts.next line c cs).trans (ih h)
  | case3 => cases h

/-- A comment without an end is a fault on a line of it. -/
theorem line_of_skipComment (h : skipComment line cs = .error e) :
    line ≤ e.line ∧ e.line ≤ line + cs.count '\n' := by
  fun_induction skipComment line cs with
  | case1 => cases h
  | case2 line c cs _ ih => exact (Counts.next line c cs).within (ih h)
  | case3 line =>
    cases h
    exact ⟨Nat.le_refl _, Nat.le_refl _⟩

/-- A comment to the end of a line is passed over. -/
theorem counts_dropWhile (line : Nat) (cs : List Char) :
    Counts line ('/' :: '/' :: cs) line (cs.dropWhile onLine) := by
  have hfeed : '\n' ∉ '/' :: '/' :: cs.takeWhile onLine := by
    have htake : '\n' ∉ cs.takeWhile onLine := fun h => by cases List.mem_takeWhile_imp h
    simpa using htake
  have hcounts := Counts.pass hfeed line (cs.dropWhile onLine)
  rwa [List.cons_append, List.cons_append, List.takeWhile_append_dropWhile] at hcounts

/-- What opens a comment holds no line feed. -/
theorem counts_openComment (line : Nat) (cs : List Char) :
    Counts line ('/' :: '*' :: cs) line cs :=
  .pass (by decide : '\n' ∉ ['/', '*']) line cs

/-- A blank that is no line feed stays on its line. -/
theorem counts_blank (line : Nat) (cs : List Char) (h : c ≠ '\n') :
    Counts line (c :: cs) line cs :=
  .pass (fun hmem => h (List.mem_singleton.1 hmem).symm) line cs

/-- A line feed begins the next line. -/
theorem counts_feed (line : Nat) (cs : List Char) : Counts line ('\n' :: cs) (line + 1) cs :=
  .next line '\n' cs

/-- Blanks and comments are passed over, and all line feeds in them are counted. -/
theorem skip_counts (h : skip line cs = .ok (line', rest)) : Counts line cs line' rest := by
  fun_induction skip line cs with
  | case1 | case7 =>
    cases h
    exact .refl _ _
  | case2 line cs ih => exact (counts_dropWhile line cs).trans (ih h)
  | case3 line cs line'' rest'' hcomment ih =>
    exact ((counts_openComment line cs).trans (skipComment_counts hcomment)).trans (ih h)
  | case4 => cases h
  | case5 line cs _ _ ih => exact (counts_feed line cs).trans (ih h)
  | case6 line c cs _ _ hfeed _ ih => exact (counts_blank line cs hfeed).trans (ih h)

/-- A fault in front of a token is on a line of what is left. -/
theorem line_of_skip (h : skip line cs = .error e) :
    line ≤ e.line ∧ e.line ≤ line + cs.count '\n' := by
  -- The cases are those of `skip`; the fault of a comment is on one of its own lines.
  fun_induction skip line cs with
  | case1 | case7 => cases h
  | case2 line cs ih => exact (counts_dropWhile line cs).within (ih h)
  | case3 line cs line'' rest'' hcomment ih =>
    exact ((counts_openComment line cs).trans (skipComment_counts hcomment)).within (ih h)
  | case4 line cs e hcomment =>
    cases h
    exact (counts_openComment line cs).within (line_of_skipComment hcomment)
  | case5 line cs _ _ ih => exact (counts_feed line cs).within (ih h)
  | case6 line c cs _ _ hfeed _ ih => exact (counts_blank line cs hfeed).within (ih h)

/-! ### Tokens -/

/-- What remains behind a text is an end of what was there. -/
theorem takeText_suffix {done text : List Char}
    (h : takeText quote done cs = some (text, rest)) : rest <:+ cs := by
  fun_induction takeText quote done cs with
  | case1 => cases h
  | case2 done cs =>
    cases h
    exact List.suffix_cons quote rest
  | case3 => cases h
  | case4 => cases h
  | case5 done e cs _ _ ih => exact (ih h).trans (List.suffix_append ['\\', e] cs)
  | case6 done c cs _ _ _ ih => exact (ih h).trans (List.suffix_cons c cs)

/-- No mark has a line feed in it. -/
theorem symbols_feed : ∀ entry ∈ symbols, '\n' ∉ entry.1 := by decide

/-- A mark that is found stands at the head of the text. -/
theorem symbol?_spec (h : symbol? cs = some (t, rest)) :
    ∃ mark, (mark, t) ∈ symbols ∧ cs = mark ++ rest := by
  obtain ⟨⟨mark, t'⟩, hmem, h⟩ := List.exists_of_findSome?_eq_some h
  split at h
  case isTrue hahead =>
    obtain ⟨rest', rfl⟩ := List.isPrefixOf_iff_prefix.1 hahead
    simp only [Option.some.injEq, Prod.mk.injEq, List.drop_left] at h
    obtain ⟨rfl, rfl⟩ := h
    exact ⟨mark, hmem, rfl⟩
  case isFalse => cases h

/-- A word stops before a line feed, so it holds none. -/
theorem word_without_feed {test : Char → Bool} (htest : test '\n' = false) (hc : c ≠ '\n')
    (cs : List Char) : ∃ word, cs = word ++ cs.dropWhile test ∧ '\n' ∉ c :: word := by
  refine ⟨cs.takeWhile test, List.takeWhile_append_dropWhile.symm, ?_⟩
  rw [List.mem_cons, not_or]
  refine ⟨hc.symm, fun h => ?_⟩
  have := List.mem_takeWhile_imp h
  rw [htest] at this
  cases this

/-- A token is a text, or there is no line feed in it. -/
theorem lexeme_cases (h : lexeme c cs = .ok (t, rest)) :
    (∃ value, t = .text value ∧ rest <:+ cs) ∨ ∃ word, cs = word ++ rest ∧ '\n' ∉ c :: word := by
  -- The cases in the order of `lexeme`: a text, a backtick, a number, a name, a mark.
  unfold lexeme at h
  split at h
  case isTrue =>
    split at h
    case h_1 htext =>
      cases h
      exact .inl ⟨_, rfl, takeText_suffix htext⟩
    case h_2 => cases h
  case isFalse =>
    split at h
    case isTrue => cases h
    case isFalse =>
      split at h
      case isTrue hstart =>
        have hc : c ≠ '\n' := by
          rintro rfl
          cases hstart
        split at h
        case h_1 =>
          cases h
          exact .inr (word_without_feed (by decide) hc cs)
        case h_2 => cases h
      case isFalse =>
        split at h
        case isTrue hstart =>
          have hc : c ≠ '\n' := by
            rintro rfl
            cases hstart
          cases h
          exact .inr (word_without_feed (by decide) hc cs)
        case isFalse =>
          split at h
          case h_1 hsymbol =>
            cases h
            obtain ⟨mark, hmem, hcs⟩ := symbol?_spec hsymbol
            have hpos := length_symbols _ hmem
            have hfeed := symbols_feed _ hmem
            cases mark with
            | nil => cases hpos
            | cons d word =>
              obtain ⟨rfl, hword⟩ := List.cons.inj hcs
              exact .inr ⟨word, hword, hfeed⟩
          case h_2 => cases h

/-- What remains behind a token is an end of what was there. -/
theorem lexeme_suffix (h : lexeme c cs = .ok (t, rest)) : rest <:+ cs := by
  rcases lexeme_cases h with ⟨-, -, hsuffix⟩ | ⟨word, rfl, -⟩
  · exact hsuffix
  · exact List.suffix_append word rest

/-- What of a text stands in front of its end. -/
def passed (cs rest : List Char) : List Char := cs.take (cs.length - rest.length)

@[simp] theorem passed_left (cs rest : List Char) : passed (cs ++ rest) rest = cs := by
  simp [passed]

/-- What was passed over and what remains make up the whole. -/
theorem passed_append (h : rest <:+ cs) : passed cs rest ++ rest = cs := by
  obtain ⟨before, rfl⟩ := h
  rw [passed_left]

end Lexer

/-! ### Where tokens stand -/

/-- A token where it stands in a source: the characters in front of it, and those that it is read
from. -/
structure Placed extends Located where
  front : List Char
  spelling : List Char
deriving Repr, DecidableEq

namespace Lexer

variable {line line' : Nat} {front cs rest : List Char} {p : Placed} {ps : List Placed}

/-- The tokens of a text that begins on a line, with what stands in front of each of them; `front`
stands in front of all of them. -/
def placedFrom (front : List Char) (line : Nat) (cs : List Char) :
    Except SyntaxError (List Placed) :=
  match _hskip : skip line cs with
  | .error e => .error e
  | .ok (_, []) => .ok []
  | .ok (line, c :: rest) =>
    match _h : lexeme c rest with
    | .error fault => .error ⟨line, fault⟩
    | .ok (t, rest') =>
      let front := front ++ passed cs (c :: rest)
      let spelling := passed (c :: rest) rest'
      (placedFrom (front ++ spelling) line rest').map (⟨⟨t, line⟩, front, spelling⟩ :: ·)
termination_by cs.length
decreasing_by
  have h1 := skip_length _hskip
  have h2 := lexeme_length _h
  simp at h1
  omega

/-- They are the tokens that the text is split into. -/
theorem tokenizeFrom_eq_placedFrom (done : List Located) (front : List Char) (line : Nat)
    (cs : List Char) : tokenizeFrom done line cs =
      (placedFrom front line cs).map fun ps => done.reverse ++ ps.map Placed.toLocated := by
  -- The cases are those of `placedFrom`; the tokens found before stand in front on both sides.
  fun_induction placedFrom front line cs generalizing done with
  | case1 front line cs e hskip =>
    rw [tokenizeFrom_eq, hskip]
    rfl
  | case2 front line cs line' hskip =>
    rw [tokenizeFrom_eq, hskip]
    simp [Except.map]
  | case3 front line cs line' c rest hskip fault ht =>
    rw [tokenizeFrom_eq, hskip]
    simp only [ht]
    rfl
  | case4 front line cs line' c rest hskip t rest' ht front' spelling ih =>
    rw [tokenizeFrom_eq, hskip]
    simp only [ht]
    rw [ih]
    cases placedFrom (front' ++ spelling) line' rest' <;> simp [Except.map]

/-- The first token stands behind blanks and comments, and the others stand behind it. -/
theorem placedFrom_cons (h : placedFrom front line cs = .ok (p :: ps)) :
    ∃ c rest rest', skip line cs = .ok (p.line, c :: rest) ∧ lexeme c rest = .ok (p.token, rest') ∧
      p.front = front ++ passed cs (c :: rest) ∧ p.spelling = passed (c :: rest) rest' ∧
      placedFrom (p.front ++ p.spelling) p.line rest' = .ok ps := by
  rw [placedFrom] at h
  split at h
  case h_1 | h_2 => cases h
  case h_3 line' c rest hskip =>
    split at h
    case h_1 => cases h
    case h_2 t rest' ht =>
      cases hmore :
          placedFrom (front ++ passed cs (c :: rest) ++ passed (c :: rest) rest') line' rest' with
      | error e =>
        simp only [hmore] at h
        cases h
      | ok more =>
        simp only [hmore] at h
        cases h
        exact ⟨c, rest, rest', hskip, ht, rfl, rfl, hmore⟩

/-- A token of a source is read from its characters, with others in front of it and behind it, and
it is a text if there is a line feed in it. -/
structure StandsIn (p : Placed) (source : List Char) : Prop where
  read : ∃ c word behind, p.spelling = c :: word ∧ source = p.front ++ (p.spelling ++ behind) ∧
    lexeme c (word ++ behind) = .ok (p.token, behind)
  feed : '\n' ∈ p.spelling → ∃ value, p.token = .text value

/-- A token stands where it was read, and only a text is spelled with a line feed. -/
theorem standsIn_of_lexeme {c : Char} {rest' : List Char} (h : lexeme c rest = .ok (p.token, rest'))
    (hspelling : p.spelling = passed (c :: rest) rest') : StandsIn p (p.front ++ (c :: rest)) := by
  obtain ⟨word, rfl⟩ := lexeme_suffix h
  have hword : p.spelling = c :: word := by rw [hspelling, ← List.cons_append, passed_left]
  refine ⟨⟨c, word, rest', hword, by rw [hword, List.cons_append], h⟩, fun hfeed => ?_⟩
  rcases lexeme_cases h with ⟨value, hvalue, -⟩ | ⟨word', heq, hnone⟩
  · exact ⟨value, hvalue⟩
  · rw [hword, List.append_cancel_right heq] at hfeed
    exact absurd hfeed hnone

/-- All line feeds in front of a token are counted in its line, but for those inside of tokens. -/
theorem placedFrom_spec {before after : List Placed}
    (h : placedFrom front line cs = .ok (before ++ p :: after)) :
    StandsIn p (front ++ cs) ∧ front <+: p.front ∧
      (∀ q ∈ before, q.front ++ q.spelling <+: p.front) ∧
      p.line + (before.flatMap Placed.spelling).count '\n' + front.count '\n' =
        line + p.front.count '\n' := by
  -- On the tokens before. Each of them moves the front behind its own spelling.
  induction before generalizing front line cs with
  | nil =>
    obtain ⟨c, rest, rest', hskip, ht, hfront, hspelling, -⟩ := placedFrom_cons h
    have hcounts := skip_counts hskip
    have hcs : front ++ cs = p.front ++ (c :: rest) := by
      rw [hfront, List.append_assoc, passed_append hcounts.suffix]
    refine ⟨hcs ▸ standsIn_of_lexeme ht hspelling, hfront ▸ List.prefix_append _ _, nofun, ?_⟩
    have hcount := congrArg (List.count '\n') hcs
    have hlines := hcounts.lines
    rw [List.count_append, List.count_append] at hcount
    simp only [List.flatMap_nil, List.count_nil]
    omega
  | cons q before ih =>
    obtain ⟨c, rest, rest', hskip, ht, hfront, hspelling, hmore⟩ := placedFrom_cons h
    obtain ⟨hstands, hahead, hbefore, hline⟩ := ih hmore
    have hcounts := skip_counts hskip
    have hspelled : q.spelling ++ rest' = c :: rest := by
      rw [hspelling, passed_append ((lexeme_suffix ht).trans (List.suffix_cons c rest))]
    have hcs : front ++ cs = q.front ++ (c :: rest) := by
      rw [hfront, List.append_assoc, passed_append hcounts.suffix]
    have hfront' : front <+: q.front ++ q.spelling := by
      rw [hfront, List.append_assoc]
      exact List.prefix_append _ _
    refine ⟨?_, hfront'.trans hahead, List.forall_mem_cons.2 ⟨hahead, hbefore⟩, ?_⟩
    -- The line feeds of the spelling are passed over, so they are added here and not to the line.
    · rwa [hcs, ← hspelled, ← List.append_assoc]
    · have hcount := congrArg (List.count '\n') hcs
      have hlines := hcounts.lines
      rw [List.count_append, List.count_append] at hcount
      rw [List.count_append] at hline
      rw [List.flatMap_cons, List.count_append]
      omega

end Lexer

/-- The tokens of a source with what stands in front of each of them. -/
def placed (source : String) : Except SyntaxError (List Placed) :=
  Lexer.placedFrom [] 1 source.toList

/-- **The line of a token is one more than the line feeds in front of it, without those inside of
texts.** The tokens of a source stand in it one behind the other, each where it is read from. Only
texts have line feeds inside, and these are not counted. -/
theorem lines_count_feeds_outside_texts (source : String) :
    (placed source).map (List.map Placed.toLocated) = tokenize source ∧
    ∀ ps, placed source = .ok ps → ∀ before p after, ps = before ++ p :: after →
      Lexer.StandsIn p source.toList ∧ (∀ q ∈ before, q.front ++ q.spelling <+: p.front) ∧
      p.line + (before.flatMap Placed.spelling).count '\n' = 1 + p.front.count '\n' := by
  refine ⟨(Lexer.tokenizeFrom_eq_placedFrom [] [] 1 source.toList).symm, ?_⟩
  rintro ps hps before p after rfl
  obtain ⟨hstands, -, hbefore, hline⟩ := Lexer.placedFrom_spec hps
  exact ⟨hstands, hbefore, hline⟩

/-- Behind a comment of two lines, a text that goes on behind a line feed, and the end of a line:
three line feeds, and the one inside of the text is not counted. -/
theorem lines_count_feeds_outside_texts_comment :
    let source := "/* on\n */ 'a\\\nb' +\nc"
    let text : Placed := ⟨⟨.text "a\nb", 2⟩, "/* on\n */ ".toList, "'a\\\nb'".toList⟩
    let plus : Placed := ⟨⟨.plus, 2⟩, "/* on\n */ 'a\\\nb' ".toList, ['+']⟩
    let name : Placed := ⟨⟨.ident "c", 3⟩, "/* on\n */ 'a\\\nb' +\n".toList, ['c']⟩
    placed source = .ok [text, plus, name] ∧ Lexer.StandsIn name source.toList ∧
      name.line + ([text, plus].flatMap Placed.spelling).count '\n' =
        1 + name.front.count '\n' := by
  -- The places are computed; the theorem gives the line of the last one.
  intro source text plus name
  have hplaced : placed source = .ok [text, plus, name] := by decide +kernel
  obtain ⟨hstands, -, hline⟩ :=
    (lines_count_feeds_outside_texts source).2 _ hplaced [text, plus] name [] rfl
  exact ⟨hplaced, hstands, hline⟩

/-- **A line feed behind a backslash is not counted.** The name stands on the second line, and is
put on the first one. -/
theorem line_behind_escaped_feed :
    let source := "'a\\\nb' c"
    let text : Placed := ⟨⟨.text "a\nb", 1⟩, [], "'a\\\nb'".toList⟩
    let name : Placed := ⟨⟨.ident "c", 1⟩, "'a\\\nb' ".toList, ['c']⟩
    placed source = .ok [text, name] ∧ name.front.count '\n' = 1 ∧
      name.line ≠ 1 + name.front.count '\n' := by
  refine ⟨?_, by decide, by decide⟩
  decide +kernel

end Dialogue.Script
