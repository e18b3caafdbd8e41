import Mathlib.Data.List.Find
import Dialogue.Proofs.Script.Chains
import Dialogue.Proofs.Script.Lines

namespace Dialogue.Script

open Dialogue.Script.Lexer

/-!
# Scanning by index

A scanner that goes over the characters of a script by their index. It checks each character and
each slice that it reads, and each of its loops counts down how many rounds it may still make.

* `Misstep`: what a scanner or a parser that goes by index must not do.
* `Scanner.scan`: the scanner.
* `Scanner.scan_eq`: it makes no misstep, and finds the tokens that the text is split into.
* `Lexer.Lexes.lines`, `Lexer.line_of_tokenizeFrom`: tokens and faults are on lines of the text.
-/

/-- What a scanner or a parser that goes by index must not do. -/
inductive Misstep
  /-- A character is read that is not there. -/
  | noCharacter
  /-- A slice is taken that does not lie within the text. -/
  | noSlice
  /-- A token is read that is not there. -/
  | noToken
  /-- The end of a statement is looked for before the first token. -/
  | noTokenBehind
  /-- More levels are left than were entered. -/
  | noLevel
  /-- A statement, an expression or a round of a loop takes nothing off. -/
  | noProgress
  /-- The rounds that may be made are used up. -/
  | unfinished
deriving Repr, DecidableEq

/-- Why a scanner or a parser stops before its end. -/
inductive Stop
  | fault (e : SyntaxError)
  | misstep (m : Misstep)
deriving Repr, DecidableEq

namespace Scanner

variable (chars : List Char)

/-- The character at an index. -/
def charAt (i : Nat) : Except Stop Char :=
  match chars[i]? with
  | some c => .ok c
  | none => .error (.misstep .noCharacter)

/-- The characters from an index up to another one. -/
def slice (start stop : Nat) : Except Stop (List Char) :=
  if start ≤ stop ∧ stop ≤ chars.length then .ok ((chars.take stop).drop start)
  else .error (.misstep .noSlice)

/-- The index behind the characters that pass a test. -/
def passWhile (test : Char → Bool) : Nat → Nat → Except Stop Nat
  | 0, _ => .error (.misstep .unfinished)
  | fuel + 1, i =>
    if i < chars.length then do
      if test (← charAt chars i) then passWhile test fuel (i + 1) else return i
    else return i

/-- The index behind a comment and its end mark, and the line of that. -/
def passComment : Nat → Nat → Nat → Except Stop (Nat × Nat)
  | 0, _, _ => .error (.misstep .unfinished)
  | fuel + 1, line, i =>
    match chars[i]?, chars[i + 1]? with
    | some '*', some '/' => .ok (line, i + 2)
    | some c, _ => passComment fuel (if c = '\n' then line + 1 else line) (i + 1)
    | none, _ => .error (.fault ⟨line, .unterminatedComment⟩)

/-- Reads a text up to the quote that ends it; `done` is what was read, in reverse. -/
def readText (quote : Char) (line : Nat) : Nat → List Char → Nat → Except Stop (List Char × Nat)
  | 0, _, _ => .error (.misstep .unfinished)
  | fuel + 1, done, i =>
    match chars[i]? with
    | none => .error (.fault ⟨line, .unterminatedText⟩)
    | some c =>
      if c = quote then .ok (done.reverse, i + 1)
      else if c = '\n' then .error (.fault ⟨line, .unterminatedText⟩)
      else if c = '\\' then
        match chars[i + 1]? with
        | none => .error (.fault ⟨line, .unterminatedText⟩)
        | some e => readText quote line fuel (unescape e :: done) (i + 2)
      else readText quote line fuel (c :: done) (i + 1)

/-- The text that begins with the quote at an index, and the index behind it. -/
def text (fuel line i : Nat) (quote : Char) : Except Stop (Token × Nat) := do
  let (value, length) ← readText (← slice chars i chars.length) quote line fuel [] 1
  return (.text (String.ofList value), i + length)

/-- The number that begins at an index, and the index behind it. -/
def number (fuel line i : Nat) : Except Stop (Token × Nat) := do
  let stop ← passWhile chars inNumber fuel i
  let literal ← slice chars i stop
  match Decimal.Numeral.read? literal with
  | some n => return (.number n.bits, stop)
  | none => .error (.fault ⟨line, .badNumber (String.ofList literal)⟩)

/-- The keyword or the name that begins at an index, and the index behind it. -/
def word (fuel i : Nat) : Except Stop (Token × Nat) := do
  let stop ← passWhile chars inName fuel i
  return (ofWord (String.ofList (← slice chars i stop)), stop)

/-- The mark that begins with the character at an index, and the index behind it. -/
def mark (line i : Nat) (c : Char) : Except Stop (Token × Nat) :=
  let ahead := c :: (chars[i + 1]?.toList ++ chars[i + 2]?.toList)
  match symbols.find? (·.1.isPrefixOf ahead) with
  | some (spelling, t) => .ok (t, i + spelling.length)
  | none => .error (.fault ⟨line, .unexpectedCharacter c⟩)

/-- The token that begins with the character at an index, and the index behind it. -/
def token (fuel line i : Nat) (c : Char) : Except Stop (Token × Nat) :=
  if c = '"' ∨ c = '\'' then text chars fuel line i c
  else if c = '\x60' then .error (.fault ⟨line, .templateLiteral⟩)
  else if c.isDigit || (c == '.' && chars[i + 1]?.any Char.isDigit) then
    number chars fuel line i
  else if startsName c then word chars fuel i
  else mark chars line i c

/-- What a round of the scanner comes to: a line, an index, and the token that it took off. -/
structure Round where
  line : Nat
  index : Nat
  found : Option Token

/-- Passes over a blank or a comment, or takes one token off. -/
def round (fuel line i : Nat) : Except Stop Round := do
  let c ← charAt chars i
  let next := chars[i + 1]?
  if c = '\n' then return ⟨line + 1, i + 1, none⟩
  else if Unicode.isBlank c then return ⟨line, i + 1, none⟩
  else if c = '/' ∧ next = some '/' then return ⟨line, ← passWhile chars onLine fuel i, none⟩
  else if c = '/' ∧ next = some '*' then
    let (line, stop) ← passComment chars fuel line (i + 2)
    return ⟨line, stop, none⟩
  else
    let (t, stop) ← token chars fuel line i c
    return ⟨line, stop, some t⟩

/-- The tokens from an index on, behind `done`, which holds earlier tokens in reverse. -/
def scan : Nat → Nat → Nat → List Located → Except Stop (List Located)
  | 0, _, _, _ => .error (.misstep .unfinished)
  | fuel + 1, line, i, done =>
    if i < chars.length then do
      let r ← round chars fuel line i
      -- A token is on the line that its round begins on.
      if r.index ≤ i then .error (.misstep .noProgress)
      else scan fuel r.line r.index ((r.found.map (⟨·, line⟩)).toList ++ done)
    else return done.reverse

variable {chars} {fuel line line' i : Nat} {c : Char} {rest rest' : List Char}

/-! ### Indices -/

/-- The index at which the end of a text begins. -/
def startOf (chars rest : List Char) : Nat := chars.length - rest.length

/-- An end of the text is what remains from its start on. -/
theorem drop_startOf (h : rest <:+ chars.drop i) : chars.drop (startOf chars rest) = rest :=
  (List.suffix_iff_eq_drop.1 (h.trans (List.drop_suffix i chars))).symm

/-- The index and what remains make up the whole text. -/
theorem length_of_drop (h : chars.drop i = rest) (hi : i ≤ chars.length) :
    i + rest.length = chars.length := by
  rw [← h, List.length_drop]
  omega

/-- What remains from an index on starts there. -/
theorem startOf_of_drop (h : chars.drop i = rest) (hi : i ≤ chars.length) :
    startOf chars rest = i := by
  have := length_of_drop h hi
  rw [startOf]
  omega

/-- Where something remains, the index is within the text. -/
theorem lt_of_drop (h : chars.drop i = c :: rest) : i < chars.length :=
  List.length_lt_of_drop_ne_nil (h ▸ List.cons_ne_nil c rest)

/-- One character further on. -/
theorem drop_succ (h : chars.drop i = c :: rest) : chars.drop (i + 1) = rest := by
  rw [← List.tail_drop, h, List.tail_cons]

/-- The first character that remains is the one at the index. -/
theorem getElem?_of_drop (h : chars.drop i = c :: rest) : chars[i]? = some c := by
  rw [← List.head?_drop, h, List.head?_cons]

/-- Reading it by the index succeeds. -/
theorem charAt_of_drop (h : chars.drop i = c :: rest) : charAt chars i = .ok c := by
  rw [charAt, getElem?_of_drop h]

/-- A slice that ends where the end of the text begins. -/
theorem slice_eq {word : List Char} (h : chars.drop i = word ++ rest) (hi : i ≤ chars.length) :
    slice chars i (startOf chars rest) = .ok word := by
  have hlength := length_of_drop h hi
  rw [List.length_append] at hlength
  have hstop : startOf chars rest = i + word.length := by
    rw [startOf]
    omega
  rw [slice, if_pos (by omega), hstop, List.drop_take, h, Nat.add_sub_cancel_left,
    List.take_left]

/-! ### Words, comments and texts -/

theorem passWhile_eq (test : Char → Bool) (hi : i ≤ chars.length)
    (hfuel : chars.length < fuel + i) :
    passWhile chars test fuel i = .ok (startOf chars ((chars.drop i).dropWhile test)) := by
  -- On the rounds, of which there are more than characters left.
  induction fuel generalizing i with
  | zero => omega
  | succ fuel ih =>
    cases h : chars.drop i with
    | nil =>
      have hend : ¬i < chars.length := Nat.not_lt.2 (List.drop_eq_nil_iff.1 h)
      rw [passWhile, if_neg hend, List.dropWhile_nil, startOf_of_drop h hi]
      rfl
    | cons c rest =>
      rw [passWhile, if_pos (lt_of_drop h), charAt_of_drop h]
      show (if test c then passWhile chars test fuel (i + 1) else .ok i) = _
      cases htest : test c with
      | true =>
        rw [if_pos rfl, List.dropWhile_cons_of_pos htest, ih (lt_of_drop h) (by omega),
          drop_succ h]
      | false =>
        rw [if_neg Bool.false_ne_true, List.dropWhile_cons_of_neg (by rw [htest]; decide),
          startOf_of_drop h hi]

/-- Passing a comment by index ends where skipping it ends, on the same line, or fails alike. -/
theorem passComment_eq (hi : i ≤ chars.length) (hfuel : chars.length < fuel + i) :
    passComment chars fuel line i =
      ((skipComment line (chars.drop i)).map fun r => (r.1, startOf chars r.2)).mapError
        .fault := by
  -- On the rounds, as in `passWhile_eq`. The closing mark takes two characters, so it is looked for
  -- before the character alone.
  induction fuel generalizing line i with
  | zero => omega
  | succ fuel ih =>
    cases h : chars.drop i with
    | nil =>
      rw [passComment, ← List.head?_drop, h]
      rfl
    | cons c rest =>
      have hrest := drop_succ h
      have hmore : passComment chars fuel (if c = '\n' then line + 1 else line) (i + 1) = _ :=
        ih (lt_of_drop h) (by omega)
      rw [passComment, getElem?_of_drop h, ← List.head?_drop, hrest]
      -- The cases: the mark that closes, any other character, and the end.
      split
      case h_1 hc hslash =>
        obtain rfl := Option.some.inj hc
        obtain ⟨rest', rfl⟩ := List.head?_eq_some_iff.1 hslash
        show _ = Except.mapError Stop.fault (.ok (line, startOf chars rest'))
        rw [startOf_of_drop (drop_succ hrest) (lt_of_drop hrest)]
        rfl
      case h_2 hc hmark =>
        obtain rfl := Option.some.inj hc
        have hopen : ∀ rest', c = '*' → rest = '/' :: rest' → False := by
          rintro rest' hstar rfl
          exact hmark rfl hstar
        rw [skipComment.eq_2 line c rest hopen, hmore, hrest]
      case h_3 h => cases h

/-- Reading a text by index gives what taking it off the characters gives. -/
theorem readText_eq (quote : Char) (line : Nat) (done : List Char) (hi : i ≤ chars.length)
    (hfuel : chars.length < fuel + i) :
    readText chars quote line fuel done i =
      match takeText quote done (chars.drop i) with
      | none => .error (.fault ⟨line, .unterminatedText⟩)
      | some (text, rest) => .ok (text, startOf chars rest) := by
  induction fuel generalizing done i with
  | zero => omega
  | succ fuel ih =>
    cases h : chars.drop i with
    | nil =>
      rw [readText, ← List.head?_drop, h]
      rfl
    | cons c rest =>
      have hrest := drop_succ h
      rw [readText, getElem?_of_drop h, ← List.head?_drop, hrest, takeText_cons]
      dsimp only
      -- The cases in the order of the scanner: the closing quote, a line feed, an escape, any other
      -- character.
      split
      case isTrue =>
        show _ = Except.ok (done.reverse, startOf chars rest)
        rw [startOf_of_drop hrest (lt_of_drop h)]
      case isFalse =>
        split
        case isTrue => rfl
        case isFalse =>
          split
          case isTrue =>
            cases rest with
            | nil => rfl
            | cons e rest =>
              have hmore := ih (unescape e :: done) (lt_of_drop hrest) (by omega)
              rw [drop_succ hrest] at hmore
              exact hmore
          case isFalse =>
            have hmore := ih (c :: done) (lt_of_drop h) (by omega)
            rw [hrest] at hmore
            exact hmore

/-! ### Tokens -/

/-- A word is taken off by its index. -/
theorem word_eq {test : Char → Bool} (h : chars.drop i = c :: rest) (hc : test c)
    (hfuel : chars.length < fuel + i) :
    passWhile chars test fuel i = .ok (startOf chars (rest.dropWhile test)) ∧
      slice chars i (startOf chars (rest.dropWhile test)) = .ok (c :: rest.takeWhile test) := by
  have hi := (lt_of_drop h).le
  constructor
  · rw [passWhile_eq test hi hfuel, h, List.dropWhile_cons_of_pos hc]
  · refine slice_eq ?_ hi
    rw [h, List.cons_append, List.takeWhile_append_dropWhile]

/-- What starts a number stays within one. -/
theorem inNumber_of_startsNumber (h : startsNumber c rest) : inNumber c := by
  unfold startsNumber at h
  unfold inNumber
  simp only [Bool.or_eq_true, Bool.and_eq_true] at h ⊢
  exact h.imp_right And.left

/-- What starts a name stays within one. -/
theorem inName_of_startsName (h : startsName c) : inName c := by
  unfold startsName at h
  unfold inName Unicode.isAlphanumeric
  simp only [Bool.or_eq_true] at h ⊢
  tauto

/-- No mark is longer than three characters. -/
theorem symbols_length : ∀ entry ∈ symbols, entry.1.length ≤ 3 := by decide

/-- Three characters tell which mark is at the head of a text. -/
theorem symbol?_eq_find? (cs : List Char) :
    symbol? cs = (symbols.find? (·.1.isPrefixOf (cs.take 3))).map fun entry =>
      (entry.2, cs.drop entry.1.length) := by
  -- No mark is longer than three characters, so looking at three decides.
  have hahead : ∀ entry ∈ symbols, entry.1.isPrefixOf (cs.take 3) = entry.1.isPrefixOf cs := by
    intro entry hmem
    rw [Bool.eq_iff_iff, List.isPrefixOf_iff_prefix, List.isPrefixOf_iff_prefix,
      List.prefix_take_iff, and_iff_left (symbols_length entry hmem)]
  rw [List.find?_congr hahead, ← List.findSome?_guard, List.map_findSome?, symbol?]
  congr 1
  funext entry
  show _ = Option.map _ (Option.guard (fun e => e.1.isPrefixOf cs) entry)
  rw [Option.guard]
  split <;> rfl

/-- The three characters that begin at an index. -/
theorem take_three (h : chars.drop i = c :: rest) :
    c :: (chars[i + 1]?.toList ++ chars[i + 2]?.toList) = (c :: rest).take 3 := by
  have hnext : ∀ k, chars[i + 1 + k]? = rest[k]? := fun k => by
    rw [← drop_succ h, List.getElem?_drop]
  rw [List.take_succ_cons, List.take_add_one, List.take_add_one, ← hnext 0, ← hnext 1]
  rfl

/-- What a token and the text behind it are by index. -/
def indexed (chars : List Char) (line : Nat) :
    Except SyntaxFault (Token × List Char) → Except Stop (Token × Nat)
  | .error f => .error (.fault ⟨line, f⟩)
  | .ok (t, rest) => .ok (t, startOf chars rest)

theorem text_eq (line : Nat) (h : chars.drop i = c :: rest) (hfuel : chars.length < fuel + i) :
    text chars fuel line i c = indexed chars line (match takeText c [] rest with
      | some (value, rest) => .ok (.text (String.ofList value), rest)
      | none => .error .unterminatedText) := by
  have hi := (lt_of_drop h).le
  have hlength := length_of_drop h hi
  have hall : chars.drop i = (c :: rest) ++ [] := by rw [h, List.append_nil]
  have hslice : slice chars i chars.length = .ok (c :: rest) := slice_eq hall hi
  -- The slice begins with the quote, so the text is read from its second character on.
  have hread : readText (c :: rest) c line fuel [] 1 = _ :=
    readText_eq c line [] (Nat.le_add_left 1 _) (by omega)
  rw [text, hslice]
  show (readText (c :: rest) c line fuel [] 1).bind _ = _
  rw [hread, List.drop_one, List.tail_cons]
  cases htext : takeText c [] rest with
  | none => rfl
  | some r =>
    have hless := takeText_length htext
    rw [List.length_cons] at hlength
    have hstop : i + startOf (c :: rest) r.2 = startOf chars r.2 := by
      rw [startOf, startOf, List.length_cons]
      omega
    show Except.ok (_, i + startOf (c :: rest) r.2) = _
    rw [hstop]
    rfl

/-- A number is the word at the index, read as a numeral. -/
theorem number_eq (line : Nat) (h : chars.drop i = c :: rest) (hc : inNumber c)
    (hfuel : chars.length < fuel + i) : number chars fuel line i = indexed chars line
      (match Decimal.Numeral.read? (c :: rest.takeWhile inNumber) with
      | some n => .ok (.number n.bits, rest.dropWhile inNumber)
      | none => .error (.badNumber (String.ofList (c :: rest.takeWhile inNumber)))) := by
  obtain ⟨hpass, hslice⟩ := word_eq h hc hfuel
  rw [number, hpass]
  show (slice chars i _).bind _ = _
  rw [hslice]
  show (match Decimal.Numeral.read? _ with | some n => _ | none => _) = _
  cases Decimal.Numeral.read? (c :: rest.takeWhile inNumber) <;> rfl

/-- A mark is found by the three characters ahead. -/
theorem mark_eq (line : Nat) (h : chars.drop i = c :: rest) :
    mark chars line i c = indexed chars line (match symbol? (c :: rest) with
      | some found => .ok found
      | none => .error (.unexpectedCharacter c)) := by
  have hlength := length_of_drop h (lt_of_drop h).le
  rw [mark, take_three h, symbol?_eq_find?]
  cases hfind : symbols.find? (·.1.isPrefixOf ((c :: rest).take 3)) with
  | none => rfl
  | some entry =>
    have hahead : entry.1.isPrefixOf ((c :: rest).take 3) :=
      (List.find?_eq_some_iff_append.1 hfind).1
    have hle := ((List.isPrefixOf_iff_prefix.1 hahead).trans (List.take_prefix 3 _)).length_le
    have hstop : i + entry.1.length = startOf chars ((c :: rest).drop entry.1.length) := by
      rw [startOf, List.length_drop]
      omega
    show Except.ok (entry.2, i + entry.1.length) = _
    rw [hstop]
    rfl

/-- The token at an index is the lexeme of the characters that remain. -/
theorem token_eq (line : Nat) (h : chars.drop i = c :: rest) (hfuel : chars.length < fuel + i) :
    token chars fuel line i c = indexed chars line (lexeme c rest) := by
  have hnext : chars[i + 1]? = rest.head? := by rw [← List.head?_drop, drop_succ h]
  unfold token lexeme
  -- The cases are those of `lexeme`: a text, a backtick, a number, a name, a mark.
  rw [hnext]
  split
  case isTrue => exact text_eq line h hfuel
  case isFalse =>
    split
    case isTrue => rfl
    case isFalse =>
      show (if startsNumber c rest then _ else _) = _
      split
      case isTrue hstart => exact number_eq line h (inNumber_of_startsNumber hstart) hfuel
      case isFalse =>
        split
        case isTrue hstart =>
          obtain ⟨hpass, hslice⟩ := word_eq h (inName_of_startsName hstart) hfuel
          rw [word, hpass]
          show (slice chars i _).bind _ = _
          rw [hslice]
          rfl
        case isFalse => exact mark_eq line h

/-! ### Rounds -/

/-- Two texts that skip alike give the same tokens. -/
theorem tokenizeFrom_congr {cs cs' : List Char} (done : List Located)
    (h : skip line cs = skip line' cs') :
    tokenizeFrom done line cs = tokenizeFrom done line' cs' := by
  rw [tokenizeFrom_eq, h, ← tokenizeFrom_eq]

/-- A line comment is passed over up to the end of its line. -/
theorem skip_lineComment (line : Nat) (cs : List Char) :
    skip line ('/' :: '/' :: cs) = skip line (cs.dropWhile onLine) := by
  rw [skip]

/-- A block comment is passed over, and skipping goes on behind it. -/
theorem skip_comment (line : Nat) (cs : List Char) :
    skip line ('/' :: '*' :: cs) = (skipComment line cs).bind fun r => skip r.1 r.2 := by
  rw [skip]
  split
  case h_1 h => rw [h]; rfl
  case h_2 h => rw [h]; rfl

/-- What a round comes to leads to the same tokens, or to the same fault. -/
inductive Leads (chars : List Char) (line i : Nat) (done : List Located) : Except Stop Round → Prop
  | on (r : Round) (hi : i < r.index) (hwithin : r.index ≤ chars.length)
    (hr : tokenizeFrom done line (chars.drop i) =
      tokenizeFrom ((r.found.map (⟨·, line⟩)).toList ++ done) r.line (chars.drop r.index)) :
    Leads chars line i done (.ok r)
  | off (e : SyntaxError) (he : tokenizeFrom done line (chars.drop i) = .error e) :
    Leads chars line i done (.error (.fault e))

/-- Something is passed over. -/
theorem Leads.over {done : List Located} (hi : i < chars.length)
    (hrest : rest <:+ chars.drop (i + 1)) (h : skip line (chars.drop i) = skip line' rest) :
    Leads chars line i done (.ok ⟨line', startOf chars rest, none⟩) := by
  -- The rest is shorter than what was there, so the round gets ahead.
  have hlength := hrest.length_le
  rw [List.length_drop] at hlength
  refine .on _ ?_ (Nat.sub_le _ _) ?_
  · show i < startOf chars rest
    rw [startOf]
    omega
  · show _ = tokenizeFrom done line' (chars.drop (startOf chars rest))
    rw [drop_startOf hrest]
    exact tokenizeFrom_congr done h

/-- A line comment leads behind itself. -/
theorem leads_lineComment {done : List Located} (h : chars.drop i = '/' :: '/' :: rest)
    (hfuel : chars.length < fuel + i) : Leads chars line i done
      ((passWhile chars onLine fuel i).map (⟨line, ·, none⟩)) := by
  have hpass := passWhile_eq onLine (lt_of_drop h).le hfuel
  rw [h, List.dropWhile_cons_of_pos (by decide), List.dropWhile_cons_of_pos (by decide)] at hpass
  rw [hpass]
  refine Leads.over (lt_of_drop h) ?_ (h ▸ skip_lineComment line rest)
  exact drop_succ h ▸ (List.dropWhile_suffix onLine).trans (List.suffix_cons '/' rest)

/-- A block comment leads behind itself, or to its fault. -/
theorem leads_comment {done : List Located} (h : chars.drop i = '/' :: '*' :: rest)
    (hfuel : chars.length < fuel + i) : Leads chars line i done
      ((passComment chars fuel line (i + 2)).map fun r => ⟨r.1, r.2, none⟩) := by
  have hrest := drop_succ h
  have hpass : passComment chars fuel line (i + 2) = _ :=
    passComment_eq (lt_of_drop hrest) (by omega)
  rw [hpass, drop_succ hrest]
  cases hskip : skipComment line rest with
  | error e =>
    refine .off e ?_
    rw [h, tokenizeFrom_eq, skip_comment, hskip]
    rfl
  | ok r =>
    have hsuffix := (skipComment_counts hskip).suffix
    refine Leads.over (lt_of_drop h) (hrest ▸ hsuffix.trans (List.suffix_cons '*' rest)) ?_
    rw [h, skip_comment, hskip]
    rfl

/-- A token is found, or its fault. -/
theorem leads_token {done : List Located} (h : chars.drop i = c :: rest)
    (hskip : skip line (c :: rest) = .ok (line, c :: rest)) (hfuel : chars.length < fuel + i) :
    Leads chars line i done ((token chars fuel line i c).map fun r => ⟨line, r.2, some r.1⟩) := by
  have hi := lt_of_drop h
  rw [token_eq line h hfuel]
  cases ht : lexeme c rest with
  | error f =>
    refine .off ⟨line, f⟩ ?_
    rw [h, tokenizeFrom_eq, hskip]
    simp only [ht]
  | ok r =>
    have hsuffix : r.2 <:+ chars.drop (i + 1) := drop_succ h ▸ lexeme_suffix ht
    have hlength := hsuffix.length_le
    rw [List.length_drop] at hlength
    refine .on ⟨line, startOf chars r.2, some r.1⟩ ?_ (Nat.sub_le _ _) ?_
    · show i < startOf chars r.2
      rw [startOf]
      omega
    · rw [h, tokenizeFrom_cons done line hskip ht, drop_startOf hsuffix]
      rfl

/-- A round of the scanner leads to the tokens that the text is split into. -/
theorem round_leads (done : List Located) (h : chars.drop i = c :: rest)
    (hfuel : chars.length < fuel + i) : Leads chars line i done (round chars fuel line i) := by
  have hi := lt_of_drop h
  have hrest := drop_succ h
  have hnext : chars[i + 1]? = rest.head? := by rw [← List.head?_drop, hrest]
  have hover {line' : Nat} (hskip : skip line (c :: rest) = skip line' rest) :
      Leads chars line i done (.ok ⟨line', i + 1, none⟩) := by
    have hone : Leads chars line i done (.ok ⟨line', startOf chars rest, none⟩) :=
      Leads.over hi (hrest ▸ List.suffix_rfl) (h ▸ hskip)
    rwa [startOf_of_drop hrest hi] at hone
  -- Feeds and blanks are looked for before comments here, and behind them in `skip`.
  rw [round, charAt_of_drop h, hnext]
  show Leads chars line i done (if c = '\n' then _ else _)
  split
  case isTrue hfeed =>
    refine hover ?_
    rw [skip_of_no_comment (fun hslash => absurd (hfeed.symm.trans hslash) (by decide)),
      if_pos hfeed]
  case isFalse hfeed =>
    split
    case isTrue hblank =>
      have hslash : c ≠ '/' := by
        rintro rfl
        exact absurd hblank (by decide)
      refine hover ?_
      rw [skip_of_no_comment (fun h => absurd h hslash), if_neg hfeed, if_pos hblank]
    case isFalse hblank =>
      split
      case isTrue hline =>
        obtain ⟨rfl, hhead⟩ := hline
        obtain ⟨rest', rfl⟩ := List.head?_eq_some_iff.1 hhead
        exact leads_lineComment h hfuel
      case isFalse hline =>
        split
        case isTrue hcomment =>
          obtain ⟨rfl, hhead⟩ := hcomment
          obtain ⟨rest', rfl⟩ := List.head?_eq_some_iff.1 hhead
          exact leads_comment h hfuel
        case isFalse hcomment =>
          refine leads_token h ?_ hfuel
          rw [skip_of_no_comment, if_neg hfeed, if_neg hblank]
          refine fun hc d hd => ⟨?_, ?_⟩
          · rintro rfl
            exact hline ⟨hc, hd⟩
          · rintro rfl
            exact hcomment ⟨hc, hd⟩

/-- **The scanner that goes by index finds the tokens that the text is split into.** It makes no
misstep, and each round gets ahead. -/
theorem scan_eq (done : List Located) (hi : i ≤ chars.length)
    (hfuel : chars.length + 2 ≤ fuel + i) :
    scan chars fuel line i done = (tokenizeFrom done line (chars.drop i)).mapError .fault := by
  induction fuel generalizing line i done with
  | zero => omega
  | succ fuel ih =>
    cases h : chars.drop i with
    | nil =>
      have hend : ¬i < chars.length := Nat.not_lt.2 (List.drop_eq_nil_iff.1 h)
      rw [scan, if_neg hend, tokenizeFrom_nil]
      rfl
    | cons c rest =>
      have hround : Leads chars line i done (round chars fuel line i) :=
        round_leads done h (by omega)
      rw [scan, if_pos (lt_of_drop h), ← h]
      generalize round chars fuel line i = r at hround
      cases hround with
      | on r hless hwithin hr =>
        rw [hr, ← ih _ hwithin (by omega)]
        exact if_neg (Nat.not_le.2 hless)
      | off e he =>
        rw [he]
        rfl

end Scanner

namespace Lexer

variable {line line' : Nat} {cs rest : List Char} {ts : List Located} {t : Token} {e : SyntaxError}

/-! ### Lines -/

/-- A token takes its line feeds off and adds none. -/
theorem lexeme_counts {c : Char} (h : lexeme c cs = .ok (t, rest)) :
    rest.count '\n' ≤ (c :: cs).count '\n' :=
  ((lexeme_suffix h).trans (List.suffix_cons c cs)).sublist.count_le '\n'

/-- The tokens of a text are on lines of it, and there are no more of them than characters. -/
theorem Lexes.lines (h : Lexes line cs ts) :
    ts.length ≤ cs.length ∧ ∀ t ∈ ts, line ≤ t.line ∧ t.line ≤ line + cs.count '\n' := by
  induction h with
  | done h => exact ⟨Nat.zero_le _, nofun⟩
  | @token line line' c cs rest rest' t ts hskip ht _ ih =>
    have hcounts := skip_counts hskip
    have hlength := skip_length hskip
    have hless := lexeme_length ht
    have hfeeds := lexeme_counts ht
    rw [List.length_cons] at hlength
    refine ⟨by rw [List.length_cons]; omega, List.forall_mem_cons.2 ⟨?_, fun t' ht' => ?_⟩⟩
    · exact hcounts.within ⟨Nat.le_refl _, Nat.le_add_right _ _⟩
    · have hline := ih.2 t' ht'
      exact hcounts.within ⟨hline.1, hline.2.trans (Nat.add_le_add_left hfeeds line')⟩

/-- A fault in a text is on a line of it. -/
theorem line_of_tokenizeFrom {done : List Located} (h : tokenizeFrom done line cs = .error e) :
    line ≤ e.line ∧ e.line ≤ line + cs.count '\n' := by
  fun_induction tokenizeFrom done line cs with
  | case1 done line cs e' hskip =>
    cases h
    exact line_of_skip hskip
  | case2 => cases h
  | case3 done line cs line' c rest hskip f =>
    cases h
    exact (skip_counts hskip).within ⟨Nat.le_refl _, Nat.le_add_right _ _⟩
  | case4 done line cs line' c rest hskip t rest' ht ih =>
    have hline := ih h
    have hfeeds := lexeme_counts ht
    exact (skip_counts hskip).within ⟨hline.1, hline.2.trans (Nat.add_le_add_left hfeeds line')⟩

end Lexer

end Dialogue.Script
