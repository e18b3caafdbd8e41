import Dialogue.Proofs.Script.Embedded

namespace Dialogue.Script

open Dialogue.Script.Parser

/-!
# Tokens as they are spelled

A name is spelled as it is, a keyword or a mark in one way, a declaration by one of three words, and
a text in either kind of quotes, with its backslashes, its line feeds and the quotes of that kind
escaped. Numbers are left out. With blanks between them spelled tokens are read one by one: a blank
goes on with no token, and begins no comment behind a slash.

* `IsName`, `escapedIn`: what names are; a character between quotes.
* `Token.SpelledAs`: how a token may be spelled. `Token.exists_spelling_iff`: what can be.
* `Lexer.takeText_escapedIn`, `Lexer.lexeme_word`: texts and words are read as what they spell.
* `spelled_tokens_are_read_back`: so are tokens with single blanks between them.
-/

/-! ### Spellings -/

/-- The words that are no names. -/
def keywords : List String :=
  ["let", "const", "var", "if", "else", "while", "return", "throw", "true", "false", "null",
    "undefined"]

/-- A name begins with a letter, an underscore or a dollar sign, goes on with these and with
numbers, and is no keyword. -/
structure IsName (name : String) : Prop where
  chars : ∃ c rest, name.toList = c :: rest ∧
    (Unicode.isAlphabetic c ∨ c = '_' ∨ c = '$') ∧
    ∀ d ∈ rest, Unicode.isAlphanumeric d ∨ d = '_' ∨ d = '$'
  no_keyword : name ∉ keywords

/-- A character of a text as it is written between quotes: the quotes themselves, backslashes and
line feeds are escaped. -/
def escapedIn (quote c : Char) : List Char :=
  if c = quote ∨ c = '\\' then ['\\', c] else if c = '\n' then ['\\', 'n'] else [c]

/-- The characters of a text behind the opening quote. -/
def charsIn (quote : Char) (value : List Char) : List Char :=
  value.flatMap (escapedIn quote) ++ [quote]

namespace Token

/-- How keywords are spelled, apart from declarations, which have three words. -/
def keyword? : Token → Option String
  | ifWord => some "if"
  | elseWord => some "else"
  | whileWord => some "while"
  | returnWord => some "return"
  | throwWord => some "throw"
  | trueWord => some "true"
  | falseWord => some "false"
  | nullWord => some "null"
  | undefinedWord => some "undefined"
  | _ => none

/-- How operators and punctuation are spelled. -/
def mark? : Token → Option String
  | openParen => some "("
  | closeParen => some ")"
  | openBrace => some "\x7b"
  | closeBrace => some "\x7d"
  | openBracket => some "["
  | closeBracket => some "]"
  | comma => some ","
  | semicolon => some ";"
  | dot => some "."
  | question => some "?"
  | colon => some ":"
  | assign => some "="
  | plusAssign => some "+="
  | equal => some "=="
  | strictEqual => some "==="
  | notEqual => some "!="
  | strictNotEqual => some "!=="
  | less => some "<"
  | greater => some ">"
  | lessEqual => some "<="
  | greaterEqual => some ">="
  | plus => some "+"
  | minus => some "-"
  | star => some "*"
  | slash => some "/"
  | percent => some "%"
  | not => some "!"
  | and => some "&&"
  | or => some "||"
  | _ => none

/-- A token may be spelled by a text. -/
inductive SpelledAs : Token → String → Prop
  | name {name : String} (h : IsName name) : SpelledAs (.ident name) name
  | text (value : String) {quote : Char} (h : quote = '"' ∨ quote = '\'') :
    SpelledAs (.text value) (String.ofList (quote :: charsIn quote value.toList))
  | declare {word : String} (h : word ∈ ["let", "const", "var"]) : SpelledAs .declare word
  | keyword {t : Token} {word : String} (h : t.keyword? = some word) : SpelledAs t word
  | mark {t : Token} {mark : String} (h : t.mark? = some mark) : SpelledAs t mark

/-- A token is no number, and what it names is a name. -/
def IsSpellable : Token → Prop
  | number _ => False
  | ident name => IsName name
  | _ => True

/-- The tokens that can be spelled. -/
theorem exists_spelling_iff {t : Token} : (∃ s, t.SpelledAs s) ↔ t.IsSpellable := by
  constructor
  · rintro ⟨s, h⟩
    cases h with
    | name h => exact h
    | text => trivial
    | declare => trivial
    | keyword h => cases t <;> trivial
    | mark h => cases t <;> trivial
  · intro h
    cases t with
    | number bits => cases h
    | ident name => exact ⟨name, .name h⟩
    | text value => exact ⟨_, .text value (.inl rfl)⟩
    | declare => exact ⟨"let", .declare List.mem_cons_self⟩
    | ifWord | elseWord | whileWord | returnWord | throwWord | trueWord | falseWord | nullWord
    | undefinedWord => exact ⟨_, .keyword rfl⟩
    | _ => exact ⟨_, .mark rfl⟩

end Token

/-! ### Single tokens are read back -/

namespace Lexer

variable {line : Nat} {c quote : Char} {cs rest : List Char} {ts : List Located} {t : Token}

/-- What follows is the end, or a blank. -/
def Apart (rest : List Char) : Prop := rest = [] ∨ ∃ more, rest = ' ' :: more

/-- An escaped character is read as the character. -/
theorem takeText_escapedIn (hquote : quote = '"' ∨ quote = '\'') (c : Char)
    (done rest : List Char) :
    takeText quote done (escapedIn quote c ++ rest) = takeText quote (c :: done) rest := by
  unfold escapedIn
  -- What must be escaped is read back by its escape; everything else stands for itself.
  by_cases hmark : c = quote ∨ c = '\\'
  · rw [if_pos hmark]
    rcases hquote with rfl | rfl <;> rcases hmark with rfl | rfl <;> rfl
  · rw [if_neg hmark]
    obtain ⟨hend, hescape⟩ := not_or.1 hmark
    by_cases hfeed : c = '\n'
    · rw [if_pos hfeed, hfeed]
      rcases hquote with rfl | rfl <;> rfl
    · rw [if_neg hfeed, List.singleton_append, takeText_cons, if_neg hend, if_neg hfeed,
        if_neg hescape]

/-- What is written between quotes is read back. -/
theorem takeText_charsIn (hquote : quote = '"' ∨ quote = '\'') (value done rest : List Char) :
    takeText quote done (charsIn quote value ++ rest) = some (done.reverse ++ value, rest) := by
  induction value generalizing done with
  | nil =>
    show takeText quote done (quote :: rest) = _
    rw [takeText_cons, if_pos rfl, List.append_nil]
  | cons c value ih =>
    have hcons : charsIn quote (c :: value) = escapedIn quote c ++ charsIn quote value :=
      List.append_assoc _ _ _
    rw [hcons, List.append_assoc, takeText_escapedIn hquote, ih]
    simp

/-- A text in quotes is read back with the escapes resolved. -/
theorem lexeme_text (hquote : quote = '"' ∨ quote = '\'') (value : String) (rest : List Char) :
    lexeme quote (charsIn quote value.toList ++ rest) = .ok (.text value, rest) := by
  rw [lexeme, if_pos hquote, takeText_charsIn hquote]
  simp

/-- What a name begins with is neither a blank nor a digit. -/
theorem startsName_apart (h : startsName c) : Unicode.isBlank c = false ∧ c.isDigit = false := by
  -- ASCII is looked through; above it only letters start names, and no digit is there.
  by_cases hascii : c.toNat < 128
  · have hall : ∀ n < 128, startsName (Char.ofNat n) →
        Unicode.isBlank (Char.ofNat n) = false ∧ (Char.ofNat n).isDigit = false := by decide
    have hc := hall c.toNat hascii
    rw [Char.ofNat_toNat] at hc
    exact hc h
  · constructor
    · unfold startsName at h
      simp only [Bool.or_eq_true, beq_iff_eq] at h
      obtain (h | rfl) | rfl := h
      · rw [Unicode.isAlphabetic, if_neg hascii, Bool.and_eq_true] at h
        simpa using h.1
      · exact absurd (by decide) hascii
      · exact absurd (by decide) hascii
    · by_contra hdigit
      have hbound : 48 ≤ c.toNat ∧ c.toNat ≤ 57 := by
        simpa [Char.isDigit, UInt32.le_iff_toNat_le] using hdigit
      omega

/-- What starts a name is not a character that starts none. -/
theorem ne_of_startsName {d : Char} (h : startsName c) (hd : startsName d = false) : c ≠ d := by
  rintro rfl
  rw [h] at hd
  cases hd

/-- A word ends where a blank follows. -/
theorem takeWhile_word (hcs : ∀ d ∈ cs, inName d) (hrest : Apart rest) :
    (cs ++ rest).takeWhile inName = cs ∧ (cs ++ rest).dropWhile inName = rest := by
  have hblank : inName ' ' = false := by decide
  rw [List.takeWhile_append_of_pos hcs, List.dropWhile_append_of_pos hcs]
  rcases hrest with rfl | ⟨more, rfl⟩
  · simp
  · simp [hblank]

/-- A word in front of a blank is read as the token of the word. -/
theorem lexeme_word (hc : startsName c) (hcs : ∀ d ∈ cs, inName d) (hrest : Apart rest) :
    lexeme c (cs ++ rest) = .ok (ofWord (String.ofList (c :: cs)), rest) := by
  obtain ⟨-, hdigit⟩ := startsName_apart hc
  obtain ⟨htake, hdrop⟩ := takeWhile_word hcs hrest
  -- None of the branches before that of names takes the character.
  have hquote : ¬(c = '"' ∨ c = '\'') :=
    not_or.2 ⟨ne_of_startsName hc (by decide), ne_of_startsName hc (by decide)⟩
  have hnumber : startsNumber c (cs ++ rest) = false := by
    have hdot : (c == '.') = false := beq_false_of_ne (ne_of_startsName hc (by decide))
    rw [startsNumber, hdigit, hdot]
    rfl
  rw [lexeme, if_neg hquote, if_neg (ne_of_startsName hc (by decide)), hnumber, if_neg nofun,
    if_pos hc, htake, hdrop]

/-! ### Tokens in front of others -/

/-- A word is read as a token of its own. -/
theorem lexes_word {word : String} (hchars : word.toList = c :: cs) (hc : startsName c)
    (hcs : cs.all inName) (hrest : Apart rest) (h : Lexes line rest ts) :
    Lexes line (word.toList ++ rest) (⟨ofWord word, line⟩ :: ts) := by
  have hword : word = String.ofList (c :: cs) := by rw [← hchars, String.ofList_toList]
  have hlexeme := lexeme_word hc (List.all_eq_true.1 hcs) hrest
  rw [← hword] at hlexeme
  rw [hchars]
  exact .cons (ne_of_startsName hc (by decide)) (ne_of_startsName hc (by decide))
    (startsName_apart hc).1 hlexeme h

/-- A mark in front of a blank is read by itself. Behind a slash the blank begins no comment. -/
theorem lexes_mark (hfeed : c ≠ '\n') (hblank : Unicode.isBlank c = false)
    (hslash : c = '/' → cs = []) (ht : lexeme c (cs ++ rest) = .ok (t, rest)) (hrest : Apart rest)
    (h : Lexes line rest ts) : Lexes line (c :: cs ++ rest) (⟨t, line⟩ :: ts) := by
  refine .token ?_ ht h
  -- A slash stands alone, and what follows is a blank or nothing, so no comment begins.
  have hcomment : c = '/' → ∀ d, (cs ++ rest).head? = some d → d ≠ '/' ∧ d ≠ '*' := by
    intro hc d hd
    rw [hslash hc] at hd
    rcases hrest with rfl | ⟨more, rfl⟩
    · cases hd
    · cases hd
      decide
  rw [List.cons_append, skip_of_no_comment hcomment, if_neg hfeed, hblank, if_neg nofun]

/-- A name that is no keyword is read as a name. -/
theorem ofWord_of_not_mem {name : String} (h : name ∉ keywords) : ofWord name = .ident name := by
  unfold ofWord
  split <;> first | rfl | simp [keywords] at h

/-- What a token is spelled as is read as that token, in front of the end or a blank. -/
theorem Lexes.spelled {s : String} (ht : t.SpelledAs s) (hrest : Apart rest)
    (h : Lexes line rest ts) : Lexes line (s.toList ++ rest) (⟨t, line⟩ :: ts) := by
  cases ht with
  | name hname =>
    obtain ⟨⟨c, cs, hchars, hc, hcs⟩, hkeyword⟩ := hname
    have hstarts : startsName c := by simpa [startsName, or_assoc] using hc
    have hin : ∀ d ∈ cs, inName d := fun d hd => by simpa [inName, or_assoc] using hcs d hd
    rw [← ofWord_of_not_mem hkeyword]
    exact lexes_word hchars hstarts (List.all_eq_true.2 hin) hrest h
  | text value hquote =>
    rw [String.toList_ofList, List.cons_append]
    have htext := lexeme_text hquote value rest
    rcases hquote with rfl | rfl
    · exact .cons (by decide) (by decide) (by decide) htext h
    · exact .cons (by decide) (by decide) (by decide) htext h
  | declare hword =>
    simp only [List.mem_cons, List.not_mem_nil, or_false] at hword
    rcases hword with rfl | rfl | rfl <;> exact lexes_word rfl (by decide) (by decide) hrest h
  | keyword hword =>
    cases t <;> cases hword <;> exact lexes_word rfl (by decide) (by decide) hrest h
  | mark hmark =>
    -- Whether the end or a blank follows, the longest mark is the one that is spelled.
    cases t <;> cases hmark <;>
      exact lexes_mark (by decide) (by decide) (by decide)
        (by rcases hrest with rfl | ⟨more, rfl⟩ <;> rfl) hrest h

/-- Spelled tokens with single blanks between them are read one by one. -/
theorem Lexes.spelledAll {ts : List Token} {words : List String}
    (h : List.Forall₂ Token.SpelledAs ts words) :
    Lexes line (" ".intercalate words).toList (Parser.onLine line ts) := by
  have hend : Lexes line [] [] := .done (by rw [skip])
  rw [String.toList_intercalate]
  -- On the words. The last one stands at the end of the text, the others before a blank.
  induction h with
  | nil => exact hend
  | @cons t word ts words ht h ih =>
    cases h with
    | nil =>
      rw [List.map_singleton, List.intercalate_singleton, ← List.append_nil word.toList]
      exact .spelled ht (.inl rfl) hend
    | cons ht' h =>
      rw [List.map_cons, List.map_cons, List.intercalate_cons_cons, List.append_assoc]
      exact .spelled ht (.inr ⟨_, rfl⟩) ih.blank

end Lexer

/-! ### Tokens with blanks between them -/

/-- **Lexing inverts spelling.** Tokens without numbers can be spelled, and however they are
spelled, with single blanks between them they are read back, all on the first line. -/
theorem spelled_tokens_are_read_back (ts : List Token) :
    ((∀ t ∈ ts, t.IsSpellable) → ∃ words, List.Forall₂ Token.SpelledAs ts words) ∧
      ∀ words, List.Forall₂ Token.SpelledAs ts words →
        tokenize (" ".intercalate words) = .ok (onLine 1 ts) := by
  refine ⟨fun h => ?_, fun words h => Lexer.tokenize_eq_ok_iff.2 (Lexer.Lexes.spelledAll h)⟩
  induction ts with
  | nil => exact ⟨[], .nil⟩
  | cons t ts ih =>
    obtain ⟨ht, hts⟩ := List.forall_mem_cons.1 h
    obtain ⟨word, hword⟩ := Token.exists_spelling_iff.2 ht
    obtain ⟨words, hwords⟩ := ih hts
    exact ⟨word :: words, .cons hword hwords⟩

/-- Slashes, equals signs and quotes next to one another, and a text that ends with a backslash. -/
theorem spelled_tokens_are_read_back_line :
    let ts : List Token := [.declare, .ident "$size_2", .assign, .text "it's\n\"\\", .slash, .slash,
      .star, .text "", .equal, .strictEqual, .returnWord]
    let words := ["const", "$size_2", "=", "\"it's\\n\\\"\\\\\"", "/", "/", "*", "''", "==", "===",
      "return"]
    (∀ t ∈ ts, t.IsSpellable) ∧ List.Forall₂ Token.SpelledAs ts words ∧
      tokenize (" ".intercalate words) = .ok (onLine 1 ts) := by
  intro ts words
  have hall : "size_2".toList.all Lexer.inName := by decide
  have hrest : ∀ d ∈ "size_2".toList, Unicode.isAlphanumeric d ∨ d = '_' ∨ d = '$' :=
    fun d hd => by
      simpa [Lexer.inName, or_assoc] using List.all_eq_true.1 hall d hd
  -- The spellings are given one by one; the theorem reads them back.
  have hname : IsName "$size_2" := ⟨⟨'$', "size_2".toList, rfl, by decide, hrest⟩, by decide⟩
  have hwords : List.Forall₂ Token.SpelledAs ts words :=
    .cons (.declare (by decide)) <| .cons (.name hname) <| .cons (.mark rfl) <|
    .cons (.text _ (.inl rfl)) <| .cons (.mark rfl) <| .cons (.mark rfl) <| .cons (.mark rfl) <|
    .cons (.text _ (.inr rfl)) <| .cons (.mark rfl) <| .cons (.mark rfl) <|
    .cons (.keyword rfl) .nil
  refine ⟨?_, hwords, (spelled_tokens_are_read_back ts).2 words hwords⟩
  simp [ts, Token.IsSpellable, hname]

end Dialogue.Script
