import Dialogue.Decimal.Numeral
import Dialogue.Script.Token

namespace Dialogue.Script

/-!
# From text to tokens

Lines are counted by the line feeds between tokens. Blanks and comments are passed over; a comment
runs to the end of its line, or from `/*` to the next `*/`. Texts stand in either kind of quotes
and end on the line they begin on.

* `Lexer.skip`: passes over blanks and comments.
* `Lexer.lexeme`: takes one token off.
* `tokenize`: all tokens of a script, each with its line.
-/

namespace Lexer

/-- Passes over a comment up to its end mark; counts the lines it spans. -/
def skipComment (line : Nat) : List Char → Except SyntaxError (Nat × List Char)
  | '*' :: '/' :: rest => .ok (line, rest)
  | c :: rest => skipComment (if c = '\n' then line + 1 else line) rest
  | [] => .error ⟨line, .unterminatedComment⟩

theorem skipComment_length {line line' : Nat} {cs rest : List Char}
    (h : skipComment line cs = .ok (line', rest)) : rest.length ≤ cs.length := by
  fun_induction skipComment line cs with
  | case1 line rest =>
    simp only [Except.ok.injEq, Prod.mk.injEq] at h
    simp [← h.2]
    omega
  | case2 line c rest _ ih =>
    have := ih h
    simp
    omega
  | case3 => simp at h

/-- What a comment to the end of the line consists of. -/
def onLine (c : Char) : Bool := c != '\n'

/-- Passes over blanks and comments. -/
def skip (line : Nat) (cs : List Char) : Except SyntaxError (Nat × List Char) :=
  match cs with
  | [] => .ok (line, [])
  | '/' :: '/' :: rest => skip line (rest.dropWhile onLine)
  | '/' :: '*' :: rest =>
    match _h : skipComment line rest with
    | .ok (line, rest) => skip line rest
    | .error e => .error e
  | c :: rest =>
    if c = '\n' then skip (line + 1) rest
    else if Unicode.isBlank c then skip line rest
    else .ok (line, c :: rest)
termination_by cs.length
decreasing_by
  · have := (List.dropWhile_sublist onLine (l := rest)).length_le
    simp
    omega
  · have := skipComment_length _h
    simp
    omega
  · simp
  · simp

/-- The character that an escape stands for. -/
def unescape : Char → Char
  | 'n' => '\n'
  | 't' => '\t'
  | 'r' => '\r'
  | '0' => '\x00'
  | c => c

/-- Reads a text up to the quote that ends it; `done` is what was read, in reverse. -/
def takeText (quote : Char) (done : List Char) : List Char → Option (List Char × List Char)
  | [] => none
  | c :: rest =>
    if c = quote then some (done.reverse, rest)
    else if c = '\n' then none
    else if c = '\\' then
      -- Whatever is escaped stands for a character, be it a line feed.
      match rest with
      | [] => none
      | e :: rest => takeText quote (unescape e :: done) rest
    else takeText quote (c :: done) rest

theorem takeText_length {quote : Char} {done text cs rest : List Char}
    (h : takeText quote done cs = some (text, rest)) : rest.length < cs.length := by
  fun_induction takeText quote done cs <;> simp_all <;> omega

/-- What a number consists of. -/
def inNumber (c : Char) : Bool := c.isDigit || c == '.'

/-- What a name begins with. -/
def startsName (c : Char) : Bool := Unicode.isAlphabetic c || c == '_' || c == '$'

/-- What a name goes on with. -/
def inName (c : Char) : Bool := Unicode.isAlphanumeric c || c == '_' || c == '$'

/-- The token of a word: a keyword or a name. -/
def ofWord (word : String) : Token :=
  match word with
  | "let" | "const" | "var" => .declare
  | "if" => .ifWord
  | "else" => .elseWord
  | "while" => .whileWord
  | "return" => .returnWord
  | "throw" => .throwWord
  | "true" => .trueWord
  | "false" => .falseWord
  | "null" => .nullWord
  | "undefined" => .undefinedWord
  | name => .ident name

/-- Operators and punctuation as they are spelled; a mark stands before those it begins with. -/
def symbols : List (List Char × Token) :=
  [ (['=', '=', '='], .strictEqual),
    (['!', '=', '='], .strictNotEqual),
    (['=', '='], .equal),
    (['!', '='], .notEqual),
    (['<', '='], .lessEqual),
    (['>', '='], .greaterEqual),
    (['&', '&'], .and),
    (['|', '|'], .or),
    (['+', '='], .plusAssign),
    (['='], .assign),
    (['<'], .less),
    (['>'], .greater),
    (['+'], .plus),
    (['-'], .minus),
    (['*'], .star),
    (['/'], .slash),
    (['%'], .percent),
    (['!'], .not),
    (['('], .openParen),
    ([')'], .closeParen),
    (['\x7b'], .openBrace),
    (['\x7d'], .closeBrace),
    (['['], .openBracket),
    ([']'], .closeBracket),
    ([','], .comma),
    ([';'], .semicolon),
    (['.'], .dot),
    (['?'], .question),
    ([':'], .colon) ]

/-- The longest operator or punctuation mark at the head of a text. -/
def symbol? (cs : List Char) : Option (Token × List Char) :=
  symbols.findSome? fun entry =>
    if entry.1.isPrefixOf cs then some (entry.2, cs.drop entry.1.length) else none

/-- Whether a number begins here: with a digit, or with a point and a digit. -/
def startsNumber (c : Char) (rest : List Char) : Bool :=
  c.isDigit || (c == '.' && rest.head?.any Char.isDigit)

/-- Takes one token off a text that begins with neither a blank nor a comment. -/
def lexeme (c : Char) (rest : List Char) : Except SyntaxFault (Token × List Char) :=
  if c = '"' ∨ c = '\'' then
    match takeText c [] rest with
    | some (text, rest) => .ok (.text (String.ofList text), rest)
    | none => .error .unterminatedText
  else if c = '\x60' then .error .templateLiteral
  else if startsNumber c rest then
    match Decimal.Numeral.read? (c :: rest.takeWhile inNumber) with
    | some n => .ok (.number n.bits, rest.dropWhile inNumber)
    | none => .error (.badNumber (String.ofList (c :: rest.takeWhile inNumber)))
  else if startsName c then
    .ok (ofWord (String.ofList (c :: rest.takeWhile inName)), rest.dropWhile inName)
  else
    match symbol? (c :: rest) with
    | some found => .ok found
    | none => .error (.unexpectedCharacter c)

theorem length_symbols : ∀ entry ∈ symbols, 0 < entry.1.length := by decide

theorem symbol?_length {c : Char} {cs rest : List Char} {t : Token}
    (h : symbol? (c :: cs) = some (t, rest)) : rest.length ≤ cs.length := by
  obtain ⟨entry, hmem, h⟩ := List.exists_of_findSome?_eq_some h
  have hlength := length_symbols entry hmem
  split at h
  · simp only [Option.some.injEq, Prod.mk.injEq] at h
    rw [← h.2, List.length_drop, List.length_cons]
    omega
  · cases h

theorem lexeme_length {c : Char} {cs rest : List Char} {t : Token}
    (h : lexeme c cs = .ok (t, rest)) : rest.length ≤ cs.length := by
  unfold lexeme at h
  split at h
  · split at h
    · rename_i htext
      have := takeText_length htext
      simp_all
      omega
    · simp at h
  · split at h
    · simp at h
    · split at h
      · split at h
        · simp only [Except.ok.injEq, Prod.mk.injEq] at h
          exact h.2 ▸ (List.dropWhile_sublist _).length_le
        · simp at h
      · split at h
        · simp only [Except.ok.injEq, Prod.mk.injEq] at h
          exact h.2 ▸ (List.dropWhile_sublist _).length_le
        · split at h
          · rename_i hsymbol
            simp only [Except.ok.injEq] at h
            exact symbol?_length (h ▸ hsymbol)
          · simp at h

theorem skip_length {line line' : Nat} {cs rest : List Char}
    (h : skip line cs = .ok (line', rest)) : rest.length ≤ cs.length := by
  fun_induction skip line cs with
  | case1 => simp_all
  | case2 line rest ih =>
    have h1 := ih h
    have h2 := (List.dropWhile_sublist onLine (l := rest)).length_le
    simp
    omega
  | case3 line rest line'' rest' hc ih =>
    have h1 := ih h
    have h2 := skipComment_length hc
    simp
    omega
  | case4 => simp at h
  | case5 line rest _ _ ih =>
    have := ih h
    simp
    omega
  | case6 line c rest _ _ _ _ ih =>
    have := ih h
    simp
    omega
  | case7 => simp_all

/-- The tokens of a text that begins on a line, in front of `done`, which holds earlier tokens in
reverse. -/
def tokenizeFrom (done : List Located) (line : Nat) (cs : List Char) :
    Except SyntaxError (List Located) :=
  match _hskip : skip line cs with
  | .error e => .error e
  | .ok (_, []) => .ok done.reverse
  | .ok (line, c :: rest) =>
    match _h : lexeme c rest with
    | .error fault => .error ⟨line, fault⟩
    | .ok (t, rest) => tokenizeFrom (⟨t, line⟩ :: done) line rest
termination_by cs.length
decreasing_by
  have h1 := skip_length _hskip
  have h2 := lexeme_length _h
  simp at h1
  omega

end Lexer

/-- The tokens of a script. -/
def tokenize (source : String) : Except SyntaxError (List Located) :=
  Lexer.tokenizeFrom [] 1 source.toList

end Dialogue.Script
