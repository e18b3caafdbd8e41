import Dialogue.Proofs.Script.Chains
import Mathlib.Data.List.TakeWhile

namespace Dialogue.Script

/-!
# Texts inside of scripts

A text keeps its tokens inside of a longer one, if something follows it with which no token goes on.
A closing parenthesis is such a thing, except behind a comment that runs to the end of the text:
there it is part of the comment.

* `Lexer.Lexes`: a text on a line is split into tokens.
* `Lexer.skip_close`, `lexeme_close`: what a closing parenthesis behind a text changes.
* `Lexer.Lexes.close`: the tokens of a text with a closing parenthesis behind it.
-/

namespace Lexer

variable {line line' : Nat} {c : Char} {cs rest rest' : List Char} {t : Token} {ts : List Located}

/-! ### Tokens one after the other -/

/-- A text that begins on a line is split into tokens. -/
inductive Lexes : Nat → List Char → List Located → Prop
  | done {line line' : Nat} {cs : List Char} (h : skip line cs = .ok (line', [])) :
    Lexes line cs []
  | token {line line' : Nat} {c : Char} {cs rest rest' : List Char} {t : Token}
    {ts : List Located} (h : skip line cs = .ok (line', c :: rest))
    (ht : lexeme c rest = .ok (t, rest')) (hrest : Lexes line' rest' ts) :
    Lexes line cs (⟨t, line'⟩ :: ts)

/-- The scanner finds the tokens that the relation gives, behind those found before. -/
theorem tokenizeFrom_eq_ok_iff (done : List Located) :
    tokenizeFrom done line cs = .ok ts ↔
      ∃ ts', ts = done.reverse ++ ts' ∧ Lexes line cs ts' := by
  -- The cases are those of `tokenizeFrom`; what the relation does is decided by the same two calls.
  fun_induction tokenizeFrom done line cs generalizing ts with
  | case1 done line cs e hskip =>
    refine ⟨fun h => (by cases h), ?_⟩
    rintro ⟨ts', -, hlexes⟩
    cases hlexes with
    | done h => cases hskip.symm.trans h
    | token h _ _ => cases hskip.symm.trans h
  | case2 done line cs line' hskip =>
    constructor
    · intro h
      cases h
      exact ⟨[], (List.append_nil _).symm, .done hskip⟩
    · rintro ⟨ts', rfl, hlexes⟩
      cases hlexes with
      | done _ => rw [List.append_nil]
      | token h _ _ => cases hskip.symm.trans h
  | case3 done line cs line' c rest hskip fault ht =>
    refine ⟨fun h => (by cases h), ?_⟩
    rintro ⟨ts', -, hlexes⟩
    cases hlexes with
    | done h => cases hskip.symm.trans h
    | token h ht' _ =>
      cases hskip.symm.trans h
      cases ht.symm.trans ht'
  | case4 done line cs line' c rest hskip t rest' ht ih =>
    rw [ih]
    constructor
    · rintro ⟨ts', rfl, hlexes⟩
      exact ⟨_, by simp, .token hskip ht hlexes⟩
    · rintro ⟨ts', rfl, hlexes⟩
      cases hlexes with
      | done h => cases hskip.symm.trans h
      | token h ht' hrest =>
        cases hskip.symm.trans h
        cases ht.symm.trans ht'
        exact ⟨_, by simp, hrest⟩

/-- The tokens of a text are those the relation gives on its first line. -/
theorem tokenize_eq_ok_iff {source : String} :
    tokenize source = .ok ts ↔ Lexes 1 source.toList ts := by
  unfold tokenize
  rw [tokenizeFrom_eq_ok_iff]
  simp

/-- A mark or a word at the head of a text. -/
theorem Lexes.cons (hslash : c ≠ '/') (hfeed : c ≠ '\n') (hblank : Unicode.isBlank c = false)
    (ht : lexeme c rest = .ok (t, rest')) (h : Lexes line rest' ts) :
    Lexes line (c :: rest) (⟨t, line⟩ :: ts) :=
  .token (skip_mark line rest hslash hfeed hblank) ht h

/-- A blank is skipped. -/
theorem skip_blank (line : Nat) (cs : List Char) : skip line (' ' :: cs) = skip line cs := by
  rw [skip]
  · rfl
  · exact fun _ h _ => absurd h (by decide)
  · exact fun _ h _ => absurd h (by decide)

/-- A blank in front of a text changes nothing. -/
theorem Lexes.blank (h : Lexes line cs ts) : Lexes line (' ' :: cs) ts := by
  cases h with
  | done h => exact .done ((skip_blank line cs).trans h)
  | token h ht hrest => exact .token ((skip_blank line cs).trans h) ht hrest

/-! ### A closing parenthesis behind a text -/

/-- A comment that ends is skipped alike, whatever stands behind the text. -/
theorem skipComment_append (h : skipComment line cs = .ok (line', rest)) (more : List Char) :
    skipComment line (cs ++ more) = .ok (line', rest ++ more) := by
  fun_induction skipComment line cs with
  | case1 line rest =>
    cases h
    rfl
  | case2 line c rest hend ih =>
    -- A star at the end of the text would be the end of the comment with a slash behind it.
    rw [List.cons_append, skipComment]
    · exact ih h
    · intro rest' hc hrest
      cases rest with
      | nil =>
        unfold skipComment at h
        cases h
      | cons d rest =>
        obtain ⟨rfl, -⟩ := List.cons.inj hrest
        exact hend rest hc rfl
  | case3 => cases h

/-- Where no comment begins, the first character decides. -/
theorem skip_of_no_comment
    (h : c = '/' → ∀ d, rest.head? = some d → d ≠ '/' ∧ d ≠ '*') :
    skip line (c :: rest) =
      if c = '\n' then skip (line + 1) rest
      else if Unicode.isBlank c then skip line rest
      else .ok (line, c :: rest) := by
  rw [skip]
  · intro rest' hc hrest
    exact (h hc '/' (by rw [hrest]; rfl)).1 rfl
  · intro rest' hc hrest
    exact (h hc '*' (by rw [hrest]; rfl)).2 rfl

/-- A closing parenthesis behind a slash begins no comment. -/
theorem close_begins_no_comment (hline : ∀ rest', c = '/' → rest = '/' :: rest' → False)
    (hcomment : ∀ rest', c = '/' → rest = '*' :: rest' → False) (hc : c = '/') (d : Char)
    (hd : (rest ++ [')']).head? = some d) : d ≠ '/' ∧ d ≠ '*' := by
  -- The slash was the last character, so the parenthesis is what follows it now.
  cases rest with
  | nil =>
    cases hd
    decide
  | cons e rest =>
    cases hd
    constructor
    · rintro rfl
      exact hline rest hc rfl
    · rintro rfl
      exact hcomment rest hc rfl

/-- Blanks and comments are passed over in the same way, if they do not run to the end. -/
theorem skip_close (h : skip line cs = .ok (line', rest)) :
    skip line (cs ++ [')']) = .ok (line', rest ++ [')']) ∨
      rest = [] ∧ skip line (cs ++ [')']) = .ok (line', []) := by
  fun_induction skip line cs with
  | case1 line =>
    cases h
    have hmark : skip line' [')'] = .ok (line', [')']) :=
      skip_mark line' [] (by decide) (by decide) (by decide)
    exact .inl hmark
  -- The cases are those of `skip`. Only a line comment can take the parenthesis in.
  | case2 line cs ih =>
    show skip line ('/' :: '/' :: (cs ++ [')'])) = _ ∨
      _ ∧ skip line ('/' :: '/' :: (cs ++ [')'])) = _
    rw [skip]
    by_cases hline : ∀ c ∈ cs, onLine c = true
    · -- The comment runs to the end of the text, so the parenthesis belongs to it.
      have hnil : cs.dropWhile onLine = [] := List.dropWhile_eq_nil_iff.2 hline
      have hline' : ∀ c ∈ cs ++ [')'], onLine c = true :=
        List.forall_mem_append.2 ⟨hline, List.forall_mem_singleton.2 rfl⟩
      have hnil' : (cs ++ [')']).dropWhile onLine = [] := List.dropWhile_eq_nil_iff.2 hline'
      rw [hnil, skip] at h
      cases h
      rw [hnil', skip]
      exact .inr ⟨rfl, rfl⟩
    · have hrest : (cs.dropWhile onLine).isEmpty = false := by
        rw [List.isEmpty_eq_false_iff, ne_eq, List.dropWhile_eq_nil_iff]
        exact hline
      rw [List.dropWhile_append, hrest]
      exact ih h
  | case3 line cs line'' rest'' hcomment ih =>
    show skip line ('/' :: '*' :: (cs ++ [')'])) = _ ∨
      _ ∧ skip line ('/' :: '*' :: (cs ++ [')'])) = _
    have hcomment' := skipComment_append hcomment [')']
    rw [skip]
    split
    · rename_i heq
      cases hcomment'.symm.trans heq
      exact ih h
    · rename_i heq
      cases hcomment'.symm.trans heq
  | case4 => cases h
  | case5 line rest hline hcomment ih =>
    rw [List.cons_append, skip_of_no_comment (close_begins_no_comment hline hcomment), if_pos rfl]
    exact ih h
  | case6 line c rest hline hcomment hfeed hblank ih =>
    rw [List.cons_append, skip_of_no_comment (close_begins_no_comment hline hcomment),
      if_neg hfeed, if_pos hblank]
    exact ih h
  | case7 line c rest hline hcomment hfeed hblank =>
    cases h
    rw [List.cons_append, skip_of_no_comment (close_begins_no_comment hline hcomment),
      if_neg hfeed, if_neg hblank]
    exact .inl rfl

/-! ### Tokens in front of a closing parenthesis -/

/-- What the next character of a text in quotes means. -/
theorem takeText_cons (quote : Char) (done : List Char) (c : Char) (cs : List Char) :
    takeText quote done (c :: cs) =
      if c = quote then some (done.reverse, cs)
      else if c = '\n' then none
      else if c = '\\' then
        match cs with
        | [] => none
        | e :: cs => takeText quote (unescape e :: done) cs
      else takeText quote (c :: done) cs := by
  cases cs <;> rfl

/-- A text that ends is taken off alike, whatever stands behind. -/
theorem takeText_append {quote : Char} {done text : List Char}
    (h : takeText quote done cs = some (text, rest)) (more : List Char) :
    takeText quote done (cs ++ more) = some (text, rest ++ more) := by
  fun_induction takeText quote done cs with
  | case1 => cases h
  | case2 done cs =>
    cases h
    rw [List.cons_append, takeText_cons, if_pos rfl]
  | case3 => cases h
  | case4 => cases h
  | case5 done e cs hquote hfeed ih =>
    rw [List.cons_append, takeText_cons, if_neg hquote, if_neg hfeed, if_pos rfl]
    exact ih h
  | case6 done c cs hquote hfeed hescape ih =>
    rw [List.cons_append, takeText_cons, if_neg hquote, if_neg hfeed, if_neg hescape]
    exact ih h

/-- What is read as long as a test holds ends before a character that fails it. -/
theorem takeWhile_close {test : Char → Bool} (h : test ')' = false) (cs : List Char) :
    (cs ++ [')']).takeWhile test = cs.takeWhile test ∧
      (cs ++ [')']).dropWhile test = cs.dropWhile test ++ [')'] := by
  induction cs with
  | nil => simp [h]
  | cons c cs ih =>
    obtain ⟨htake, hdrop⟩ := ih
    by_cases hc : test c = true
    · simp [hc, htake, hdrop]
    · simp [hc]

/-- No mark but the closing parenthesis itself has one in it. -/
theorem symbols_close : ∀ entry ∈ symbols, entry.1 = [')'] ∨ ')' ∉ entry.1 := by decide

/-- A parenthesis behind makes no mark out of what was none. -/
theorem isPrefixOf_close {mark : List Char} (h : mark = [')'] ∨ ')' ∉ mark) (c : Char)
    (rest : List Char) :
    mark.isPrefixOf (c :: (rest ++ [')'])) = mark.isPrefixOf (c :: rest) := by
  rcases h with rfl | h
  · simp [List.isPrefixOf]
  · rw [Bool.eq_iff_iff, List.isPrefixOf_iff_prefix, List.isPrefixOf_iff_prefix,
      ← List.cons_append, List.prefix_concat_iff]
    constructor
    · rintro (rfl | hprefix)
      · exact absurd (List.mem_append_right _ List.mem_cons_self) h
      · exact hprefix
    · exact .inr

/-- A mark that was found is found with a parenthesis behind. -/
theorem symbol?_close (h : symbol? (c :: rest) = some (t, rest')) :
    symbol? (c :: (rest ++ [')'])) = some (t, rest' ++ [')']) := by
  unfold symbol? at h ⊢
  have hmarks := symbols_close
  generalize symbols = marks at h hmarks ⊢
  induction marks with
  | nil => cases h
  | cons entry marks ih =>
    rw [List.forall_mem_cons] at hmarks
    rw [List.findSome?_cons] at h ⊢
    rw [isPrefixOf_close hmarks.1]
    by_cases hprefix : entry.1.isPrefixOf (c :: rest) = true
    · rw [if_pos hprefix] at h ⊢
      have hlength := (List.isPrefixOf_iff_prefix.1 hprefix).length_le
      simp only [Option.some.injEq, Prod.mk.injEq] at h ⊢
      obtain ⟨rfl, rfl⟩ := h
      rw [← List.cons_append, List.drop_append_of_le_length hlength]
      exact ⟨rfl, rfl⟩
    · rw [if_neg hprefix] at h ⊢
      exact ih h hmarks.2

/-- Whether a number starts does not depend on a parenthesis behind. -/
theorem startsNumber_close (c : Char) (rest : List Char) :
    startsNumber c (rest ++ [')']) = startsNumber c rest := by
  unfold startsNumber
  cases rest <;> rfl

/-- A token is taken off in the same way. -/
theorem lexeme_close (h : lexeme c rest = .ok (t, rest')) :
    lexeme c (rest ++ [')']) = .ok (t, rest' ++ [')']) := by
  obtain ⟨hnumber, hnumber'⟩ := takeWhile_close (by decide : inNumber ')' = false) rest
  obtain ⟨hname, hname'⟩ := takeWhile_close (by decide : inName ')' = false) rest
  unfold lexeme at h ⊢
  rw [startsNumber_close, hnumber, hnumber', hname, hname']
  -- Case by case as in `lexeme`: a parenthesis continues no word, number or mark.
  split at h
  case isTrue hquote =>
    rw [if_pos hquote]
    split at h
    case h_2 => cases h
    case h_1 htext =>
      cases h
      rw [takeText_append htext]
  case isFalse hquote =>
    rw [if_neg hquote]
    split at h
    case isTrue => cases h
    case isFalse htemplate =>
      rw [if_neg htemplate]
      split at h
      case isTrue hstart =>
        rw [if_pos hstart]
        split at h
        case h_2 => cases h
        case h_1 =>
          cases h
          rfl
      case isFalse hstart =>
        rw [if_neg hstart]
        split at h
        case isTrue hword =>
          cases h
          rw [if_pos hword]
        case isFalse hword =>
          rw [if_neg hword]
          split at h
          case h_2 => cases h
          case h_1 hsymbol =>
            cases h
            rw [symbol?_close hsymbol]

/-- The tokens of a text with a closing parenthesis behind it. The parenthesis is one more token,
unless a comment runs up to it. -/
theorem Lexes.close (h : Lexes line cs ts) :
    Lexes line (cs ++ [')']) ts ∨
      ∃ line', Lexes line (cs ++ [')']) (ts ++ [⟨.closeParen, line'⟩]) := by
  induction h with
  -- At the end of the text the parenthesis is a token of its own, or part of a line comment.
  | @done line line' cs h =>
    have hend : skip line' [] = .ok (line', []) := by rw [skip]
    rcases skip_close h with hskip | ⟨-, hskip⟩
    · exact .inr ⟨_, .token hskip rfl (.done hend)⟩
    · exact .inl (.done hskip)
  | token h ht _ ih =>
    rcases skip_close h with hskip | ⟨hnil, -⟩
    · rcases ih with ih | ⟨line', ih⟩
      · exact .inl (.token hskip (lexeme_close ht) ih)
      · exact .inr ⟨line', .token hskip (lexeme_close ht) ih⟩
    · cases hnil

end Lexer

end Dialogue.Script
