import Dialogue.Proofs.Script.Accepted

namespace Dialogue.Script

open Dialogue.Script.Parser

/-!
# Chains of calls

The calls of a chain follow one another without being nested, so the limit on nesting lets chains
of every length pass.

* `Expr.calledOn`: an expression that is called again and again.
* `tokenizeFrom_callMarks`: the text of its calls is split into their tokens.
* `depth_of_accepted_programs_is_unbounded`: accepted programs have no common bound on their depth.
-/

/-- An expression that is called again and again. -/
def Expr.calledOn : Nat → Expr → Expr
  | 0, e => e
  | n + 1, e => Expr.calledOn n (.call e [])

/-- Pairs of parentheses, one after the other. -/
def callMarks : Nat → List Char
  | 0 => [';']
  | n + 1 => '(' :: ')' :: callMarks n

/-- The tokens of such pairs. -/
def callTokens : Nat → List Token
  | 0 => [.semicolon]
  | n + 1 => .openParen :: .closeParen :: callTokens n

namespace Expr

variable {e : Expr}

/-- The calls stand behind the expression. -/
theorem tokens_calledOn (n : Nat) (h : e.rank = 8) :
    (calledOn n e).tokens ++ [.semicolon] = e.tokens ++ callTokens n := by
  induction n generalizing e with
  | zero => rfl
  | succ n ih =>
    rw [calledOn, ih rfl]
    simp [tokens, listTokens, enclosed, h, callTokens]

/-- Calls are not nested in each other. -/
theorem nesting_calledOn (n : Nat) (h : e.rank = 8) : (calledOn n e).nesting = e.nesting := by
  induction n generalizing e with
  | zero => rfl
  | succ n ih =>
    rw [calledOn, ih rfl]
    simp [nesting, listNesting, raised, h]

/-- But they are as deep as there are calls. -/
theorem depth_calledOn (n : Nat) (e : Expr) : (calledOn n e).depth = e.depth + n := by
  induction n generalizing e with
  | zero => rfl
  | succ n ih =>
    rw [calledOn, ih]
    simp only [depth, listDepth]
    omega

end Expr

/-- Neither a blank nor a comment begins here. -/
theorem skip_mark {c : Char} (line : Nat) (rest : List Char) (hslash : c ≠ '/') (hfeed : c ≠ '\n')
    (hblank : Unicode.isBlank c = false) : Lexer.skip line (c :: rest) = .ok (line, c :: rest) := by
  rw [Lexer.skip]
  · rw [if_neg hfeed, if_neg (by rw [hblank]; exact Bool.false_ne_true)]
  · exact fun _ h _ => hslash h
  · exact fun _ h _ => hslash h

/-- Behind blanks and comments a token is taken off, and the others follow. -/
theorem tokenizeFrom_eq (done : List Located) (line : Nat) (cs : List Char) :
    Lexer.tokenizeFrom done line cs =
      match Lexer.skip line cs with
      | .error e => .error e
      | .ok (_, []) => .ok done.reverse
      | .ok (line, c :: rest) =>
        match Lexer.lexeme c rest with
        | .error f => .error ⟨line, f⟩
        | .ok (t, rest) => Lexer.tokenizeFrom (⟨t, line⟩ :: done) line rest := by
  rw [Lexer.tokenizeFrom]
  split
  case h_1 hskip | h_2 hskip => rw [hskip]
  case h_3 hskip =>
    rw [hskip]
    split
    case h_1 ht | h_2 ht => simp only [ht]

/-- One token is taken off and the others follow. -/
theorem tokenizeFrom_cons {c : Char} {t : Token} {rest rest' : List Char} (done : List Located)
    (line : Nat) (hskip : Lexer.skip line (c :: rest) = .ok (line, c :: rest))
    (ht : Lexer.lexeme c rest = .ok (t, rest')) :
    Lexer.tokenizeFrom done line (c :: rest) =
      Lexer.tokenizeFrom (⟨t, line⟩ :: done) line rest' := by
  rw [tokenizeFrom_eq, hskip]
  simp only [ht]

/-- At the end the tokens are those found. -/
theorem tokenizeFrom_nil (done : List Located) (line : Nat) :
    Lexer.tokenizeFrom done line [] = .ok done.reverse := by
  rw [tokenizeFrom_eq, Lexer.skip]

/-- The marks of the calls are read as tokens. -/
theorem tokenizeFrom_callMarks (done : List Located) (line n : Nat) :
    Lexer.tokenizeFrom done line (callMarks n) =
      .ok (done.reverse ++ onLine line (callTokens n)) := by
  induction n generalizing done with
  | zero =>
    have hsemicolon : Lexer.lexeme ';' [] = .ok (.semicolon, []) := rfl
    rw [callMarks, tokenizeFrom_cons done line (skip_mark _ _ (by decide) (by decide) (by decide))
      hsemicolon, tokenizeFrom_nil]
    exact congrArg Except.ok List.reverse_cons
  | succ n ih =>
    have hopen : Lexer.lexeme '(' (')' :: callMarks n) = .ok (.openParen, ')' :: callMarks n) := rfl
    have hclose : Lexer.lexeme ')' (callMarks n) = .ok (.closeParen, callMarks n) := rfl
    rw [callMarks,
      tokenizeFrom_cons done line (skip_mark _ _ (by decide) (by decide) (by decide)) hopen,
      tokenizeFrom_cons _ line (skip_mark _ _ (by decide) (by decide) (by decide)) hclose, ih]
    simp [callTokens]

/-- There are accepted programs of every depth, as the calls of a chain are not nested in one
another. -/
theorem depth_of_accepted_programs_is_unbounded :
    ¬∃ bound, ∀ source p, parse source = .ok p → Statement.listDepth p ≤ bound := by
  rintro ⟨bound, h⟩
  let e := Expr.calledOn bound (.name "f")
  -- A chain one call longer than the bound is read, and it is deeper.
  have htokens : tokenize (String.ofList ('f' :: callMarks bound)) =
      .ok (onLine 1 (Statement.listTokens [.evaluate e])) := by
    have hname : Lexer.lexeme 'f' (callMarks bound) = .ok (.ident "f", callMarks bound) := by
      cases bound <;> rfl
    have htokens : Statement.listTokens [.evaluate e] = .ident "f" :: callTokens bound := by
      rw [Statement.listTokens, Statement.tokens, Statement.listTokens, List.append_nil]
      exact Expr.tokens_calledOn bound rfl
    rw [htokens, tokenize, String.toList_ofList,
      tokenizeFrom_cons [] 1 (skip_mark _ _ (by decide) (by decide) (by decide)) hname,
      tokenizeFrom_callMarks]
    rfl
  -- The limit does not see it, as no call is nested in another one.
  have hnesting : Statement.listNesting [.evaluate e] ≤ maxDepth := by
    have hchain : e.nesting = 0 := Expr.nesting_calledOn bound rfl
    simp only [Statement.listNesting, Statement.nesting, hchain]
    decide
  have hparse := (parse_of_tokenize htokens).trans (program_onLine _ 1)
  rw [if_pos hnesting] at hparse
  have hdepth := h _ _ hparse
  simp only [e, Statement.listDepth, Statement.depth, Expr.depth_calledOn, Expr.depth] at hdepth
  omega

end Dialogue.Script
