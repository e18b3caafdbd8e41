import Dialogue.Proofs.Script.Reading

namespace Dialogue.Script

open Dialogue.Script.Parser

/-!
# Printed programs are read back

* `Statement.Readable`: a statement is read wherever no alternative follows it.
* `Statement.readable`: every statement is.
* `printed_programs_are_read_back`: the tokens of a program are read as that program, unless it is
  nested too deeply.
-/

/-! ### Statements in braces -/

/-- A statement begins neither with an alternative nor with the end of a block. -/
theorem Statement.begins (s : Statement) :
    Begins (fun t => t ≠ .elseWord ∧ t ≠ .closeBrace) s.tokens := by
  have hopens : ∀ t : Token, t.opens → t ≠ .elseWord ∧ t ≠ .closeBrace := by
    rintro t ht
    constructor <;> rintro rfl <;> cases ht
  -- A statement that begins with an expression begins with a token of it; the others have words of
  -- their own.
  cases s with
  | declare name value => cases value <;> exact ⟨_, _, rfl, by decide⟩
  | finish value => cases value <;> exact ⟨_, _, rfl, by decide⟩
  | assign target append value =>
    exact (target.expr.begins.append _).mono fun t ht => hopens t ht.1
  | evaluate e => exact (e.begins.append _).mono fun t ht => hopens t ht.1
  | _ => exact ⟨_, _, rfl, by decide⟩

namespace Parser

variable {n line last need : Nat} {ts : List Token} {rest : List Located}

/-- No alternative follows. -/
def NoElse (rest : List Located) : Prop := rest.head?.map Located.token ≠ some .elseWord

end Parser

/-- A statement is read wherever no alternative follows it. -/
def Statement.Readable (s : Statement) : Prop :=
  ∀ n line last rest, NoElse rest →
    Reaches n line last s.tokens rest s.nesting (statement n) (pure s)

namespace Parser

/-- No statement begins with an alternative. -/
theorem noElse_listTokens (hrest : NoElse rest) (body : List Statement) :
    NoElse (onLine line (Statement.listTokens body) ++ rest) := by
  cases body with
  | nil => exact hrest
  | cons s body =>
    obtain ⟨t, ts, hts, helse, -⟩ := s.begins
    rw [Statement.listTokens, hts]
    exact fun h => helse (Option.some.inj h)

/-- The statements of a block are read up to its closing brace. -/
theorem untilBrace_reaches {body : List Statement} (hbody : ∀ s ∈ body, s.Readable)
    {fuel : List Located} (hfuel : (Statement.listTokens body).length < fuel.length) :
    Reaches n line line (Statement.listTokens body ++ [.closeBrace]) rest
      (Statement.listNesting body) (untilBrace (statement n) fuel) (pure body) := by
  -- Each statement takes at least one token off, so the fuel lasts as long as there are statements.
  induction body generalizing fuel with
  | nil =>
    cases fuel with
    | nil => exact absurd hfuel (Nat.not_lt_zero _)
    | cons skipped fuel => exact .takes rfl
  | cons s body ih =>
    obtain ⟨hs, hbody⟩ := List.forall_mem_cons.1 hbody
    cases fuel with
    | nil => exact absurd hfuel (Nat.not_lt_zero _)
    | cons skipped fuel =>
      obtain ⟨t, ts, hts, -, hbrace⟩ := s.begins
      have hlength : (Statement.listTokens body).length < fuel.length := by
        simp only [Statement.listTokens, List.length_cons, List.length_append, hts] at hfuel
        omega
      have hnext : NoElse (onLine line (Statement.listTokens body ++ [.closeBrace]) ++ rest) := by
        rw [onLine_append, List.append_assoc]
        exact noElse_listTokens (fun h => by cases h) body
      have hread := (hs n line line _ hnext).bind fun first =>
        untilBrace (statement n) fuel >>= fun more => pure (first :: more)
      refine (Reaches.looks ?_ (hread.trans ((ih hbody hlength).bind _))).cast
        (by rw [Statement.listTokens, List.append_assoc]) Iff.rfl
      rw [hts]
      refine (eat_bind_of_ne (fun h => ?_) _).trans ?_
      · exact hbrace (Option.some.inj h)
      · rfl

/-- A block is read with its braces. -/
theorem block_reaches {body : List Statement} (hbody : ∀ s ∈ body, s.Readable) :
    Reaches n line last (braced (Statement.listTokens body)) rest (Statement.listNesting body)
      (block (statement n)) (pure body) := by
  have hfuel : (Statement.listTokens body).length <
      (onLine line (Statement.listTokens body ++ [.closeBrace]) ++ rest).length := by
    simp only [List.length_append, length_onLine, List.length_cons]
    omega
  exact .step (remaining >>= untilBrace (statement n)) rfl
    (.looks rfl (untilBrace_reaches hbody hfuel))

/-- A body is printed as a block, and read as one. -/
theorem body_reaches {body : List Statement} (hbody : ∀ s ∈ body, s.Readable) :
    Reaches n line last (braced (Statement.listTokens body)) rest (Statement.listNesting body)
      (Parser.body (statement n)) (pure body) := by
  refine .looks ?_ (block_reaches hbody)
  rfl

/-- The alternative of a choice is read if there is one, and else nothing. -/
theorem alternative_reaches {no : List Statement} (hno : ∀ s ∈ no, s.Readable)
    (hrest : NoElse rest) (make : List Statement → Statement) :
    Reaches n line line
      (if no.isEmpty then [] else .elseWord :: braced (Statement.listTokens no)) rest
      (Statement.listNesting no)
      (do
        let no ← if ← eat .elseWord then Parser.body (statement n) else pure []
        return make no)
      (pure (make no)) := by
  -- Without an alternative no `else` follows, so nothing is taken.
  cases no with
  | nil =>
    refine .takes ?_
    exact eat_bind_of_ne (c := ⟨rest, line⟩) hrest _
  | cons s no =>
    exact .step (Parser.body (statement n) >>= fun no => pure (make no)) rfl
      ((body_reaches hno).bind _)

/-! ### Parts of statements -/

/-- The condition of a branch or loop is read with its parentheses. -/
theorem condition_reaches (c : Expr) (what : String) :
    Reaches n line last (.openParen :: (c.tokens ++ [.closeParen])) rest (c.nesting + 1)
      (condition (expression n) what) (pure c) := by
  have hclose : Stops 0 (onLine line [.closeParen] ++ rest) := stops_of_none rfl
  have hread := (c.readable.alone n line line _ hclose).bind fun c =>
    expect .closeParen "')'" >>= fun _ => pure c
  exact (Reaches.step _ rfl (hread.trans (.takes rfl))).cast rfl (by simp)

/-- An expression is read, and then the semicolon that ends its statement. -/
theorem closing_reaches (e : Expr) (make : Expr → Statement) :
    Reaches n line last (e.tokens ++ [.semicolon]) rest (e.nesting + 1)
      (expression n >>= fun e => endStatement >>= fun _ => pure (make e)) (pure (make e)) := by
  have hclose : Stops 0 (onLine line [.semicolon] ++ rest) := stops_of_none rfl
  have hread := (e.readable.alone n line last _ hclose).bind fun e =>
    endStatement >>= fun _ => pure (make e)
  exact (hread.trans (.takes rfl)).cast rfl (by simp)

/-- The same where the expression could be left out. -/
theorem optional_reaches (e : Expr) (make : Option Expr → Statement) :
    Reaches n line last (e.tokens ++ [.semicolon]) rest (e.nesting + 1)
      ((some <$> expression n) >>= fun value => endStatement >>= fun _ => pure (make value))
      (pure (make (some e))) := by
  have hclose : Stops 0 (onLine line [.semicolon] ++ rest) := stops_of_none rfl
  have hread := ((e.readable.alone n line last _ hclose).map some).bind fun value =>
    endStatement >>= fun _ => pure (make value)
  exact (hread.trans (.takes rfl)).cast rfl (by simp)

/-- What begins with an expression is read as an expression or an assignment. -/
theorem simple_reaches {e : Expr} {q : Parser Statement}
    (h : Reaches n line last (e.tokens ++ ts) rest need (simple (expression n)) q) :
    Reaches n line last (e.tokens ++ ts) rest need
      (statementOver (expression n) (statement n)) q := by
  refine .looks ?_ h
  obtain ⟨t, ts, hts, ht, -⟩ := e.begins
  rw [hts]
  cases t <;> first | rfl | cases ht

end Parser

/-! ### Every statement is read -/

namespace Statement

variable {s : Statement}

/-- Statements are read level by level. -/
theorem readable_of_over {need : Nat} (hneed : s.nesting = need + 1)
    (h : ∀ n line last rest, NoElse rest → Reaches n line last s.tokens rest need
      (statementOver (expression n) (statement n)) (pure s)) : s.Readable := by
  intro n line last rest hrest
  rw [hneed]
  cases n with
  | zero =>
    obtain ⟨t, ts, hts, -⟩ := s.begins
    rw [hts]
    exact .tooDeep (Nat.not_succ_le_zero need)
  | succ n => exact (h n line last rest hrest).succ

/-- A declaration is read back, with a value or without. -/
theorem readable_declare (name : String) (value : Option Expr) :
    (declare name value).Readable := by
  refine readable_of_over rfl fun n line last rest _ => ?_
  cases value with
  | none => exact .takes rfl
  | some e =>
    exact .steps [.declare, .ident name, .assign] _ rfl (optional_reaches e (declare name))

/-- An assignment is read back: its sign ends the target. -/
theorem readable_assign (target : Target) (append : Bool) (value : Expr) :
    (assign target append value).Readable := by
  refine readable_of_over rfl fun n line last rest _ => ?_
  have hsign : Stops 0 (onLine line ((if append then Token.plusAssign else .assign) ::
      (value.tokens ++ [.semicolon])) ++ rest) := by
    cases append <;> exact stops_of_none rfl
  refine simple_reaches ((target.expr.readable.alone n line last _ hsign).andThen _
    (.step _ ?_ (closing_reaches value (assign target append))))
  cases append <;> cases target <;> rfl

/-- A branch is read back, as no `else` of another one may follow. -/
theorem readable_choose (c : Expr) {yes no : List Statement} (hyes : ∀ s ∈ yes, s.Readable)
    (hno : ∀ s ∈ no, s.Readable) : (choose c yes no).Readable := by
  refine readable_of_over rfl fun n line last rest hrest => ?_
  exact (Reaches.step (t := .ifWord) (do
      let c ← condition (expression n) "'(' after if"
      let yes ← Parser.body (statement n)
      let no ← if ← eat .elseWord then Parser.body (statement n) else pure []
      return choose c yes no) rfl
    ((condition_reaches c _).andThen _ ((body_reaches hyes).andThen _
      (alternative_reaches hno hrest (choose c yes))))).cast (by simp [tokens]) Iff.rfl

/-- A loop is read back. -/
theorem readable_repeat (c : Expr) {body : List Statement} (hbody : ∀ s ∈ body, s.Readable) :
    (Statement.repeat c body).Readable := by
  refine readable_of_over rfl fun n line last rest _ => ?_
  exact (Reaches.step (t := .whileWord) (do
      let c ← condition (expression n) "'(' after while"
      return Statement.repeat c (← Parser.body (statement n))) rfl
    ((condition_reaches c _).andThen _ ((body_reaches hbody).bind _))).cast
      (by simp [tokens]) Iff.rfl

/-- What a script returns is read back. -/
theorem readable_finish (value : Option Expr) : (finish value).Readable := by
  refine readable_of_over rfl fun n line last rest _ => ?_
  cases value with
  | none => exact .takes rfl
  | some e =>
    refine .step _ ?_ (optional_reaches e finish)
    obtain ⟨t, ts, hts, ht, -⟩ := e.begins
    rw [hts]
    cases t <;> first | rfl | cases ht

/-- What a script throws is read back. -/
theorem readable_throw (e : Expr) : (throw e).Readable :=
  readable_of_over rfl fun _ _ _ _ _ => .step _ rfl (closing_reaches e throw)

/-- An expression that stands as a statement is read back. -/
theorem readable_evaluate (e : Expr) : (evaluate e).Readable := by
  refine readable_of_over rfl fun n line last rest _ => ?_
  have hclose : Stops 0 (onLine line [.semicolon] ++ rest) := stops_of_none rfl
  exact simple_reaches (((e.readable.alone n line last _ hclose).andThen _ (.takes rfl)).cast rfl
    (by simp))

/-- A block is read back. -/
theorem readable_block {body : List Statement} (hbody : ∀ s ∈ body, s.Readable) :
    (block body).Readable := by
  refine readable_of_over rfl fun _ _ _ _ _ => ?_
  refine .looks ?_ ((block_reaches hbody).bind fun body => pure (block body))
  rfl

mutual

/-- Every statement is read. -/
theorem readable (s : Statement) : s.Readable := by
  match s with
  | .declare name value => exact readable_declare name value
  | .assign target append value => exact readable_assign target append value
  | .choose c yes no => exact readable_choose c (allReadable yes) (allReadable no)
  | .repeat c body => exact readable_repeat c (allReadable body)
  | .finish value => exact readable_finish value
  | .throw e => exact readable_throw e
  | .evaluate e => exact readable_evaluate e
  | .block body => exact readable_block (allReadable body)

/-- All statements of a list are read. -/
theorem allReadable (p : List Statement) : ∀ s ∈ p, s.Readable := by
  match p with
  | [] => exact List.forall_mem_nil _
  | s :: rest => exact List.forall_mem_cons.2 ⟨s.readable, allReadable rest⟩

end

end Statement

/-! ### Programs -/

namespace Parser

/-- A program is read back if it is nested within the limit, and refused otherwise. -/
theorem program_reaches (p : List Statement) {fuel : List Located}
    (hfuel : (Statement.listTokens p).length ≤ fuel.length) (line last : Nat) :
    ∃ c, program fuel ⟨onLine line (Statement.listTokens p), last⟩ =
      if Statement.listNesting p ≤ maxDepth then .ok (p, c)
      else .error ⟨line, .nestedTooDeeply⟩ := by
  -- Each statement takes at least one token off, so the fuel lasts as long as there are statements.
  induction p generalizing fuel last with
  | nil =>
    refine ⟨⟨[], last⟩, ?_⟩
    rw [Statement.listNesting, if_pos (Nat.zero_le _)]
    cases fuel <;> rfl
  | cons s p ih =>
    obtain ⟨t, ts, hts, -⟩ := s.begins
    cases fuel with
    | nil =>
      rw [Statement.listTokens, hts] at hfuel
      exact absurd hfuel (Nat.not_succ_le_zero _)
    | cons skipped fuel =>
      have hlength : (Statement.listTokens p).length ≤ fuel.length := by
        simp only [Statement.listTokens, List.length_cons, List.length_append, hts] at hfuel
        omega
      obtain ⟨c, hc⟩ := ih hlength line
      have hnext : NoElse (onLine line (Statement.listTokens p)) := by
        rw [← List.append_nil (onLine line _)]
        exact noElse_listTokens (fun h => by cases h) p
      have hread := (s.readable maxDepth line last _ hnext).bind fun first =>
        program fuel >>= fun more => pure (first :: more)
      unfold Reaches at hread
      refine ⟨c, Eq.trans ?_ (hread.trans ?_)⟩
      · rw [Statement.listTokens, onLine_append, hts]
        rfl
      -- The first statement decides if it is too deep; otherwise the others do.
      · rw [bind_apply, hc, Statement.listNesting]
        by_cases hs : s.nesting ≤ maxDepth
        · have hmax : max s.nesting (Statement.listNesting p) ≤ maxDepth ↔
              Statement.listNesting p ≤ maxDepth := by omega
          simp only [hs, hmax, if_true]
          split <;> rfl
        · have hmax : ¬max s.nesting (Statement.listNesting p) ≤ maxDepth := by omega
          rw [if_neg hs, if_neg hmax]

end Parser

/-- A source is read by way of its tokens. -/
theorem parse_of_tokenize {source : String} {tokens : List Located}
    (h : tokenize source = .ok tokens) :
    parse source = (Parser.program tokens ⟨tokens, 1⟩).map Prod.fst := by
  rw [parse, h]
  show (Parser.program tokens ⟨tokens, 1⟩).bind (fun r => .ok r.1) = _
  cases Parser.program tokens ⟨tokens, 1⟩ <;> rfl

/-- The tokens of a program on one line are read as the program, if it is not nested too deeply. -/
theorem program_onLine (p : Program) (line : Nat) :
    let tokens := onLine line (Statement.listTokens p)
    (Parser.program tokens ⟨tokens, 1⟩).map Prod.fst =
      if Statement.listNesting p ≤ maxDepth then .ok p else .error ⟨line, .nestedTooDeeply⟩ := by
  intro tokens
  obtain ⟨c, hc⟩ := program_reaches p (length_onLine line _).ge line 1
  rw [hc]
  split <;> rfl

/-- The tokens of a program, all on one line, are read as that program if at most as many of its
statements, expressions and prefix operators are nested as may be, and else they are a fault. The
same holds of every source that is split into these tokens. -/
theorem printed_programs_are_read_back (p : Program) (line : Nat) :
    let tokens := onLine line (Statement.listTokens p)
    let read : Except SyntaxError Program :=
      if Statement.listNesting p ≤ maxDepth then .ok p else .error ⟨line, .nestedTooDeeply⟩
    (Parser.program tokens ⟨tokens, 1⟩).map Prod.fst = read ∧
      ∀ source, tokenize source = .ok tokens → parse source = read := by
  intro tokens read
  have hread : (Parser.program tokens ⟨tokens, 1⟩).map Prod.fst = read := program_onLine p line
  exact ⟨hread, fun source hsource => (parse_of_tokenize hsource).trans hread⟩

/-- A loop with a choice in it, read from its source. -/
theorem loop_is_read_back :
    let body : Program :=
      [.choose (.binary .less (.member (.name "a") "b") (.unary .minus (.name "c")))
        [.assign (.name "x") true (.name "y")] []]
    let p : Program := [.repeat (.or (.name "d") (.name "e")) body]
    let source := "while (d || e) { if (a.b < -c) { x += y; } }"
    tokenize source = .ok (onLine 1 (Statement.listTokens p)) ∧ parse source = .ok p := by
  intro body p source
  have hsource : tokenize source = .ok (onLine 1 (Statement.listTokens p)) := by
    decide +kernel
  exact ⟨hsource, (printed_programs_are_read_back p 1).2 source hsource⟩

end Dialogue.Script
