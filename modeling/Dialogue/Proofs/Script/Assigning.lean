import Dialogue.Proofs.Script.Direct
import Dialogue.Proofs.Script.Embedded
import Dialogue.Proofs.Script.Followed
import Dialogue.Proofs.Script.Placed
import Dialogue.Proofs.Script.Spelled

namespace Dialogue.Script

open Effects

/-!
# Two scripts around an expression

A script may hand out the value of an expression in two ways: it ends with it, or it writes it into
a variable. Either script consists of one statement, and the expression is evaluated in it as it is
by itself.

* `quoted`: a name as a text of a script.
* `IsExpression`, `Expr.ComesTo`: a text that is an expression, and what an expression comes to.
* `returning`, `assigning`: the script that ends with the value, and the one that writes it.
* `program_returning`, `program_assigning`: what they are read as.
* `run_returning`, `run_assigning`: what comes out of them.
* `sandbox_returning`, `sandbox_assigning`: what comes out of their texts.
-/

/-- A name in quotes. -/
def quoted (name : String) : String := String.ofList ('\'' :: charsIn '\'' name.toList)

/-! ### Expressions -/

/-- The text is that of an expression, and of nothing else. -/
def IsExpression (text : String) (e : Expr) : Prop :=
  ∃ tokens n c, tokenize text = .ok tokens ∧
    Parser.expression n ⟨tokens, 1⟩ = .ok (e, c) ∧ c.rest = []

/-- What an expression comes to in a script that has written nothing. -/
def Expr.ComesTo (e : Expr) (c : Context) (v : Value) : Prop :=
  ∃ steps n, (e.eval : Eval Value) c { steps } = .ok (v, n)

/-- The script that ends with the value of an expression: `return 1 + 2`. -/
def returning (text : String) : String := "return " ++ text

/-- The script that writes the value of an expression into a variable: `setVariable('x', 1 + 2)`. -/
def assigning (name text : String) : String :=
  "setVariable(" ++ quoted name ++ ", " ++ text ++ ")"

/-- The tokens of a script that writes a variable, up to the expression. -/
def assigningTokens (name : String) : List Token :=
  [.ident "setVariable", .openParen, .text name, .comma]

variable {text name : String} {e : Expr} {tokens : List Located}

namespace Lexer

/-- The first script begins with a word, and goes on with the tokens of the expression. -/
theorem lexes_returning (h : Lexes 1 text.toList tokens) :
    Lexes 1 (returning text).toList (⟨.returnWord, 1⟩ :: tokens) := by
  have hword : lexeme 'r' ("eturn ".toList ++ text.toList) =
      .ok (.returnWord, ' ' :: text.toList) := rfl
  rw [returning, String.toList_append]
  exact .cons (by decide) (by decide) rfl hword h.blank

/-- The second script begins with the call and the name, and goes on with the tokens of the
expression and of what closes the call. -/
theorem lexes_assigning (h : Lexes 1 (text.toList ++ [')']) tokens) :
    Lexes 1 (assigning name text).toList (Parser.onLine 1 (assigningTokens name) ++ tokens) := by
  -- The tokens one by one, from the name of the function to the comma.
  have hword : lexeme 's' ("etVariable(".toList ++ ('\'' :: charsIn '\'' name.toList) ++
      ", ".toList ++ text.toList ++ [')']) =
      .ok (.ident "setVariable", '(' :: '\'' :: (charsIn '\'' name.toList ++
        (',' :: ' ' :: (text.toList ++ [')'])))) := by
    simp only [List.append_assoc]
    rfl
  have htext : lexeme '\'' (charsIn '\'' name.toList ++ (',' :: ' ' :: (text.toList ++ [')']))) =
      .ok (.text name, ',' :: ' ' :: (text.toList ++ [')'])) := lexeme_text (.inr rfl) name _
  have hsource : (assigning name text).toList = 's' :: ("etVariable(".toList ++
      ('\'' :: charsIn '\'' name.toList) ++ ", ".toList ++ text.toList ++ [')']) := by
    simp [assigning, quoted]
  rw [hsource]
  exact .cons (by decide) (by decide) rfl hword (.cons (by decide) (by decide) rfl rfl
    (.cons (by decide) (by decide) rfl htext (.cons (by decide) (by decide) rfl rfl h.blank)))

end Lexer

/-! ### What the scripts are read as -/

namespace Parser

variable {n r last : Nat} {c c' : Cursor} {operand inner : Parser Expr} {e' : Expr}
  {t : Located} {ts : List Located}

/-- Where operators may stand between operands there is an operand. -/
theorem exists_operand_of_tier (hr : 1 ≤ r) (hr' : r ≤ 7) :
    ∀ e c', tier r operand c = .ok (e, c') → ∃ e' c'', operand c = .ok (e', c'') := by
  refine Nat.decreasingInduction' (fun k hk hrk ih e c' h => ?_) hr' fun e c' h => ⟨e, c', h⟩
  rw [tier_eq operand (hr.trans hrk) (Nat.le_of_lt_succ hk)] at h
  obtain ⟨left, c₁, hleft, -⟩ := bind_eq_ok_iff.1 h
  exact ih left c₁ hleft

/-- An operand at the end has no operators behind it. -/
theorem tier_of_operand (hr : 1 ≤ r) (hr' : r ≤ 7) (h : operand c = .ok (e, c'))
    (hend : c'.rest = []) : tier r operand c = .ok (e, c') := by
  refine Nat.decreasingInduction' (fun k hk hrk ih => ?_) hr' h
  have hlow : 1 ≤ k := hr.trans hrk
  have hhigh : k ≤ 6 := Nat.le_of_lt_succ hk
  obtain ⟨rest, last⟩ := c'
  cases hend
  rw [tier_eq operand hlow hhigh]
  have hstops : Stops k [] := fun t ht => by cases ht
  exact bind_eq_ok_iff.2 ⟨e, _, ih, chainFrom_stops hlow hhigh hstops _ _ e⟩

/-- An expression begins with an operand one level down. -/
theorem exists_operand_of_expression (h : expression n c = .ok (e, c')) :
    ∃ k e' c'', n = k + 1 ∧ Parser.operand k c = .ok (e', c'') := by
  cases n with
  | zero => cases h
  | succ k =>
    obtain ⟨condition, c₁, hcondition, -⟩ := bind_eq_ok_iff.1 h
    obtain ⟨e', c'', hoperand⟩ :=
      exists_operand_of_tier (r := 1) (by decide) (by decide) condition c₁ hcondition
    exact ⟨k, e', c'', rfl, hoperand⟩

/-- An operand at the end is an expression by itself. -/
theorem expression_of_operand (h : Parser.operand n c = .ok (e, c')) (hend : c'.rest = []) :
    expression (n + 1) c = .ok (e, c') := by
  have htier := tier_of_operand (r := 1) (by decide) (by decide) h hend
  refine bind_eq_ok_iff.2 ⟨e, c', htier, ?_⟩
  have hquestion : c'.token? ≠ some .question := by
    rw [Cursor.token?, hend]
    simp
  exact eat_bind_of_ne hquestion _

/-- No expression begins with what ends a statement. -/
theorem token?_of_expression (h : expression n c = .ok (e, c')) :
    ∃ t, c.token? = some t ∧ t ≠ .semicolon ∧ t ≠ .closeBrace := by
  obtain ⟨k, e', c'', -, hoperand⟩ := exists_operand_of_expression h
  -- An operand begins with a prefix operator, a literal, a name or a parenthesis.
  obtain ⟨below, hbelow⟩ := operand_eq k
  rw [hbelow] at hoperand
  obtain ⟨rest, last⟩ := c
  cases rest with
  | nil => cases hoperand
  | cons t rest =>
    obtain ⟨t, line⟩ := t
    refine ⟨t, rfl, ?_, ?_⟩
    · rintro rfl
      cases hoperand
    · rintro rfl
      cases hoperand

/-- A source is read as one statement if nothing is left behind that. -/
theorem parse_eq_of_statement {source : String} {s : Statement} {p : Program}
    (hlexes : Lexer.Lexes 1 source.toList (t :: ts))
    (hs : ∀ s' c', statement maxDepth ⟨t :: ts, 1⟩ = .ok (s', c') → s' = s ∧ c'.rest = [])
    (hp : parse source = .ok p) : p = [s] := by
  rw [parse_of_tokenize (Lexer.tokenize_eq_ok_iff.2 hlexes)] at hp
  cases hprogram : program (t :: ts) ⟨t :: ts, 1⟩ with
  | error fault =>
    rw [hprogram] at hp
    cases hp
  | ok r =>
    rw [hprogram] at hp
    cases hp
    -- The program is the statement and those that follow it, of which there are none.
    have hsplit : (statement maxDepth >>= fun first => program ts >>= fun more =>
        Pure.pure (first :: more)) ⟨t :: ts, 1⟩ = .ok r := hprogram
    obtain ⟨first, c₁, hfirst, hmore⟩ := bind_eq_ok_iff.1 hsplit
    obtain ⟨more, c₂, hmore, hr⟩ := bind_eq_ok_iff.1 hmore
    obtain ⟨rfl, hend⟩ := hs first c₁ hfirst
    obtain ⟨rest, last⟩ := c₁
    cases hend
    cases ts <;> cases hmore <;> cases hr <;> rfl

/-- Behind the word there is the expression and nothing else. -/
theorem statement_returning (hread : expression n ⟨ts, 1⟩ = .ok (e, c)) (hend : c.rest = [])
    (s : Statement) (c' : Cursor)
    (h : statement maxDepth ⟨⟨.returnWord, 1⟩ :: ts, 1⟩ = .ok (s, c')) :
    s = .finish (some e) ∧ c'.rest = [] := by
  -- Something follows `return`, so a value is read and not left out.
  have hsplit : ((expression 63 >>= fun e => Pure.pure (some e)) >>= fun value =>
      endStatement >>= fun _ => Pure.pure (Statement.finish value)) ⟨ts, 1⟩ = .ok (s, c') := by
    obtain ⟨t, ht, hsemicolon, hbrace⟩ := token?_of_expression hread
    obtain _ | ⟨⟨t', line⟩, rest⟩ := ts
    · cases ht
    · cases ht
      rw [← h]
      cases t' <;> first | rfl | exact absurd rfl hsemicolon | exact absurd rfl hbrace
  obtain ⟨value, c₁, hvalue, hfinish⟩ := bind_eq_ok_iff.1 hsplit
  obtain ⟨e', c₂, he, hsome⟩ := bind_eq_ok_iff.1 hvalue
  cases hsome
  have hnone : Closes [] := fun t ht => by cases ht
  rw [← List.append_nil ts] at he
  obtain ⟨rfl, hend'⟩ := expression_agrees hnone hread hend he
  obtain ⟨rest, last'⟩ := c₁
  cases hend'
  cases hfinish
  exact ⟨rfl, rfl⟩

/-- A text stands before a comma. -/
theorem expression_text (n line last : Nat) (name : String) (rest : List Located) :
    expression (n + 1) ⟨⟨.text name, line⟩ :: ⟨.comma, line⟩ :: rest, last⟩ =
      .ok (.literal (.text name), ⟨⟨.comma, line⟩ :: rest, line⟩) := by
  have hcomma : Stops 0 (⟨.comma, line⟩ :: rest) := stops_of_none rfl
  have hread := (Expr.literal (.text name)).readable.alone (n + 1) line last _ hcomma
  exact Eq.trans hread (if_pos (Nat.le_add_left 1 n))

/-- Where nothing but a closing parenthesis may follow, it does, and there are no more arguments. -/
theorem argumentsFrom_closes {tail : List Located} (htail : Closes tail) {fuel : List Located}
    {es : List Expr} (h : argumentsFrom inner fuel ⟨tail, last⟩ = .ok (es, c')) :
    es = [] ∧ c'.rest = tail.tail := by
  cases fuel with
  | nil => cases h
  | cons skipped fuel =>
    cases tail with
    | nil => cases h
    | cons t rest =>
      obtain ⟨t, line⟩ := t
      cases htail t rfl
      cases h
      exact ⟨rfl, rfl⟩

/-- The arguments are the name and the expression. What closes them is the only token that may be
left. -/
theorem arguments_assigning {tail : List Located} (htail : Closes tail)
    (hread : expression n ⟨ts, 1⟩ = .ok (e, c)) (hend : c.rest = []) {k : Nat} {es : List Expr}
    (h : arguments (expression (k + 1))
      ⟨⟨.text name, 1⟩ :: ⟨.comma, 1⟩ :: (ts ++ tail), 1⟩ = .ok (es, c')) :
    es = [.literal (.text name), e] ∧ c'.rest = tail.tail := by
  have hsplit : (expression (k + 1) >>= fun first => remaining >>= fun fuel =>
      argumentsFrom (expression (k + 1)) fuel >>= fun more => Pure.pure (first :: more))
      ⟨⟨.text name, 1⟩ :: ⟨.comma, 1⟩ :: (ts ++ tail), 1⟩ = .ok (es, c') := h
  -- The first argument is the name in quotes, and the second one is the text's expression.
  obtain ⟨first, c₁, hfirst, hmore⟩ := bind_eq_ok_iff.1 hsplit
  rw [expression_text] at hfirst
  cases hfirst
  have hcomma : ((expression (k + 1) >>= fun next =>
      argumentsFrom (expression (k + 1)) (ts ++ tail) >>= fun more => Pure.pure (next :: more))
      >>= fun more => Pure.pure (Expr.literal (.text name) :: more)) ⟨ts ++ tail, 1⟩ =
      .ok (es, c') := hmore
  obtain ⟨more, c₂, hmore, hes⟩ := bind_eq_ok_iff.1 hcomma
  cases hes
  obtain ⟨next, c₃, hnext, hlast⟩ := bind_eq_ok_iff.1 hmore
  obtain ⟨rfl, hrest⟩ := expression_agrees htail hread hend hnext
  obtain ⟨others, c₄, hothers, hmore⟩ := bind_eq_ok_iff.1 hlast
  cases hmore
  obtain ⟨rest, last⟩ := c₃
  cases hrest
  obtain ⟨rfl, hrest⟩ := argumentsFrom_closes htail hothers
  exact ⟨rfl, hrest⟩

/-- The call of a function is read up to the end. -/
theorem operand_assigning {tail : List Located} (htail : Closes tail) (hone : tail.length ≤ 1)
    (hread : expression n ⟨ts, 1⟩ = .ok (e, c)) (hend : c.rest = []) {k : Nat}
    (h : Parser.operand (k + 1) ⟨onLine 1 (assigningTokens name) ++ (ts ++ tail), 1⟩ =
      .ok (e', c')) :
    e' = .call (.name "setVariable") [.literal (.text name), e] ∧ c'.rest = [] := by
  have hsplit : (arguments (expression (k + 1)) >>= fun args =>
      accessFrom (expression (k + 1)) (⟨.text name, 1⟩ :: ⟨.comma, 1⟩ :: (ts ++ tail))
        (.call (.name "setVariable") args))
      ⟨⟨.text name, 1⟩ :: ⟨.comma, 1⟩ :: (ts ++ tail), 1⟩ = .ok (e', c') := h
  obtain ⟨args, c₁, hargs, haccess⟩ := bind_eq_ok_iff.1 hsplit
  obtain ⟨rfl, hrest⟩ := arguments_assigning htail hread hend hargs
  have hnil : tail.tail = [] := List.eq_nil_of_length_eq_zero (by rw [List.length_tail]; omega)
  obtain ⟨rest, last⟩ := c₁
  cases hrest.trans hnil
  cases haccess
  exact ⟨rfl, rfl⟩

/-- The script is read as a call that assigns the text's value to the name. -/
theorem statement_assigning {tail : List Located} (htail : Closes tail) (hone : tail.length ≤ 1)
    (hread : expression n ⟨ts, 1⟩ = .ok (e, c)) (hend : c.rest = []) (s : Statement) (c' : Cursor)
    (h : statement maxDepth ⟨onLine 1 (assigningTokens name) ++ (ts ++ tail), 1⟩ = .ok (s, c')) :
    s = .evaluate (.call (.name "setVariable") [.literal (.text name), e]) ∧ c'.rest = [] := by
  have hsimple : simple (expression 63) ⟨onLine 1 (assigningTokens name) ++ (ts ++ tail), 1⟩ =
      .ok (s, c') := h
  obtain ⟨e₁, c₁, hfirst, hlast⟩ := bind_eq_ok_iff.1 hsimple
  -- What stands first is the call, and nothing is left to go on with it.
  obtain ⟨k, e₂, c₂, hk, hoperand⟩ := exists_operand_of_expression hfirst
  cases hk
  obtain ⟨rfl, hend'⟩ := operand_assigning htail hone hread hend hoperand
  rw [expression_of_operand hoperand hend'] at hfirst
  cases hfirst
  obtain ⟨rest, last⟩ := c₁
  cases hend'
  cases hlast
  exact ⟨rfl, rfl⟩

end Parser

/-- If the first script is read at all, it ends with the expression. -/
theorem program_returning (he : IsExpression text e) {p : Program}
    (hp : parse (returning text) = .ok p) : p = [.finish (some e)] := by
  obtain ⟨tokens, n, c, htokens, hread, hend⟩ := he
  exact Parser.parse_eq_of_statement
    (Lexer.lexes_returning (Lexer.tokenize_eq_ok_iff.1 htokens))
    (Parser.statement_returning hread hend) hp

/-- If the second script is read at all, it calls the function that writes variables. -/
theorem program_assigning (he : IsExpression text e) {p : Program}
    (hp : parse (assigning name text) = .ok p) :
    p = [.evaluate (.call (.name "setVariable") [.literal (.text name), e])] := by
  obtain ⟨tokens, n, c, htokens, hread, hend⟩ := he
  rcases (Lexer.tokenize_eq_ok_iff.1 htokens).close with hlexes | ⟨line, hlexes⟩
  · -- A comment takes the parenthesis up, so there is none and the script is not read at all.
    have hnone : Parser.Closes [] := fun t ht => by cases ht
    rw [← List.append_nil tokens] at hlexes
    exact Parser.parse_eq_of_statement (Lexer.lexes_assigning hlexes)
      (Parser.statement_assigning hnone (Nat.zero_le 1) hread hend) hp
  · have hclose : Parser.Closes [⟨.closeParen, line⟩] := fun t ht => by
      cases ht
      rfl
    exact Parser.parse_eq_of_statement (Lexer.lexes_assigning hlexes)
      (Parser.statement_assigning hclose (Nat.le_refl 1) hread hend) hp

/-! ### What comes out of them -/

variable {c : Context} {outcome : Outcome} {v : Value}

/-- Evaluating takes a step and then does what it is to do. -/
theorem Eval.of_evaluating {x : Eval Value} {m n : Machine}
    (h : evaluating x c m = .ok (v, n)) : x c { m with steps := m.steps + 1 } = .ok (v, n) := by
  obtain ⟨⟨⟩, m₁, htick, hnoting⟩ := bind_eq_ok_iff.1 h
  rw [eq_of_tick htick] at hnoting
  obtain ⟨v', n', hx, hnote⟩ := bind_eq_ok_iff.1 hnoting
  cases hnote
  exact hx

/-- A program of one statement runs like this statement, and ends with an overlay whose names agree
with its values. -/
theorem run_of_statement {s : Statement} (h : Program.run [s] c = .ok outcome) :
    ∃ signal m, (s.run : Eval Signal) c {} = .ok (signal, m) ∧ outcome = m.outcome signal ∧
      m.overlay.Coherent := by
  unfold Program.run at h
  rcases hr : (Statement.runAll [s] : Eval Signal) c {} with f | ⟨signal, m⟩
  all_goals rw [hr] at h
  · cases h
  · cases h
    obtain ⟨_, -, hm⟩ := Program.mirrors_of_runAll hr
    rw [Statement.runAll] at hr
    obtain ⟨signal', m', hs, hr⟩ := Eval.bind_eq_ok_iff.1 hr
    -- Behind the statement there is nothing that could change the machine or the outcome.
    have hend : m' = m ∧ m.outcome signal = m.outcome signal' := by
      cases signal' <;> cases hr <;> exact ⟨rfl, rfl⟩
    rw [hend.1] at hs
    exact ⟨signal', m, hs, hend.2, hm.coherent⟩

/-- The result of the first script is that of the value of the expression. -/
theorem run_returning (h : Program.run [.finish (some e)] c = .ok outcome) :
    ∃ v, e.ComesTo c v ∧ outcome.result = v.result := by
  obtain ⟨signal, m, hrun, rfl, -⟩ := run_of_statement h
  rw [Statement.run] at hrun
  obtain ⟨⟨⟩, m₁, htick, hrun⟩ := Eval.bind_eq_ok_iff.1 hrun
  rw [Eval.eq_of_tick htick] at hrun
  obtain ⟨v, n, hv, hend⟩ := Eval.bind_eq_ok_iff.1 hrun
  cases hend
  exact ⟨v, ⟨_, _, hv⟩, rfl⟩

/-- The function that writes variables is what its name stands for at first. -/
theorem eval_setVariable {steps : Nat} {m : Machine}
    (h : ((Expr.name "setVariable").eval : Eval Value) c { steps } = .ok (v, m)) :
    v = .host (.function .setVariable) ∧ m = { steps := steps + 1 } := by
  rw [Expr.eval] at h
  have hlookup := Eval.of_evaluating h
  cases hlookup
  exact ⟨rfl, rfl⟩

/-- The arguments are evaluated, the first of them being a text. -/
theorem evalAll_assigning {steps : Nat} {m : Machine} {args : List Value}
    (h : (Expr.evalAll [.literal (.text name), e] : Eval (List Value)) c { steps } =
      .ok (args, m)) :
    ∃ v, args = [.text name, v] ∧ (e.eval : Eval Value) c { steps := steps + 1 } = .ok (v, m) := by
  -- The arguments are evaluated from the left; the first one is a literal and takes one step.
  rw [Expr.evalAll] at h
  obtain ⟨first, m₁, hfirst, hrest⟩ := Eval.bind_eq_ok_iff.1 h
  rw [Expr.eval] at hfirst
  cases Eval.of_evaluating hfirst
  obtain ⟨others, m₂, hothers, hargs⟩ := Eval.bind_eq_ok_iff.1 hrest
  cases hargs
  rw [Expr.evalAll] at hothers
  obtain ⟨v, m₃, hv, hothers⟩ := Eval.bind_eq_ok_iff.1 hothers
  cases hothers
  exact ⟨v, rfl, hv⟩

/-- The second script writes the text of the value of the expression. -/
theorem run_assigning
    (h : Program.run [.evaluate (.call (.name "setVariable") [.literal (.text name), e])] c =
      .ok outcome) :
    ∃ v, e.ComesTo c v ∧ outcome.mutations.lookup name = some v.variableText := by
  obtain ⟨signal, m, hrun, rfl, hcoherent⟩ := run_of_statement h
  rw [Statement.run] at hrun
  obtain ⟨⟨⟩, m₁, htick, hrun⟩ := Eval.bind_eq_ok_iff.1 hrun
  rw [Eval.eq_of_tick htick] at hrun
  obtain ⟨result, m₂, hcall, hend⟩ := Eval.bind_eq_ok_iff.1 hrun
  have hsplit : (evaluating ((Expr.name "setVariable").eval >>= fun target =>
      Expr.evalAll [.literal (.text name), e] >>= callValue target) : Eval Value) c { steps := 1 } =
      .ok (result, m₂) := hcall
  obtain ⟨target, m₃, htarget, hcall⟩ := Eval.bind_eq_ok_iff.1 (Eval.of_evaluating hsplit)
  obtain ⟨rfl, rfl⟩ := eval_setVariable htarget
  obtain ⟨args, m₄, hargs, hcall⟩ := Eval.bind_eq_ok_iff.1 hcall
  obtain ⟨v, rfl, hv⟩ := evalAll_assigning hargs
  -- The function writes the value and has none itself.
  have hwrites : (store name v.variableText >>= fun _ => pure Value.undefined : Eval Value) c m₄ =
      .ok (result, m₂) := hcall
  obtain ⟨⟨⟩, m₅, hstore, hresult⟩ := Eval.bind_eq_ok_iff.1 hwrites
  obtain ⟨o, ho, rfl⟩ := Eval.write_of_store hstore
  cases hresult
  cases hend
  refine ⟨v, ⟨_, _, hv⟩, ?_⟩
  exact (hcoherent.lookup_mutations name).trans ((Overlay.get?_write ho name).trans (if_pos rfl))

/-! ### What comes out of their texts -/

/-- What an expression comes to does not depend on limits and clocks. -/
theorem Expr.ComesTo.unique {c' : Context} {v' : Value} (h : e.ComesTo c v) (hc : c.SameData c')
    (h' : e.ComesTo c' v') : v' = v := by
  obtain ⟨steps, n, hv⟩ := h
  obtain ⟨steps', n', hv'⟩ := h'
  have hm : ({ steps } : Machine).Alike { steps := steps' } := ⟨rfl, rfl, rfl, rfl⟩
  exact (Expr.eval_alike hc e hm hv hv').1

/-- A literal comes to its value. -/
theorem Expr.ComesTo.literal {l : Literal} (h : (Expr.literal l).ComesTo c v) : v = l.value := by
  obtain ⟨steps, n, hv⟩ := h
  rw [Expr.eval] at hv
  cases Eval.of_evaluating hv
  rfl

/-- What a script ends with is what is written into a variable, but for null. -/
theorem Value.getD_result (h : v ≠ .null) : v.result.getD "" = v.variableText := by
  cases v with
  | null => contradiction
  | _ => rfl

variable {limits : Limits} {elapsed : Nat → Nat} {vars : Dictionary String} {mode : Mode}
  {client : ClientContext} {source : String}

/-- What runs in the sandbox is the program that the source is parsed into. -/
theorem run_of_sandbox (h : sandbox limits elapsed source vars mode client = .ok outcome) :
    ∃ p, parse source = .ok p ∧
      Program.run p { vars, mode, client, limits, elapsed } = .ok outcome := by
  unfold sandbox program at h
  rcases hp : parse source with fault | p
  all_goals rw [hp] at h
  · cases h
  · exact ⟨p, rfl, h⟩

/-- The names of an outcome are distinct. -/
theorem nodup_of_sandbox (h : sandbox limits elapsed source vars mode client = .ok outcome) :
    (outcome.mutations.map Prod.fst).Nodup := by
  obtain ⟨p, -, hrun⟩ := run_of_sandbox h
  obtain ⟨m, vars', -, hmutations, hm⟩ := Program.runDirectly_of_run hrun
  rw [hmutations]
  exact hm.coherent.nodup_mutations

/-- The script that ends with the value of an expression has it as its result. -/
theorem sandbox_returning (he : IsExpression text e)
    (h : sandbox limits elapsed (returning text) vars mode client = .ok outcome) :
    ∃ v, e.ComesTo { vars, mode, client, limits, elapsed } v ∧ outcome.result = v.result := by
  obtain ⟨p, hp, hrun⟩ := run_of_sandbox h
  rw [program_returning he hp] at hrun
  exact run_returning hrun

/-- The script that writes the value of an expression has the text of it in the variable. -/
theorem sandbox_assigning (he : IsExpression text e)
    (h : sandbox limits elapsed (assigning name text) vars mode client = .ok outcome) :
    ∃ v, e.ComesTo { vars, mode, client, limits, elapsed } v ∧
      outcome.mutations.lookup name = some v.variableText := by
  obtain ⟨p, hp, hrun⟩ := run_of_sandbox h
  rw [program_assigning he hp] at hrun
  exact run_assigning hrun

end Dialogue.Script
