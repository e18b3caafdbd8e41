import Dialogue.Json.Token
import Dialogue.Proofs.Decimal.Digits
import Mathlib.Data.List.Chain

namespace Dialogue.Json

open Decimal

/-!
# Tokens read back

What is written for a token is scanned as that token, whatever follows. Numbers are the exception
twice over: an integer beyond 64 bits is read as something else or not at all, and two numbers must
not stand side by side.

* `textBody_escaped`: a text in quotes.
* `rereadInt`: what an integer is read back as; `rereadInt_inRange`, `eq_of_rereadInt`.
* `Token.reread?`: what a token is read back as.
* `Token.scanFrom_texts`: the tokens of a text made of tokens.
-/

/-! ### Texts -/

/-- A hexadecimal digit is read back. -/
theorem hexDigit?_hexChar {n : Nat} (h : n < 16) : Text.hexDigit? (Text.hexChar n) = some n := by
  have hall : ∀ n < 16, Text.hexDigit? (Text.hexChar n) = some n := by decide
  exact hall n h

/-- The escape of a control character names its code. -/
theorem hex4?_hexChar {n : Nat} (h : n < 256) :
    hex4? '0' '0' (Text.hexChar (n / 16)) (Text.hexChar (n % 16)) = some n := by
  have hzero : Text.hexDigit? '0' = some 0 := by decide
  unfold hex4?
  rw [hzero, hexDigit?_hexChar (by omega), hexDigit?_hexChar (by omega)]
  show some (((0 * 16 + 0) * 16 + n / 16) * 16 + n % 16) = some n
  congr 1
  omega

/-- An escaped character is read as the character. -/
theorem textBody_escapeChar (done rest : List Char) (c : Char) :
    textBody done (escapeChar c ++ rest) = textBody (c :: done) rest := by
  have hshort : ∀ e c', e ≠ 'u' → escaped? e = some c' →
      textBody done ('\\' :: e :: rest) = textBody (c' :: done) rest := by
    intro e c' hne he
    rw [textBody.eq_5 _ _ _ fun _ _ _ _ _ hu _ => hne hu, he]
  -- The writer tries the escapes one after the other, and so does the proof.
  unfold escapeChar
  split
  case isTrue h => exact h ▸ hshort '"' '"' (by decide) rfl
  case isFalse hquote =>
  split
  case isTrue h => exact h ▸ hshort '\\' '\\' (by decide) rfl
  case isFalse hbackslash =>
  split
  case isTrue h => exact h ▸ hshort 'b' '\x08' (by decide) rfl
  split
  case isTrue h => exact h ▸ hshort 'f' '\x0c' (by decide) rfl
  split
  case isTrue h => exact h ▸ hshort 'n' '\n' (by decide) rfl
  split
  case isTrue h => exact h ▸ hshort 'r' '\r' (by decide) rfl
  split
  case isTrue h => exact h ▸ hshort 't' '\t' (by decide) rfl
  split
  case isTrue hcontrol =>
    -- A control character without an escape of its own stands as four hexadecimal digits.
    show textBody done ('\\' :: 'u' :: '0' :: '0' :: Text.hexChar (c.toNat / 16) ::
      Text.hexChar (c.toNat % 16) :: rest) = _
    rw [textBody.eq_3, hex4?_hexChar (by omega)]
    dsimp only
    rw [if_neg (by omega), if_neg (by omega), Char.ofNat_toNat]
  case isFalse hcontrol =>
    show textBody done (c :: rest) = _
    rw [textBody.eq_6 _ _ _ hquote (fun _ _ _ _ _ h _ => hbackslash h)
      (fun h _ => hbackslash h) fun _ _ h _ => hbackslash h, if_neg hcontrol]

/-- A text in quotes is read as the text. -/
theorem textBody_escaped (done rest cs : List Char) :
    textBody done (cs.flatMap escapeChar ++ '"' :: rest) =
      .ok (String.ofList (done.reverse ++ cs), rest) := by
  induction cs generalizing done with
  | nil =>
    rw [List.append_nil]
    exact textBody.eq_2 done rest
  | cons c cs ih =>
    rw [List.flatMap_cons, List.append_assoc, textBody_escapeChar, ih, List.reverse_cons,
      List.append_assoc]
    rfl

/-! ### Integers -/

/-- The way an integer is written. -/
def Written.ofInt (n : Int) : Written := ⟨n < 0, digitChars n.natAbs, [], none⟩

/-- What an integer is read back as, if at all. -/
def rereadInt (n : Int) : Option Number := (Written.ofInt n).value.toOption

/-- A text at which a number ends. -/
def EndsNumber (cs : List Char) : Prop :=
  ∀ c, cs.head? = some c → c.isDigit = false ∧ c ≠ '.' ∧ c ≠ 'e' ∧ c ≠ 'E'

/-- No places follow where a number ends. -/
theorem takePlaces_of_endsNumber {rest : List Char} (h : EndsNumber rest) :
    takePlaces rest = .ok ([], rest) := by
  unfold takePlaces
  split
  · exact absurd rfl (h '.' rfl).2.1
  · rfl

/-- No exponent follows where a number ends. -/
theorem takeExponent_of_endsNumber {rest : List Char} (h : EndsNumber rest) :
    takeExponent rest = .ok (none, rest) := by
  have hhead : ∀ c cs, rest = c :: cs → ¬(c = 'e' ∨ c = 'E') := by
    rintro c cs rfl (rfl | rfl)
    · exact (h 'e' rfl).2.2.1 rfl
    · exact (h 'E' rfl).2.2.2 rfl
  unfold takeExponent
  split
  · exact if_neg (hhead _ _ rfl)
  · exact if_neg (hhead _ _ rfl)
  · exact if_neg (hhead _ _ rfl)
  · rfl

/-- The digits of a number are taken off as they were written. -/
theorem takeUnsigned_digitChars (negative : Bool) (n : Nat) {rest : List Char}
    (h : EndsNumber rest) :
    takeUnsigned negative (digitChars n ++ rest) =
      .ok (⟨negative, digitChars n, [], none⟩, rest) := by
  have hdigits : ∀ c ∈ digitChars n, c.isDigit := fun c hc => isDigit_of_mem_digitChars hc
  have hend : NoDigitHead rest := fun c hc => (h c hc).1
  unfold takeUnsigned
  rw [takeWhile_digits hdigits hend, dropWhile_digits hdigits hend, takePlaces_of_endsNumber h]
  dsimp only
  rw [takeExponent_of_endsNumber h]
  split
  · rename_i hnil
    exact absurd hnil (digitChars_ne_nil n)
  · rename_i hzero
    cases eq_singleton_of_digitChars hzero
  · rfl

/-- An integer is taken off a text as it was written. -/
theorem takeNumber_intText (n : Int) {rest : List Char} (h : EndsNumber rest) :
    takeNumber (Layout.intText n ++ rest) = (Written.ofInt n).value.map fun m => (m, rest) := by
  unfold takeNumber Layout.intText Written.ofInt
  by_cases hn : n < 0
  · simp only [hn, if_true, List.cons_append, takeMinus, decide_true]
    rw [takeUnsigned_digitChars true n.natAbs h]
  · have hminus : takeMinus (digitChars n.natAbs ++ rest) =
        (false, digitChars n.natAbs ++ rest) := by
      obtain ⟨c, cs, hcs⟩ := List.exists_cons_of_ne_nil (digitChars_ne_nil n.natAbs)
      have hc : c.isDigit := isDigit_of_mem_digitChars (n := n.natAbs) (by rw [hcs]; simp)
      rw [hcs]
      unfold takeMinus
      split
      · rename_i hcons
        obtain ⟨rfl, -⟩ := List.cons.inj hcons
        exact absurd hc (by decide)
      · rfl
    simp only [hn, if_false, hminus, decide_false]
    rw [takeUnsigned_digitChars false n.natAbs h]

/-- A significand that is full stays full. -/
theorem full_foldl_pushWhole (cs : List Char) {s : Significand} (h : s.full) :
    (cs.foldl Significand.pushWhole s).full := by
  induction cs generalizing s with
  | nil => exact h
  | cons c cs ih =>
    rw [List.foldl_cons]
    refine ih ?_
    unfold Significand.pushWhole
    rw [if_pos h]

/-- More digits make no number smaller. -/
theorem le_ofDigitChars (cs : List Char) (n : Nat) : n ≤ Nat.ofDigitChars 10 cs n := by
  rw [Nat.ofDigitChars_eq_ofDigitChars_zero]
  have hpos : 0 < 10 ^ cs.length := Nat.pow_pos (by decide)
  exact Nat.le_add_right_of_le (Nat.le_mul_of_pos_left n hpos)

/-- Digits before the point are counted exactly, or there are more of them than 64 bits hold. -/
theorem foldl_pushWhole (cs : List Char) (n : Nat) :
    cs.foldl Significand.pushWhole ⟨n, 0, false⟩ = ⟨Nat.ofDigitChars 10 cs n, 0, false⟩ ∨
      (cs.foldl Significand.pushWhole ⟨n, 0, false⟩).full ∧
        greatestWord < Nat.ofDigitChars 10 cs n := by
  -- Once the count is beyond 64 bits it stays there, since more digits only make it larger.
  induction cs generalizing n with
  | nil => exact .inl rfl
  | cons c cs ih =>
    have hdigit : 10 * n + (c.toNat - '0'.toNat) = n * 10 + Significand.digit c := by
      unfold Significand.digit
      omega
    rw [List.foldl_cons, Nat.ofDigitChars_cons, hdigit]
    by_cases hlarge : greatestWord < n * 10 + Significand.digit c
    · refine .inr ⟨?_, Nat.lt_of_lt_of_le hlarge (le_ofDigitChars cs _)⟩
      refine full_foldl_pushWhole cs ?_
      unfold Significand.pushWhole
      rw [if_neg Bool.false_ne_true, if_pos hlarge]
    · have hpush : Significand.pushWhole ⟨n, 0, false⟩ c =
          ⟨n * 10 + Significand.digit c, 0, false⟩ := by
        unfold Significand.pushWhole
        rw [if_neg Bool.false_ne_true, if_neg hlarge]
      rw [hpush]
      exact ih _

/-- The digits of a number are counted exactly, or it is beyond 64 bits. -/
theorem foldl_digitChars (n : Nat) :
    (digitChars n).foldl Significand.pushWhole {} = ⟨n, 0, false⟩ ∨
      ((digitChars n).foldl Significand.pushWhole {}).full ∧ greatestWord < n := by
  have hvalue : Nat.ofDigitChars 10 (digitChars n) 0 = n := Nat.ofDigitChars_ten_toDigits
  have h := foldl_pushWhole (digitChars n) 0
  rwa [hvalue] at h

/-- What is put together from a significand is no integer. -/
theorem assembled_ne_int {w : Written} {s : Significand} {exponent m : Int} :
    (w.assembled s exponent).toOption ≠ some (.int m) := by
  unfold Written.assembled
  split <;> simp [Except.toOption]

/-- An integer that is read back as an integer is read back as itself. -/
theorem eq_of_rereadInt {n m : Int} (h : rereadInt n = some (.int m)) : m = n := by
  unfold rereadInt Written.value Written.ofInt at h
  dsimp only at h
  -- A number that is beyond 64 bits is read as a float, or not at all.
  rcases foldl_digitChars n.natAbs with hexact | ⟨hfull, -⟩
  · rw [hexact, if_neg Bool.false_ne_true] at h
    by_cases hn : n < 0
    · rw [if_neg (by simp [hn])] at h
      split at h
      · exact absurd h assembled_ne_int
      · have hm : -(n.natAbs : Int) = m := by simpa [Except.toOption] using h
        omega
    · rw [if_pos (by simp [hn])] at h
      have hm : (n.natAbs : Int) = m := by simpa [Except.toOption] using h
      omega
  · rw [if_pos hfull] at h
    exact absurd h assembled_ne_int

/-- An integer of 64 bits is read back as itself. -/
theorem rereadInt_inRange {n : Int} (hleast : leastInteger ≤ n) (hmost : n ≤ greatestWord) :
    rereadInt n = some (.int n) := by
  have hbound : n.natAbs ≤ greatestWord := by
    unfold leastInteger at hleast
    unfold greatestWord at hmost ⊢
    omega
  unfold rereadInt Written.value Written.ofInt
  dsimp only
  rcases foldl_digitChars n.natAbs with hexact | ⟨-, hlarge⟩
  · rw [hexact, if_neg Bool.false_ne_true]
    by_cases hn : n < 0
    · have hsmall : ¬(n.natAbs = 0 ∨ -leastInteger < (n.natAbs : Int)) := by omega
      rw [if_neg (by simp [hn]), if_neg hsmall]
      show some (Number.int (-(n.natAbs : Int))) = some (.int n)
      rw [show -(n.natAbs : Int) = n by omega]
    · rw [if_pos (by simp [hn])]
      show some (Number.int (n.natAbs : Int)) = some (.int n)
      rw [show (n.natAbs : Int) = n by omega]
  · omega

/-! ### Tokens -/

namespace Token

/-- Whether a token is a number. -/
def isNumber : Token → Bool
  | num _ => true
  | _ => false

/-- Whether a token is a number that is no integer. -/
def isFloat : Token → Bool
  | num (.float _) => true
  | _ => false

/-- What a token is read back as, if at all. What is told of it here holds of tokens that are no
floats. -/
def reread? : Token → Option Token
  | num (.int n) => (rereadInt n).map num
  | t => some t

/-- What is written for a token starts with no blank, and with no sign at which a number would go on
unless the token is a number itself. -/
theorem text_cons (t : Token) (hfloat : t.isFloat = false) :
    ∃ c cs, t.text = c :: cs ∧ isGap c = false ∧
      (t.isNumber = false → c.isDigit = false ∧ c ≠ '.' ∧ c ≠ 'e' ∧ c ≠ 'E') := by
  cases t with
  | num n =>
    cases n with
    | float bits => cases hfloat
    | int n =>
      have hgap : ∀ c : Char, c.isDigit → isGap c = false := by
        intro c hc
        unfold isGap
        simp only [Bool.or_eq_false_iff, beq_eq_false_iff_ne]
        refine ⟨⟨⟨?_, ?_⟩, ?_⟩, ?_⟩ <;> rintro rfl <;> exact absurd hc (by decide)
      obtain ⟨c, cs, hcs⟩ := List.exists_cons_of_ne_nil (digitChars_ne_nil n.natAbs)
      have hc : c.isDigit := isDigit_of_mem_digitChars (n := n.natAbs) (by rw [hcs]; simp)
      by_cases hn : n < 0
      · refine ⟨'-', digitChars n.natAbs, ?_, by decide, fun h => by cases h⟩
        simp [text, Number.text, Layout.intText, hn]
      · refine ⟨c, cs, ?_, hgap c hc, fun h => by cases h⟩
        simp [text, Number.text, Layout.intText, hn, hcs]
  | bool b => cases b <;> exact ⟨_, _, rfl, by decide, fun _ => by decide⟩
  | _ => exact ⟨_, _, rfl, by decide, fun _ => by decide⟩

/-- A sign or a digit starts a number. -/
theorem next_of_number {c : Char} {cs : List Char} (h : c = '-' ∨ c.isDigit) :
    next (c :: cs) = (takeNumber (c :: cs)).map fun (n, rest) => (num n, rest) := by
  unfold next
  split
  -- All other tokens start with a character that is neither.
  case h_12 =>
    rename_i hcons
    obtain ⟨rfl, rfl⟩ := List.cons.inj hcons
    rw [if_pos h]
  case h_1 => rename_i hcons; cases hcons
  all_goals
    rename_i hcons
    obtain ⟨rfl, -⟩ := List.cons.inj hcons
    exact absurd h (by decide)

/-- A token is taken off the text that starts with it. -/
theorem next_text (t : Token) (hfloat : t.isFloat = false) {rest : List Char}
    (hrest : t.isNumber → EndsNumber rest) :
    (next (t.text ++ rest)).toOption = t.reread?.map fun t => (t, rest) := by
  cases t with
  | num n =>
    cases n with
    | float bits => cases hfloat
    | int n =>
      obtain ⟨c, cs, hcs, -⟩ := text_cons (num (.int n)) hfloat
      have htext : Layout.intText n = c :: cs := hcs
      have hhead : c = '-' ∨ c.isDigit := by
        unfold Layout.intText at htext
        split at htext
        · exact .inl (List.cons.inj htext).1.symm
        · exact .inr (isDigit_of_mem_digitChars (n := n.natAbs) (by rw [htext]; simp))
      rw [hcs, List.cons_append, next_of_number hhead, ← List.cons_append, ← htext,
        takeNumber_intText n (hrest rfl)]
      show _ = ((rereadInt n).map num).map fun t => (t, rest)
      unfold rereadInt
      cases (Written.ofInt n).value <;> rfl
  | str s =>
    show (next ('"' :: (s.toList.flatMap escapeChar ++ ['"'] ++ rest))).toOption = _
    have hbody := textBody_escaped [] rest s.toList
    rw [List.append_assoc]
    unfold next
    show ((textBody [] (s.toList.flatMap escapeChar ++ '"' :: rest)).map _).toOption = _
    rw [hbody]
    show some (str (String.ofList s.toList), rest) = _
    rw [String.ofList_toList]
    rfl
  | bool b => cases b <;> rfl
  | _ => rfl

/-! ### Scanning -/

theorem scanFrom_nil (done : List Token) : scanFrom done [] = (done.reverse, none) := by
  unfold scanFrom
  rfl

/-- One token of a text that starts with no blank. -/
theorem scanFrom_cons (done : List Token) {c : Char} (cs : List Char) (hgap : isGap c = false) :
    scanFrom done (c :: cs) =
      match next (c :: cs) with
      | .ok (t, rest) => scanFrom (t :: done) rest
      | .error fault => (done.reverse, some fault) := by
  have hdrop : (c :: cs).dropWhile isGap = c :: cs := by simp [hgap]
  rw [scanFrom]
  split
  · rename_i hnil
    rw [hdrop] at hnil
    cases hnil
  · rename_i c' cs' hcons
    rw [hdrop] at hcons
    obtain ⟨rfl, rfl⟩ := List.cons.inj hcons
    split <;> rename_i hnext <;> rw [hnext]

/-- Two tokens may stand side by side unless both are numbers. -/
def Apart (a b : Token) : Prop := ¬(a.isNumber ∧ b.isNumber)

/-- A number ends where a token follows that is no number. -/
theorem endsNumber_texts {t : Token} {ts : List Token} (h : (t :: ts).IsChain Apart)
    (hfloat : ∀ t ∈ ts, t.isFloat = false) (ht : t.isNumber) :
    EndsNumber (ts.flatMap text) := by
  intro c hc
  cases ts with
  | nil => cases hc
  | cons next rest =>
    obtain ⟨d, ds, hds, -, hend⟩ := text_cons next (hfloat next List.mem_cons_self)
    have hnext : next.isNumber = false := by
      have hapart := (List.isChain_cons_cons.1 h).1
      cases hn : next.isNumber with
      | false => rfl
      | true => exact absurd ⟨ht, hn⟩ hapart
    rw [List.flatMap_cons, hds] at hc
    obtain rfl := Option.some.inj hc
    exact hend hnext

/-- The tokens of a text made of tokens are what they are read back as; one that is not read back
ends the text with a fault. -/
theorem scanFrom_texts (done : List Token) {ts : List Token} (hapart : ts.IsChain Apart)
    (hfloat : ∀ t ∈ ts, t.isFloat = false) :
    match ts.mapM reread? with
    | some read => scanFrom done (ts.flatMap text) = (done.reverse ++ read, none)
    | none => ∃ read fault, scanFrom done (ts.flatMap text) = (read, some fault) := by
  -- Each token is taken off the text of all that follow it, where it ends since its next does.
  induction ts generalizing done with
  | nil =>
    show scanFrom done [] = (done.reverse ++ [], none)
    rw [scanFrom_nil, List.append_nil]
  | cons t ts ih =>
    have hfloats : ∀ t ∈ ts, t.isFloat = false := fun u hu => hfloat u (List.mem_cons_of_mem t hu)
    have ht := hfloat t List.mem_cons_self
    have hnext := next_text t ht fun hn => endsNumber_texts hapart hfloats hn
    obtain ⟨c, cs, hcs, hgap, -⟩ := text_cons t ht
    rw [List.flatMap_cons, List.mapM_cons]
    rw [hcs, List.cons_append] at hnext ⊢
    rw [scanFrom_cons done _ hgap]
    cases hreread : t.reread? with
    | none =>
      rw [hreread] at hnext
      cases hstep : next (c :: (cs ++ ts.flatMap text)) with
      | ok a => rw [hstep] at hnext; cases hnext
      | error fault => exact ⟨_, fault, rfl⟩
    | some u =>
      rw [hreread] at hnext
      cases hstep : next (c :: (cs ++ ts.flatMap text)) with
      | error fault => rw [hstep] at hnext; cases hnext
      | ok a =>
        rw [hstep] at hnext
        obtain rfl := Option.some.inj hnext
        have hrest := ih (u :: done) hapart.tail hfloats
        cases hmap : ts.mapM reread? with
        | none =>
          rw [hmap] at hrest
          exact hrest
        | some read =>
          rw [hmap] at hrest
          show scanFrom (u :: done) (ts.flatMap text) = (done.reverse ++ u :: read, none)
          rw [hrest, List.reverse_cons, List.append_assoc]
          rfl

end Token

end Dialogue.Json
