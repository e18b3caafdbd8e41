import Dialogue.Pattern.Parser

namespace Dialogue.Pattern

open Unicode

/-!
# The size of automata

A pattern is limited by the size of the automaton that reads the bytes of a text. The automaton
exists in two directions, and both have to keep to the limit.

A state takes 32 bytes, each of its transitions on byte ranges 8 more, each of its alternatives 4.
A set of characters is spelled out in the bytes of its characters; forwards, equal ends of
spellings share states, backwards, equal beginnings do.

* `spellings`: the byte ranges that the characters of a set are written with.
* `Pattern.size`: the size of the automaton of a pattern.
-/

/-- The byte ranges of some characters, from the first byte to the last. -/
abbrev Spelling := List (Nat × Nat)

/-- The spellings of numbers by a number of bytes that hold six bits each. -/
def tailSpellings : Nat → Nat → Nat → List Spelling
  | 0, _, _ => [[]]
  | n + 1, low, high =>
    let unit := Nat.pow 64 n
    let (a, b) := (low / unit, high / unit)
    let byte (a b : Nat) : Nat × Nat := (0x80 + a, 0x80 + b)
    if a = b then (tailSpellings n (low % unit) (high % unit)).map (byte a a :: ·)
    else
      let first := if low % unit = 0 then []
        else (tailSpellings n (low % unit) (unit - 1)).map (byte a a :: ·)
      let last := if high % unit = unit - 1 then []
        else (tailSpellings n 0 (high % unit)).map (byte b b :: ·)
      let (a', b') := (if first.isEmpty then a else a + 1, if last.isEmpty then b + 1 else b)
      let whole :=
        if a' < b' then [byte a' (b' - 1) :: List.replicate n (0x80, 0xBF)] else []
      first ++ whole ++ last

/-- The spellings of code points that take the same number of bytes, `n` of them after the first.
The first one is marked by `mark`. -/
def spellingsOf (mark n low high : Nat) : List Spelling :=
  (tailSpellings (n + 1) low high).map fun s =>
    match s with
    | [] => []
    | (a, b) :: rest => (a - 0x80 + mark, b - 0x80 + mark) :: rest

/-- The code points that take the same number of bytes: the first and the last one, the mark of the
first byte, and the number of further bytes. -/
def byteClasses : List (Nat × Nat × Nat × Nat) :=
  [ (0x80, 0x7FF, 0xC0, 1), (0x800, 0xD7FF, 0xE0, 2), (0xE000, 0xFFFF, 0xE0, 2),
    (0x10000, lastCode, 0xF0, 3) ]

/-- The spellings of a range of code points. Surrogates have none. -/
def spellings (low high : Nat) : List Spelling :=
  (if low ≤ 0x7F then [[(low, min high 0x7F)]] else []) ++
    byteClasses.flatMap fun (first, last, mark, n) =>
      if max low first ≤ min high last then spellingsOf mark n (max low first) (min high last)
      else []

/-! ### Shared states -/

/-- Groups neighbouring spellings that begin alike. -/
def groupHeads : List Spelling → List ((Nat × Nat) × List Spelling)
  | [] => []
  | [] :: rest => groupHeads rest
  | (h :: tail) :: rest =>
    match groupHeads rest with
    | (h', tails) :: groups =>
      if h = h' then (h, tail :: tails) :: groups else (h, [tail]) :: (h', tails) :: groups
    | [] => [(h, [tail])]

/-- A state: its transitions, each with the number of the state that it leads to. -/
abbrev State := List ((Nat × Nat) × Nat)

/-- The number of the state for some spellings, with all states found so far. States with the same
transitions are one; state 0 ends a character. `depth` bounds the length of the spellings. -/
def stateOf : Nat → List Spelling → List State → Nat × List State
  | 0, _, states => (0, states)
  | depth + 1, ss, states =>
    match groupHeads ss with
    | [] => (0, states)
    | groups =>
      let (transitions, states) := groups.foldl (fun (done, states) (h, tails) =>
        let (target, states) := stateOf depth tails states
        ((h, target) :: done, states)) ([], states)
      match states.reverse.findIdx? (· == transitions) with
      | some i => (i + 1, states)
      | none => (states.length + 1, transitions :: states)

/-- The size of the states that read a set forwards. -/
def forwardSize (ss : List Spelling) : Nat :=
  let states := (stateOf 4 ss []).2
  states.foldl (fun n s => n + 32 + 8 * s.length) 32

/-- The number of different beginnings of spellings. -/
def beginnings : Nat → List Spelling → Nat
  | 0, _ => 0
  | depth + 1, ss =>
    (groupHeads ss).foldl (fun n (_, tails) => n + 1 + beginnings depth tails) 0

/-- The size of the states that read a set backwards. -/
def backwardSize (ss : List Spelling) : Nat :=
  64 + 32 * beginnings 4 ss + 4 * ss.length

/-- The direction in which an automaton reads. -/
inductive Direction
  | forwards
  | backwards
deriving Repr, DecidableEq

/-- The size of the states that read one character of a set. -/
def setSize (d : Direction) (r : Ranges) : Nat :=
  match r.spans with
  | [] => 64
  | [(a, b)] =>
    if a = b then 32 * ((spellings a a).headD []).length
    else if b ≤ 0x7F then 72
    else general
  | spans => if spans.all (·.2 ≤ 0x7F) then 64 + 8 * spans.length else general
where
  /-- The size for a set with characters outside ASCII. -/
  general : Nat :=
    let ss := r.spans.flatMap fun s => spellings s.1 s.2
    match d with
    | .forwards => forwardSize ss
    | .backwards => backwardSize ss

/-! ### The size of a pattern -/

/-- Whether every match takes a character. -/
def takesSome : Pattern → Bool
  | .empty | .place _ => false
  | .one r => !r.spans.isEmpty
  | .sequence a b => takesSome a || takesSome b
  | .choice a b => takesSome a && takesSome b
  | .times least _ p => 0 < least && takesSome p
  | .captured p => takesSome p

/-- The size of a repetition of a pattern that has the size `n`. -/
def timesSize (n least : Nat) (most : Option Nat) (long : Bool) : Nat :=
  match most with
  | some most =>
    if least = 0 ∧ most = 1 then n + 72
    else if least = most then if least = 0 then 32 else least * n
    else (if least = 0 then 32 else least * n) + 32 + (most - least) * (n + 40)
  | none =>
    if least = 0 then if long then n + 40 else n + 112
    else least * n + 40

/-- The size of the automaton of a pattern. The alternatives of one choice share the states at its
ends; `shared` tells that they have been counted. -/
def size (d : Direction) (shared : Bool) : Pattern → Nat
  | .empty => (if shared then 4 else 0) + 32
  | .one r => (if shared then 4 else 0) + setSize d r
  | .place _ => (if shared then 4 else 0) + 32
  | .sequence a b => (if shared then 4 else 0) + size d false a + size d false b
  | .choice a b => (if shared then 0 else 64) + (4 + size d false a) + size d true b
  | .times least most p =>
    (if shared then 4 else 0) + timesSize (size d false p) least most (takesSome p)
  | .captured p =>
    (if shared then 4 else 0) + size d false p + (if d = .forwards then 64 else 0)

/-- The size of the states around a pattern: those that pass over what stands before a match, the
whole match as a group, and the end. -/
def frameSize : Direction → Nat
  | .forwards => 208
  | .backwards => 144

/-- Whether the automata of a pattern keep to a limit. -/
def fits (limit : Nat) (p : Pattern) : Bool :=
  [Direction.forwards, .backwards].all fun d => size d false p + frameSize d ≤ limit

end Dialogue.Pattern
