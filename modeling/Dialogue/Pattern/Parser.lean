import Dialogue.Pattern.Bracket

namespace Dialogue.Pattern

open Unicode

/-!
# From text to patterns

Groups are read with a stack of the groups around the place. Flags hold from where they are set to
the end of the group they are set in.

* `Reading`: the groups that are open, with what was read in each.
* `step`: reads one part of a pattern.
* `ofText`: the pattern that a text stands for.
-/

/-- A part of a group with the depth of its nesting; flags that are set are a part without a
pattern. -/
abbrev Part := Option Pattern × Nat

/-- What was read of a group so far, each list in reverse. -/
structure Group where
  /-- The alternatives that are complete. -/
  choices : List (Pattern × Nat) := []
  parts : List Part := []
  /-- The flags that hold after the group. -/
  outside : Flags := {}
  captures : Bool := false
deriving Repr

namespace Group

/-- Adds a part. -/
def add (g : Group) (p : Pattern) (depth : Nat) : Group :=
  { g with parts := (some p, depth) :: g.parts }

/-- Patterns one after the other. -/
def inSequence : List Pattern → Pattern
  | [] => .empty
  | [p] => p
  | p :: rest => .sequence p (inSequence rest)

/-- The alternatives of a pattern; those of a choice among them count one by one. -/
def alternatives : Pattern → List Pattern
  | .choice a b => alternatives a ++ alternatives b
  | p => [p]

/-- The set of a pattern for one character. -/
def set? : Pattern → Option Ranges
  | .one r => some r
  | _ => none

/-- Whether a set holds one character and no other. -/
def isSingle (r : Ranges) : Bool :=
  match r.spans with
  | [(a, b)] => a == b
  | _ => false

/-- The set that a choice comes to: one between single characters, or one between sets that are no
single characters. -/
def merged? (ps : List Pattern) : Option Ranges :=
  (ps.mapM set?).bind fun sets =>
    if sets.all isSingle || sets.all (!isSingle ·) then
      some (.ofList (sets.flatMap Ranges.spans))
    else none

/-- The choice of one pattern after the other. -/
def inChoice : List Pattern → Pattern
  | [] => .empty
  | [p] => p
  | p :: rest => .choice p (inChoice rest)

/-- One of several patterns. -/
def anyOf (ps : List Pattern) : Pattern :=
  let ps := ps.flatMap alternatives
  match merged? ps with
  | some r => .one r
  | none => inChoice ps

/-- The depth of a list of parts: that of a single one, else one more than the deepest. -/
def depthOf : List Nat → Nat
  | [] => 0
  | [d] => d
  | ds => ds.foldl max 0 + 1

/-- The alternative at hand. -/
def alternative (g : Group) : Pattern × Nat :=
  (inSequence ((g.parts.reverse.filterMap Prod.fst).filter fun p => !(p matches .empty)),
    depthOf (g.parts.map Prod.snd))

/-- Begins another alternative. -/
def next (g : Group) : Group := { g with choices := g.alternative :: g.choices, parts := [] }

/-- The pattern of all alternatives, with its depth. -/
def value (g : Group) : Pattern × Nat :=
  let all := (g.alternative :: g.choices).reverse
  (anyOf (all.map Prod.fst), depthOf (all.map Prod.snd))

end Group

/-- The groups that are open, from the inside out, with what holds at the place. -/
structure Reading where
  flags : Flags := {}
  group : Group := {}
  around : List Group := []
  /-- The names of capturing groups. -/
  names : List String := []
deriving Repr

/-! ### Flags -/

/-- Sets or clears a flag by its letter. -/
def Flags.set (f : Flags) (c : Char) (on : Bool) : Flags :=
  match c with
  | 'i' => { f with ignoreCase := on }
  | 'm' => { f with multiLine := on }
  | 's' => { f with dotAll := on }
  | 'R' => { f with returns := on }
  | 'x' => { f with spaced := on }
  | 'u' => { f with unicode := on }
  | _ => f

/-- Reads flags up to a colon or a closing parenthesis; tells which of the two, and whether there
was any flag. After a hyphen flags are cleared. -/
def takeFlags (f : Flags) (seen : List Char) (clear dangling : Bool) :
    List Char → Except Fault ((Flags × Bool × Char) × List Char)
  | [] => .error .groupUnclosed
  | c :: rest =>
    if c = ':' ∨ c = ')' then
      if dangling then .error .flagDangling else .ok ((f, !seen.isEmpty, c), rest)
    else if c = '-' then
      if clear then .error .flagTwice else takeFlags f (c :: seen) true true rest
    else if c ∈ ['i', 'm', 's', 'U', 'u', 'R', 'x'] then
      if c ∈ seen then .error .flagTwice
      else takeFlags (f.set c !clear) (c :: seen) clear false rest
    else .error .flagUnknown

/-! ### Groups -/

/-- Whether the name of a group may hold a character. -/
def inGroupName (c : Char) : Bool :=
  c == '_' || c == '.' || c == '[' || c == ']' || isAlphanumeric c

/-- Whether a name may name a group. -/
def isGroupName : List Char → Bool
  | [] => false
  | c :: rest => (c == '_' || isAlphabetic c) && rest.all inGroupName

namespace Reading

/-- Opens a group, in which the given flags hold. -/
def openGroup (s : Reading) (inside : Flags) (captures : Bool) : Reading :=
  { s with
    flags := inside
    group := { outside := s.flags, captures }
    around := s.group :: s.around }

/-- Opens a capturing group with a name, which stands before an angle bracket. -/
def openNamed (s : Reading) (cs : List Char) : Except Fault (Reading × List Char) :=
  let name := cs.takeWhile (· != '>')
  match cs.dropWhile (· != '>') with
  | [] => .error .groupName
  | _ :: rest =>
    if !isGroupName name then .error .groupName
    else if String.ofList name ∈ s.names then .error .groupNameTwice
    else
      .ok ({ s.openGroup s.flags true with names := String.ofList name :: s.names }, rest)

/-- Reads what follows an opening parenthesis. -/
def opening (s : Reading) (cs : List Char) : Except Fault (Reading × List Char) :=
  match s.flags.skip cs with
  | '?' :: '=' :: _ | '?' :: '!' :: _ | '?' :: '<' :: '=' :: _ | '?' :: '<' :: '!' :: _ =>
    .error .lookAround
  | '?' :: 'P' :: '<' :: rest => s.openNamed rest
  | '?' :: '<' :: rest => s.openNamed rest
  | '?' :: rest => do
    let ((inside, any, mark), rest) ← takeFlags s.flags [] false false rest
    if mark = ':' then return (s.openGroup inside false, rest)
    else if any then
      let group := { s.group with parts := (none, 0) :: s.group.parts }
      return ({ s with flags := inside, group }, rest)
    else .error .nothingToRepeat
  | rest => .ok (s.openGroup s.flags true, rest)

/-- Closes the innermost group. -/
def closing (s : Reading) : Except Fault Reading :=
  match s.around with
  | [] => .error .groupUnopened
  | outer :: around =>
    let (p, depth) := s.group.value
    let p := if s.group.captures then .captured p else p
    .ok { s with flags := s.group.outside, group := outer.add p (depth + 1), around }

end Reading

/-! ### Repetitions -/

/-- Whether a pattern takes no characters in any way. -/
def takesNothing : Pattern → Bool
  | .empty | .place _ => true
  | .one _ => false
  | .sequence a b | .choice a b => takesNothing a && takesNothing b
  | .times _ most p => most == some 0 || takesNothing p
  | .captured p => takesNothing p

/-- A repetition. What takes no characters is repeated once at most. -/
def repeated (least : Nat) (most : Option Nat) (p : Pattern) : Pattern :=
  let (least, most) :=
    if takesNothing p then (min least 1, some ((most.getD 1).min 1)) else (least, most)
  match least, most with
  | 0, some 0 => .empty
  | 1, some 1 => p
  | least, most => .times least most p

/-- Repeats the last part. -/
def Reading.repeatLast (s : Reading) (least : Nat) (most : Option Nat) : Except Fault Reading :=
  match s.group.parts with
  | (some p, depth) :: parts =>
    let group := { s.group with parts := (some (repeated least most p), depth + 1) :: parts }
    .ok { s with group }
  | _ => .error .nothingToRepeat

/-- Passes over the mark of a repetition that takes as little as it can. -/
def skipMark : List Char → List Char
  | '?' :: rest => rest
  | rest => rest

/-- Takes a decimal off, with blanks around it. None if there are no digits. -/
def takeCount (f : Flags) (cs : List Char) : Except Fault (Option Nat × List Char) :=
  let cs := cs.dropWhile isBlank
  let digits := cs.takeWhile Char.isDigit
  let rest := f.skip ((cs.dropWhile Char.isDigit).dropWhile isBlank)
  if digits.isEmpty then .ok (none, rest)
  else
    let n := digits.foldl (fun n c => n * 10 + (c.toNat - '0'.toNat)) 0
    if 4294967295 < n then .error .countTooLarge else .ok (some n, rest)

/-- Takes a count in braces off, after the opening brace: `{n}`, `{n,}` or `{n,m}`. -/
def takeCounts (f : Flags) (cs : List Char) :
    Except Fault ((Nat × Option Nat) × List Char) := do
  if (f.skip cs).isEmpty then .error .countUnclosed
  let (least, rest) ← takeCount f (f.skip cs)
  match least, rest with
  | _, [] => .error .countUnclosed
  | none, _ => .error .countEmpty
  | some least, '\x7d' :: rest => return ((least, some least), rest)
  | some least, ',' :: rest =>
    match f.skip rest with
    | [] => .error .countUnclosed
    | '\x7d' :: rest => return ((least, none), rest)
    | rest =>
      let (most, rest) ← takeCount f rest
      match most, rest with
      | none, _ => .error .countEmpty
      | some most, '\x7d' :: rest =>
        if most < least then .error .countReversed else return ((least, some most), rest)
      | _, _ => .error .countUnclosed
  | _, _ => .error .countUnclosed

/-! ### The whole -/

/-- Any character that the full stop stands for. -/
def anyCharacter (f : Flags) : Except Fault Ranges :=
  if !f.unicode then .error .notText
  else if f.dotAll then .ok allRanges
  else if f.returns then .ok ((Ranges.ofCodes [10, 13]).complement lastCode)
  else .ok ((Ranges.ofCodes [10]).complement lastCode)

/-- The condition that a circumflex stands for. -/
def lineStart (f : Flags) : Condition :=
  if f.multiLine then if f.returns then .startLineReturn else .startLine else .start

/-- The condition that a dollar sign stands for. -/
def lineStop (f : Flags) : Condition :=
  if f.multiLine then if f.returns then .stopLineReturn else .stopLine else .stop

/-- Adds a part without nesting. -/
def Reading.add (s : Reading) (p : Pattern) (depth : Nat) : Reading :=
  { s with group := s.group.add p depth }

/-- The pattern of an escape. -/
def Escape.pattern (f : Flags) : Escape → Except Fault Pattern
  | .char c => (f.single c).map .one
  | .set r => (f.finish r).map .one
  | .place condition => .ok (.place condition)

/-- Reads the part of a pattern that begins with a character. -/
def step (s : Reading) (c : Char) (rest : List Char) : Except Fault (Reading × List Char) :=
  match c with
  | '(' => s.opening rest
  | ')' => s.closing.map fun s => (s, rest)
  | '|' => .ok ({ s with group := s.group.next }, rest)
  | '[' => do
    let ((r, depth), rest) ← bracketed s.flags rest
    return (s.add (.one (← s.flags.finish r)) depth, rest)
  | '?' => (s.repeatLast 0 (some 1)).map fun s => (s, skipMark rest)
  | '*' => (s.repeatLast 0 none).map fun s => (s, skipMark rest)
  | '+' => (s.repeatLast 1 none).map fun s => (s, skipMark rest)
  | '\x7b' => do
    if let [] := s.group.parts then .error .nothingToRepeat
    let ((least, most), rest) ← takeCounts s.flags rest
    return (← s.repeatLast least most, skipMark (s.flags.skip rest))
  | '\\' => do
    let (e, rest) ← escape s.flags rest
    return (s.add (← e.pattern s.flags) 0, rest)
  | '.' => (anyCharacter s.flags).map fun r => (s.add (.one r) 0, rest)
  | '^' => .ok (s.add (.place (lineStart s.flags)) 0, rest)
  | '$' => .ok (s.add (.place (lineStop s.flags)) 0, rest)
  | c => (s.flags.single c).map fun r => (s.add (.one r) 0, rest)

/-- Reads up to the end. Every turn takes a character. -/
def readFrom : List Char → Reading → List Char → Except Fault Reading
  | [], s, _ => .ok s
  | _ :: fuel, s, cs =>
    match s.flags.skip cs with
    | [] => .ok s
    | c :: rest => do
      let (s, rest) ← step s c rest
      readFrom fuel s rest

/-- How deep the parts of a pattern may be nested. -/
def maxDepth : Nat := 250

/-- The pattern that a text stands for. -/
def ofText (text : String) : Except Fault Pattern := do
  let s ← readFrom text.toList {} text.toList
  if !s.around.isEmpty then .error .groupUnclosed
  let (p, depth) := s.group.value
  if maxDepth < depth then .error .tooDeep else return p

end Dialogue.Pattern
