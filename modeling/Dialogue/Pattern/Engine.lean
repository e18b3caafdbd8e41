namespace Dialogue.Pattern

/-!
# Pattern engines

What a pattern means is decided by an engine: it builds a test of texts out of the text of a
pattern, or tells why there is none. Flows only ever ask an engine, whichever it is.

* `Engine`: builds patterns, within a limit on their size.
* `Engine.Bounded`: what is promised of an engine: the patterns that it accepts are those of a
  syntax whose size keeps to the limit.
* `Engine.Within`: a pattern of that syntax and size.
-/

/-- The limit on the size of a pattern, in bytes, where none is set. -/
def defaultLimit : Nat := 10485760

/-- What builds patterns. -/
structure Engine where
  /-- The test whether a pattern matches somewhere in a text, or why it cannot be used, in words. A
  limit on the size of what is built may be set, in bytes. -/
  build : (limit : Option Nat) → (pattern : String) → Except String (String → Bool)

namespace Engine

/-- An engine that accepts no pattern. -/
def refusing : Engine where
  build _ _ := .error "no patterns"

/-- A pattern is one of a syntax, and its size keeps to a limit. -/
def Within (valid : String → Prop) (size : String → Nat) (limit : Nat) (pattern : String) : Prop :=
  valid pattern ∧ size pattern ≤ limit

/-- An engine accepts the patterns of a syntax that keep to the limit that is set, or to the default
one, and no others. -/
structure Bounded (engine : Engine) (valid : String → Prop) (size : String → Nat) : Prop where
  accepts_iff : ∀ limit pattern, (∃ test, engine.build limit pattern = .ok test) ↔
    Within valid size (limit.getD defaultLimit) pattern

end Engine

end Dialogue.Pattern
