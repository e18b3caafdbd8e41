import Dialogue.Dictionary
import Dialogue.Unicode.Classes

namespace Dialogue.Text

/-!
# Templates

A text may hold tokens `{{name}}`, a name of word characters between doubled braces. A
token stands for the value of the variable.

* `Template.pieces`: the characters and tokens of a text, from left to right.
* `interpolate`: the text with the tokens of set variables replaced. A token of a variable that is
  not set stays as it is written, and values are not looked at again.
-/

/-- A part of a text: one character, or a token. -/
inductive Piece
  | char (c : Char)
  | token (name : List Char)
deriving Repr, DecidableEq

namespace Piece

/-- A part as it is written. -/
def source : Piece → List Char
  | char c => [c]
  | token name => '\x7b' :: '\x7b' :: (name ++ ['\x7d', '\x7d'])

end Piece

namespace Template

/-- The name of the token at the head of a text, and what follows the token. -/
def token? : List Char → Option (List Char × List Char)
  | '\x7b' :: '\x7b' :: cs =>
    match cs.takeWhile Unicode.isWord, cs.dropWhile Unicode.isWord with
    | [], _ => none
    | name, '\x7d' :: '\x7d' :: rest => some (name, rest)
    | _, _ => none
  | _ => none

theorem eq_of_token? {cs name rest : List Char} (h : token? cs = some (name, rest)) :
    cs = (Piece.token name).source ++ rest := by
  unfold token? at h
  split at h
  case h_1 cs =>
    have hsplit := List.takeWhile_append_dropWhile (p := Unicode.isWord) (l := cs)
    split at h
    · simp at h
    · rename_i hdrop _
      simp only [Option.some.injEq, Prod.mk.injEq] at h
      rw [hdrop, h.1, h.2] at hsplit
      rw [← hsplit]
      simp [Piece.source]
    · simp at h
  case h_2 => simp at h

theorem token?_length {cs name rest : List Char} (h : token? cs = some (name, rest)) :
    rest.length < cs.length := by
  rw [eq_of_token? h]
  simp [Piece.source]
  omega

/-- The parts of a text, in reverse, in front of `done`. -/
def piecesFrom (done : List Piece) (cs : List Char) : List Piece :=
  match _h : token? cs with
  | some (name, rest) => piecesFrom (.token name :: done) rest
  | none =>
    match cs with
    | [] => done
    | c :: rest => piecesFrom (.char c :: done) rest
termination_by cs.length
decreasing_by
  · exact token?_length _h
  · simp

/-- The parts of a text. -/
def pieces (cs : List Char) : List Piece :=
  (piecesFrom [] cs).reverse

end Template

namespace Piece

/-- A part with the value of its variable in place of the token. -/
def render (vars : Dictionary String) : Piece → List Char
  | char c => [c]
  | token name =>
    match vars.get? (String.ofList name) with
    | some value => value.toList
    | none => (Piece.token name).source

end Piece

/-- The text with tokens replaced by values. -/
def interpolate (vars : Dictionary String) (text : String) : String :=
  String.ofList ((Template.pieces text.toList).flatMap (Piece.render vars))

end Dialogue.Text
