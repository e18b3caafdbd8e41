import Dialogue.Unicode.Classes

namespace Dialogue.Text

/-!
# Links in text

A text is split at its links, written `[label](url)`: a label without closing bracket, and an
address without closing parenthesis and without blanks, neither of them empty.

* `spans`: the plain parts and links of a text, from left to right.
* `Span.source`: a span as it is written.
-/

/-- A part of a message text. -/
inductive Span
  | plain (text : String)
  | link (label url : String)
deriving Repr, DecidableEq

namespace Span

/-- A span as it is written. -/
def source : Span → List Char
  | plain text => text.toList
  | link label url => '[' :: (label.toList ++ ']' :: '(' :: (url.toList ++ [')']))

/-- What may stand in a label. -/
def inLabel (c : Char) : Bool := c != ']'

/-- What may stand in an address. -/
def inUrl (c : Char) : Bool := c != ')' && !Unicode.isBlank c

/-- The label and address of the link at the head of a text, and what follows the link. -/
def link? : List Char → Option (List Char × List Char × List Char)
  | '[' :: cs =>
    match cs.takeWhile inLabel, cs.dropWhile inLabel with
    | [], _ => none
    | label, ']' :: '(' :: more =>
      match more.takeWhile inUrl, more.dropWhile inUrl with
      | [], _ => none
      | url, ')' :: rest => some (label, url, rest)
      | _, _ => none
    | _, _ => none
  | _ => none

theorem eq_of_link? {cs label url rest : List Char} (h : link? cs = some (label, url, rest)) :
    cs = '[' :: (label ++ ']' :: '(' :: (url ++ ')' :: rest)) := by
  unfold link? at h
  split at h
  case h_1 cs =>
    have hlabel := List.takeWhile_append_dropWhile (p := inLabel) (l := cs)
    split at h
    · simp at h
    · rename_i more hdrop _
      have hurl := List.takeWhile_append_dropWhile (p := inUrl) (l := more)
      split at h
      · simp at h
      · rename_i hdrop' _
        simp only [Option.some.injEq, Prod.mk.injEq] at h
        obtain ⟨h1, h2, h3⟩ := h
        rw [hdrop', h2, h3] at hurl
        rw [hdrop, h1, ← hurl] at hlabel
        rw [← hlabel]
      · simp at h
    · simp at h
  case h_2 => simp at h

theorem link?_length {cs label url rest : List Char} (h : link? cs = some (label, url, rest)) :
    rest.length < cs.length := by
  rw [eq_of_link? h]
  simp
  omega

/-- Closes a plain part that is being read in reverse; an empty one is dropped. -/
def close (plainSoFar : List Char) (done : List Span) : List Span :=
  if plainSoFar = [] then done else .plain (String.ofList plainSoFar.reverse) :: done

/-- The spans of a text, in reverse, in front of `done`; `plainSoFar` is the plain part that is
being read, in reverse. -/
def spansFrom (plainSoFar : List Char) (done : List Span) (cs : List Char) : List Span :=
  match _h : link? cs with
  | some (label, url, rest) =>
    spansFrom [] (.link (String.ofList label) (String.ofList url) :: close plainSoFar done) rest
  | none =>
    match cs with
    | [] => close plainSoFar done
    | c :: rest => spansFrom (c :: plainSoFar) done rest
termination_by cs.length
decreasing_by
  · exact link?_length _h
  · simp

end Span

/-- The spans of a text. -/
def spans (text : String) : List Span :=
  (Span.spansFrom [] [] text.toList).reverse

end Dialogue.Text
