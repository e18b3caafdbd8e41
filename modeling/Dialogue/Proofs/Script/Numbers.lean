import Dialogue.Proofs.Decimal.Finite
import Dialogue.Script.Value
import Mathlib.Data.List.TakeWhile

namespace Dialogue

/-!
# One notion of a number

Numbers are read in three places: where an answer is checked, where values are compared, and where a
script converts a text. Scripts are stricter about what a numeral may consist of, and they know no
names of numbers but `Infinity`. For finite values this makes no difference: what is read as one is
written with nothing but digits, points, signs and the letter of an exponent.

* `Text.trim_trim`: the blanks at the ends are taken off once.
* `Decimal.Numeral.inNumeral_of_read?`: what the numeral of a decimal consists of.
* `Decimal.finite?_eq_some_iff`: the texts of finite values.
* `Script.Number.ofText_of_finite?`: scripts read them as the same values.
-/

/-! ### Blanks at the ends -/

namespace Text

variable {cs : List Char}

/-- What has lost the blanks at its start does not begin with one. -/
theorem trimStart_of_head (h : ∀ c, cs.head? = some c → Unicode.isBlank c = false) :
    trimStart cs = cs := by
  unfold trimStart
  cases cs with
  | nil => rfl
  | cons c cs => rw [List.dropWhile_cons, h c rfl, if_neg Bool.false_ne_true]

/-- A text loses nothing at its end if there is no blank. -/
theorem trimEnd_of_getLast (h : ∀ c, cs.getLast? = some c → Unicode.isBlank c = false) :
    trimEnd cs = cs := by
  have hreverse : trimStart cs.reverse = cs.reverse :=
    trimStart_of_head fun c hc => h c (by rwa [List.head?_reverse] at hc)
  rw [trimEnd]
  exact (congrArg List.reverse hreverse).trans (List.reverse_reverse cs)

/-- Nothing blank stands at the head of what is trimmed. -/
theorem head_trimStart {c : Char} (h : (trimStart cs).head? = some c) :
    Unicode.isBlank c = false := by
  have := List.head?_dropWhile_not Unicode.isBlank cs
  unfold trimStart at h
  rw [h] at this
  simpa using this

/-- Nothing blank stands at its end. -/
theorem getLast_trimEnd {c : Char} (h : (trimEnd cs).getLast? = some c) :
    Unicode.isBlank c = false := by
  unfold trimEnd at h
  rw [List.getLast?_reverse] at h
  exact head_trimStart h

/-- The blanks at the ends are taken off once. -/
theorem trim_trim (cs : List Char) : trim (trim cs) = trim cs := by
  -- Taking blanks off the end leaves the start, if anything is left at all.
  have hhead : ∀ c, (trim cs).head? = some c → Unicode.isBlank c = false := by
    intro c hc
    have hprefix : trim cs <+: trimStart cs := by
      unfold trim trimEnd
      rw [← List.reverse_suffix, List.reverse_reverse]
      exact List.dropWhile_suffix _
    obtain ⟨rest, hrest⟩ := hprefix
    have hstart : (trimStart cs).head? = some c := by
      rw [← hrest, List.head?_append, hc]
      rfl
    exact head_trimStart hstart
  show trimEnd (trimStart (trim cs)) = trim cs
  rw [trimStart_of_head hhead]
  exact trimEnd_of_getLast fun c hc => getLast_trimEnd hc

end Text

namespace Decimal

open Script.Number (inNumeral)

variable {cs rest : List Char} {c : Char} {negative : Bool} {d : Digits}

/-! ### What numerals consist of -/

/-- Digits are characters of numerals. -/
theorem inNumeral_of_isDigit (h : c.isDigit) : inNumeral c := by
  simp [inNumeral, h]

/-- So are signs. -/
theorem inNumeral_of_mem_takeSign (h : ∀ c ∈ (takeSign cs).2, inNumeral c) :
    ∀ c ∈ cs, inNumeral c := by
  unfold takeSign at h
  split at h
  · exact List.forall_mem_cons.2 ⟨by decide, h⟩
  · exact List.forall_mem_cons.2 ⟨by decide, h⟩
  · exact h

namespace Numeral

/-- So are the characters of exponents. -/
theorem inNumeral_of_exponent? {e : Int} (h : exponent? cs = some e) :
    ∀ c ∈ cs, inNumeral c := by
  cases cs with
  | nil => simp
  | cons letter rest =>
    simp only [exponent?] at h
    split at h
    -- An exponent has its letter, a sign perhaps, and digits.
    case isFalse => cases h
    case isTrue hletter =>
      split at h
      case isFalse => cases h
      case isTrue hdigits =>
        have hrest : ∀ c ∈ rest, inNumeral c := inNumeral_of_mem_takeSign fun c hc =>
          inNumeral_of_isDigit (List.all_eq_true.1 hdigits.2 c hc)
        refine List.forall_mem_cons.2 ⟨?_, hrest⟩
        rcases hletter with rfl | rfl <;> decide

/-- A run of digits consists of what a numeral may consist of, and so does the whole if the rest
does. -/
theorem inNumeral_of_dropWhile (h : ∀ c ∈ cs.dropWhile Char.isDigit, inNumeral c) :
    ∀ c ∈ cs, inNumeral c := by
  rw [← List.takeWhile_append_dropWhile (p := Char.isDigit) (l := cs), List.forall_mem_append]
  exact ⟨fun c hc => inNumeral_of_isDigit (List.mem_takeWhile_imp hc), h⟩

/-- All characters of a decimal are characters of numerals. -/
theorem inNumeral_of_decimal? (h : decimal? cs = some d) : ∀ c ∈ cs, inNumeral c := by
  refine inNumeral_of_dropWhile ?_
  unfold decimal? at h
  generalize cs.dropWhile Char.isDigit = behind at h ⊢
  split at h
  rename_i places rest hrest
  dsimp only at h
  split at h
  case isTrue => cases h
  case isFalse =>
    obtain ⟨e, he, -⟩ := Option.map_eq_some_iff.1 h
    have hexponent : ∀ c ∈ rest, inNumeral c := inNumeral_of_exponent? he
    -- What follows the digits is the exponent, or a point with digits in front of it.
    split at hrest
    · cases hrest
      exact List.forall_mem_cons.2 ⟨by decide, inNumeral_of_dropWhile hexponent⟩
    · cases hrest
      exact hexponent

/-- The numeral of a decimal consists of digits, points, signs and the letter of an exponent. -/
theorem inNumeral_of_read? (h : read? cs = some (.decimal negative d)) :
    ∀ c ∈ cs, inNumeral c := by
  -- The sign first; the words for infinity and for no number are no decimals.
  refine inNumeral_of_mem_takeSign ?_
  unfold read? at h
  generalize takeSign cs = sign at h ⊢
  obtain ⟨_, body⟩ := sign
  dsimp only at h ⊢
  split at h
  · cases h
  · cases h
  · cases h
  · obtain ⟨d', hd, -⟩ := Option.map_eq_some_iff.1 h
    exact inNumeral_of_decimal? hd

theorem read?_nil : read? [] = none := by decide

/-- Names of numbers do not stand for finite values. -/
theorem eq_decimal_of_isFinite {n : Numeral} (h : (Binary64.ofBits n.bits).isFinite) :
    ∃ negative d, n = .decimal negative d := by
  cases n with
  | decimal negative d => exact ⟨negative, d, rfl⟩
  | infinity negative => cases negative <;> exact absurd h (by decide)
  | notANumber => exact absurd h (by decide)

end Numeral

/-! ### Finite values -/

variable {text : String} {x : Binary64}

/-- The texts of finite values are decimals that do not become infinite. -/
theorem finite?_eq_some_iff :
    finite? text = some x ↔ ∃ negative d,
      Numeral.read? (Text.trim text.toList) = some (.decimal negative d) ∧
        Binary64.ofBits (Numeral.decimal negative d).bits = x ∧ x.isFinite := by
  unfold finite?
  rw [Option.filter_eq_some_iff, Option.map_eq_some_iff]
  -- A numeral that is finite is a decimal, so the words drop out.
  constructor
  · rintro ⟨⟨n, hread, hx⟩, hfinite⟩
    have hbits : (Binary64.ofBits n.bits).isFinite := hx ▸ hfinite
    obtain ⟨negative, d, rfl⟩ := Numeral.eq_decimal_of_isFinite hbits
    exact ⟨negative, d, hread, hx, hfinite⟩
  · rintro ⟨negative, d, hread, hx, hfinite⟩
    exact ⟨⟨_, hread, hx⟩, hfinite⟩

/-- Blanks at the ends do not count. -/
theorem finite?_trimmed (text : String) : finite? (Text.trimmed text) = finite? text := by
  unfold finite? Text.trimmed
  rw [String.toList_ofList, Text.trim_trim]

/-- A text of a finite value is not blank. -/
theorem trim_ne_nil_of_finite? (h : finite? text = some x) : Text.trim text.toList ≠ [] := by
  obtain ⟨negative, d, hread, -, -⟩ := finite?_eq_some_iff.1 h
  intro hnil
  rw [hnil, Numeral.read?_nil] at hread
  cases hread

/-- A text with a number in it is not blank. -/
theorem trimmed_ne_empty_of_finite? (h : finite? text = some x) : Text.trimmed text ≠ "" :=
  fun hempty => trim_ne_nil_of_finite? h (String.ofList_eq_empty_iff.1 hempty)

end Decimal

/-! ### Numbers of scripts -/

namespace Script.Number

open Decimal

variable {text : String} {x : Binary64}

/-- What consists of the characters of numerals is read as a numeral, unless it is empty. -/
theorem ofText_of_inNumeral (hne : Text.trim text.toList ≠ [])
    (h : ∀ c ∈ Text.trim text.toList, inNumeral c) :
    ofText text = (readFloat? (Text.trim text.toList)).getD nan := by
  -- The names of the infinities begin with characters that no numeral has.
  have hname (name : String) (hother : name.toList.all inNumeral = false) :
      String.ofList (Text.trim text.toList) ≠ name := by
    intro heq
    rw [← heq, String.toList_ofList, List.all_eq_true.2 h] at hother
    cases hother
  unfold ofText
  dsimp only
  split
  · rename_i hempty
    exact absurd (String.ofList_eq_empty_iff.1 hempty) hne
  · rename_i heq
    exact absurd heq (hname _ (by decide))
  · rename_i heq
    exact absurd heq (hname _ (by decide))
  · rename_i heq
    exact absurd heq (hname _ (by decide))
  · rw [if_pos (List.all_eq_true.2 h)]

/-- Scripts read the text of a finite value as that value. -/
theorem ofText_of_finite? (h : finite? text = some x) :
    Binary64.ofBits (ofText text).toBits = x ∧ (ofText text).isNaN = false := by
  obtain ⟨negative, d, hread, hx, hfinite⟩ := finite?_eq_some_iff.1 h
  have hne := trim_ne_nil_of_finite? h
  have hnumber : ofText text = Float.ofBits (Numeral.decimal negative d).bits := by
    rw [ofText_of_inNumeral hne (Numeral.inNumeral_of_read? hread), readFloat?, hread]
    rfl
  have hvalue : Binary64.ofBits (ofText text).toBits = x := by
    rw [hnumber, toBits_ofBits (hx ▸ hfinite), hx]
  exact ⟨hvalue, isNaN_of_isFinite (hvalue ▸ hfinite)⟩

end Script.Number

end Dialogue
