import Dialogue.Text.Span
import Mathlib.Data.List.Basic
import Mathlib.Data.List.TakeWhile

namespace Dialogue.Text

/-!
# What splitting at links finds

A link stands wherever a label in brackets is followed by an address in parentheses. Links may begin
inside one another (`[a [b](c)`), so which of them are found depends on the order: a text is split
at the first place where a link begins, and then behind the end of that link. Nothing of the text is
lost in this way, and what is left between the links holds no link.

* `LinkAt`: a link stands at a place of the text.
* `Splits`: the text is split at links, each as early as may be, with no link begun before it.
* `splits_spans`, `Splits.unique`: the spans of a text split it, and nothing else does.
* `spans_split_at_links`: what the spans of a text are.
-/

/-! ### Links at the head of a text -/

section Head

variable {cs rest label url : List Char}

namespace Span

/-- What a label may be: it is not empty and has no closing bracket. -/
def IsLabel (label : List Char) : Prop := label ≠ [] ∧ ']' ∉ label

/-- What an address may be: it is not empty and has neither a closing parenthesis nor blanks. -/
def IsUrl (url : List Char) : Prop :=
  url ≠ [] ∧ ')' ∉ url ∧ ∀ c ∈ url, Unicode.isBlank c = false

/-- A link as it is written. -/
def written (label url : List Char) : List Char :=
  '[' :: (label ++ ']' :: '(' :: (url ++ [')']))

theorem inLabel_iff : (∀ c ∈ label, inLabel c = true) ↔ ']' ∉ label := by
  simp only [inLabel, bne_iff_ne]
  exact ⟨fun h hmem => h _ hmem rfl, fun h c hc heq => h (heq ▸ hc)⟩

/-- A url is what holds no closing parenthesis and no blank. -/
theorem inUrl_iff :
    (∀ c ∈ url, inUrl c = true) ↔ ')' ∉ url ∧ ∀ c ∈ url, Unicode.isBlank c = false := by
  simp only [inUrl, Bool.and_eq_true, bne_iff_ne, Bool.not_eq_true']
  constructor
  · intro h
    exact ⟨fun hmem => (h _ hmem).1 rfl, fun c hc => (h c hc).2⟩
  · rintro ⟨hclose, hblank⟩ c hc
    exact ⟨fun heq => hclose (heq ▸ hc), hblank c hc⟩

/-- What satisfies a test is taken off up to the first character that does not. -/
theorem span_until {test : Char → Bool} {stop : Char} {taken : List Char}
    (h : ∀ c ∈ taken, test c = true) (hstop : test stop = false) (rest : List Char) :
    (taken ++ stop :: rest).takeWhile test = taken ∧
      (taken ++ stop :: rest).dropWhile test = stop :: rest := by
  rw [List.takeWhile_append_of_pos h, List.dropWhile_append_of_pos h, List.takeWhile_cons,
    List.dropWhile_cons, hstop]
  simp

/-- There is a link at the head of a text exactly where the text starts with one as it is
written. -/
theorem link?_eq_some_iff : link? cs = some (label, url, rest) ↔
    IsLabel label ∧ IsUrl url ∧ cs = written label url ++ rest := by
  constructor
  · intro h
    have hcs := eq_of_link? h
    unfold link? at h
    split at h
    case h_2 => cases h
    case h_1 tail =>
      split at h
      case h_1 => cases h
      case h_3 => cases h
      case h_2 more hdrop hlabel =>
        split at h
        case h_1 => cases h
        case h_3 => cases h
        case h_2 hurl =>
          simp only [Option.some.injEq, Prod.mk.injEq] at h
          obtain ⟨rfl, rfl, -⟩ := h
          have hinLabel : ']' ∉ tail.takeWhile inLabel :=
            inLabel_iff.1 fun c hc => List.mem_takeWhile_imp hc
          have hinUrl := inUrl_iff.1 fun c (hc : c ∈ more.takeWhile inUrl) =>
            List.mem_takeWhile_imp hc
          refine ⟨⟨fun hnil => hlabel hnil, hinLabel⟩, ⟨fun hnil => hurl hnil, hinUrl⟩, ?_⟩
          rw [hcs]
          simp [written]
  · rintro ⟨⟨hlabel, hinLabel⟩, ⟨hurl, hinUrl⟩, rfl⟩
    -- The label ends before the first closing bracket, the address before the parenthesis.
    obtain ⟨htake, hdrop⟩ :=
      span_until (inLabel_iff.2 hinLabel) (by decide : inLabel ']' = false)
        ('(' :: (url ++ ')' :: rest))
    obtain ⟨htake', hdrop'⟩ :=
      span_until (inUrl_iff.2 hinUrl) (by decide : inUrl ')' = false) rest
    have hwritten : written label url ++ rest =
        '[' :: (label ++ ']' :: '(' :: (url ++ ')' :: rest)) := by
      simp [written]
    rw [hwritten]
    cases label with
    | nil => exact absurd rfl hlabel
    | cons c label =>
      cases url with
      | nil => exact absurd rfl hurl
      | cons d url => simp only [link?, htake, hdrop, htake', hdrop']

/-- A link at the head of a text stays there whatever follows. -/
theorem link?_append (h : link? cs = some (label, url, rest)) (more : List Char) :
    link? (cs ++ more) = some (label, url, rest ++ more) := by
  obtain ⟨hlabel, hurl, rfl⟩ := link?_eq_some_iff.1 h
  exact link?_eq_some_iff.2 ⟨hlabel, hurl, List.append_assoc _ _ _⟩

@[simp] theorem source_link (label url : List Char) :
    (link (String.ofList label) (String.ofList url)).source = written label url := by
  simp [source, written]

@[simp] theorem source_plain (cs : List Char) : (plain (String.ofList cs)).source = cs := by
  simp [source]

/-- Whether a span is a link. -/
def isLink : Span → Bool
  | plain _ => false
  | link _ _ => true

end Span

end Head

open Dialogue.Text.Span

/-! ### Splitting a text -/

/-- No link begins in the first part of a text, even if it would end behind that part. -/
def FreeOfLinks (p rest : List Char) : Prop := ∀ i < p.length, link? ((p ++ rest).drop i) = none

/-- The text is split at links. A plain part ends where the first link begins or where the text
ends, and it is not empty. -/
inductive Splits : List Char → List Span → Prop
  | nil : Splits [] []
  | link {cs label url rest : List Char} {ss : List Span}
    (h : link? cs = some (label, url, rest)) (hrest : Splits rest ss) :
    Splits cs (.link (String.ofList label) (String.ofList url) :: ss)
  | plain {p rest : List Char} {ss : List Span} (hne : p ≠ []) (hfree : FreeOfLinks p rest)
    (hnext : ∀ s, ss.head? = some s → s.isLink) (hrest : Splits rest ss) :
    Splits (p ++ rest) (.plain (String.ofList p) :: ss)

variable {cs rest label url p q : List Char} {ss ss' : List Span} {s : Span} {i : Nat}

/-- A character with which no link begins makes the plain part before it longer. -/
theorem FreeOfLinks.snoc {c : Char} (h : FreeOfLinks p (c :: rest))
    (hc : link? (c :: rest) = none) : FreeOfLinks (p ++ [c]) rest := by
  intro i hi
  rw [List.append_assoc, List.singleton_append]
  rcases Nat.lt_or_ge i p.length with hlt | hge
  · exact h i hlt
  · have hlast : i = p.length := by
      simp at hi
      omega
    rw [hlast, List.drop_left]
    exact hc

/-- No link begins in a part if none begins where the text goes on behind it. -/
theorem FreeOfLinks.alone (h : FreeOfLinks p rest) : FreeOfLinks p [] := by
  intro i hi
  rw [List.append_nil]
  cases hlink : link? (p.drop i) with
  | none => rfl
  | some found =>
    -- The link would begin there in the longer text as well.
    have hlonger := link?_append hlink rest
    rw [← List.drop_append_of_le_length hi.le, h i hi] at hlonger
    cases hlonger

/-- A plain part in front of spans, if there is one. -/
theorem Splits.close (hfree : FreeOfLinks p rest) (hnext : ∀ s, ss.head? = some s → s.isLink)
    (h : Splits rest ss) :
    Splits (p ++ rest) (if p = [] then ss else .plain (String.ofList p) :: ss) := by
  split
  case isTrue hp =>
    rw [hp]
    exact h
  case isFalse hp => exact .plain hp hfree hnext h

/-! ### The spans of a text -/

namespace Span

/-- A link at the head ends the plain span before it. -/
theorem spansFrom_link (plainSoFar : List Char) (done : List Span)
    (h : link? cs = some (label, url, rest)) :
    spansFrom plainSoFar done cs =
      spansFrom [] (.link (String.ofList label) (String.ofList url) :: close plainSoFar done)
        rest := by
  rw [spansFrom]
  split
  · rename_i h'
    obtain ⟨rfl, rfl, rfl⟩ : _ = label ∧ _ = url ∧ _ = rest := by
      simpa using h'.symm.trans h
    rfl
  · rename_i h'
    cases h.symm.trans h'

/-- A character that begins no link goes into the plain span. -/
theorem spansFrom_char (plainSoFar : List Char) (done : List Span) {c : Char}
    (h : link? (c :: rest) = none) :
    spansFrom plainSoFar done (c :: rest) = spansFrom (c :: plainSoFar) done rest := by
  rw [spansFrom]
  split
  · rename_i h'
    cases h.symm.trans h'
  · rfl

theorem spansFrom_nil (plainSoFar : List Char) (done : List Span) :
    spansFrom plainSoFar done [] = close plainSoFar done := by
  rw [spansFrom]
  rfl

/-- A plain span is closed if there is anything in it. -/
theorem close_eq (plainSoFar : List Char) (done : List Span) :
    close plainSoFar done =
      (if plainSoFar.reverse = [] then [] else
        [.plain (String.ofList plainSoFar.reverse)]) ++ done := by
  unfold close
  cases plainSoFar with
  | nil => rfl
  | cons c cs => simp

end Span

/-- What is put in front of the spans found before splits the plain part that is being read together
with the rest of the text, if no link begins in that part. -/
theorem exists_splits_spansFrom (plainSoFar : List Char) (done : List Span) (cs : List Char)
    (hfree : FreeOfLinks plainSoFar.reverse cs) :
    ∃ ss, spansFrom plainSoFar done cs = ss.reverse ++ done ∧
      Splits (plainSoFar.reverse ++ cs) ss := by
  -- On the scan: a link, the end, or a character that begins no link.
  induction plainSoFar, done, cs using spansFrom.induct with
  | case1 plainSoFar done cs label url rest h ih =>
    obtain ⟨ss, hss, hsplits⟩ := ih fun i hi => absurd hi (Nat.not_lt_zero i)
    have hlink : Splits cs (.link (String.ofList label) (String.ofList url) :: ss) :=
      .link h hsplits
    refine ⟨_, ?_, Splits.close hfree (fun s hs => ?_) hlink⟩
    · rw [spansFrom_link plainSoFar done h, hss, close_eq]
      split <;> simp
    · cases hs
      rfl
  | case2 plainSoFar done h =>
    refine ⟨_, ?_, Splits.close hfree (fun s hs => by cases hs) .nil⟩
    rw [spansFrom_nil, close_eq]
    split <;> simp
  | case3 plainSoFar done c rest h ih =>
    have hsnoc : FreeOfLinks (c :: plainSoFar).reverse rest := by
      rw [List.reverse_cons]
      exact hfree.snoc h
    obtain ⟨ss, hss, hsplits⟩ := ih hsnoc
    refine ⟨ss, ?_, ?_⟩
    · rw [spansFrom_char plainSoFar done h, hss]
    · simpa using hsplits

/-- The spans of a text split it. -/
theorem splits_spans (text : String) : Splits text.toList (spans text) := by
  obtain ⟨ss, hss, hsplits⟩ :=
    exists_splits_spansFrom [] [] text.toList fun i hi => absurd hi (Nat.not_lt_zero i)
  rw [spans, hss, List.append_nil, List.reverse_reverse]
  exact hsplits

/-! ### What split texts look like -/

namespace Splits

/-- Nothing of the text is lost, and nothing is added. -/
theorem source (h : Splits cs ss) : ss.flatMap Span.source = cs := by
  induction h with
  | nil => rfl
  | link h _ ih =>
    obtain ⟨-, -, rfl⟩ := link?_eq_some_iff.1 h
    rw [List.flatMap_cons, ih, source_link]
  | plain _ _ _ _ ih => rw [List.flatMap_cons, ih, source_plain]

/-- What begins with a link is split with that link first. -/
theorem exists_of_isLink (h : Splits cs (s :: ss)) (hs : s.isLink) :
    ∃ label url rest, link? cs = some (label, url, rest) := by
  cases h with
  | link hlink _ => exact ⟨_, _, _, hlink⟩
  | plain _ _ _ _ => cases hs

/-- Where no link is expected behind a plain part, the text has come to its end. -/
theorem length_le_of_free (h : Splits cs ss) (hnext : ∀ s, ss.head? = some s → s.isLink)
    (hcs : p ++ cs = q ++ rest) (hfree : FreeOfLinks q rest) : q.length ≤ p.length := by
  -- If the first span were shorter, the next one would be a link inside the other.
  by_contra hlt
  have hstop : link? cs = none := by
    have := hfree p.length (Nat.lt_of_not_le hlt)
    rwa [← hcs, List.drop_left] at this
  cases ss with
  | nil =>
    have hnil : cs = [] := h.source.symm
    have hlength := congrArg List.length hcs
    rw [hnil] at hlength
    simp at hlength
    omega
  | cons s ss =>
    obtain ⟨_, _, _, hlink⟩ := h.exists_of_isLink (hnext s rfl)
    cases hstop.symm.trans hlink

/-- There is one way only to split a text. -/
theorem unique (h : Splits cs ss) (h' : Splits cs ss') : ss = ss' := by
  induction h generalizing ss' with
  | nil =>
    generalize hcs : [] = cs at h'
    cases h' with
    | nil => rfl
    | link hlink _ =>
      rw [← hcs] at hlink
      cases hlink
    | plain hne _ _ _ => exact absurd (List.nil_eq_append_iff.1 hcs).1 hne
  | @link cs label url rest ss hlink hrest ih =>
    generalize hcs : cs = cs' at h'
    cases h' with
    | nil =>
      rw [hcs] at hlink
      cases hlink
    | link hlink' hrest' =>
      rw [hcs, hlink'] at hlink
      obtain ⟨rfl, rfl, rfl⟩ := by simpa using hlink
      rw [ih hrest']
    | plain hne hfree _ _ =>
      have := hfree 0 (List.length_pos_iff.2 hne)
      rw [← hcs, List.drop_zero, hlink] at this
      cases this
  | @plain p rest ss hne hfree hnext hrest ih =>
    generalize hcs : p ++ rest = cs at h'
    cases h' with
    | nil => exact absurd (List.append_eq_nil_iff.1 hcs).1 hne
    | link hlink' _ =>
      have := hfree 0 (List.length_pos_iff.2 hne)
      rw [hcs, List.drop_zero, hlink'] at this
      cases this
    | plain hne' hfree' hnext' hrest' =>
      -- Neither plain part can be the longer one, as behind the other a link begins.
      have hle := hrest.length_le_of_free hnext hcs hfree'
      have hge := hrest'.length_le_of_free hnext' hcs.symm hfree
      obtain ⟨rfl, rfl⟩ := List.append_inj hcs (Nat.le_antisymm hge hle)
      rw [ih hrest']

/-- A plain span is not empty, and no link begins in it. -/
theorem free_of_mem (h : Splits cs ss) {text : String} (hmem : .plain text ∈ ss) :
    text.toList ≠ [] ∧ FreeOfLinks text.toList [] := by
  induction h with
  | nil => cases hmem
  | link _ _ ih =>
    rcases List.mem_cons.1 hmem with heq | hmem
    · cases heq
    · exact ih hmem
  | plain hne hfree _ _ ih =>
    rcases List.mem_cons.1 hmem with heq | hmem
    · cases heq
      rw [String.toList_ofList]
      exact ⟨hne, hfree.alone⟩
    · exact ih hmem

/-- A link among the spans has a label and an address. -/
theorem parts_of_mem (h : Splits cs ss) {label url : String} (hmem : .link label url ∈ ss) :
    IsLabel label.toList ∧ IsUrl url.toList := by
  induction h with
  | nil => cases hmem
  | link h _ ih =>
    rcases List.mem_cons.1 hmem with heq | hmem
    · cases heq
      obtain ⟨hlabel, hurl, -⟩ := link?_eq_some_iff.1 h
      rw [String.toList_ofList, String.toList_ofList]
      exact ⟨hlabel, hurl⟩
    · exact ih hmem
  | plain _ _ _ _ ih =>
    rcases List.mem_cons.1 hmem with heq | hmem
    · cases heq
    · exact ih hmem

/-- Behind a plain span comes a link, if anything. -/
theorem not_adjacent (h : Splits cs ss) {before after : List Span} {a b : String} :
    ss ≠ before ++ .plain a :: .plain b :: after := by
  induction h generalizing before with
  | nil => simp
  | link _ _ ih =>
    intro heq
    cases before with
    | nil => cases heq
    | cons first before => exact ih (List.cons.inj heq).2
  | plain _ _ hnext _ ih =>
    intro heq
    cases before with
    | nil =>
      -- the spans behind the first one would begin with a plain one
      have hhead := hnext (.plain b) (by rw [(List.cons.inj heq).2]; rfl)
      cases hhead
    | cons first before => exact ih (List.cons.inj heq).2

/-- A text in which no link begins is split into itself. -/
theorem of_free (hne : cs ≠ []) (hfree : FreeOfLinks cs []) :
    Splits cs [.plain (String.ofList cs)] := by
  have h : Splits (cs ++ []) [.plain (String.ofList cs)] :=
    .plain hne hfree (fun s hs => by cases hs) .nil
  rwa [List.append_nil] at h

end Splits

/-! ### Links that are not missed -/

/-- A link stands at a place of a text. -/
structure LinkAt (cs : List Char) (i : Nat) (label url : List Char) : Prop where
  stands : written label url <+: cs.drop i
  label : IsLabel label
  url : IsUrl url

/-- A place where a link stands is one where the rest of the text starts with it. -/
theorem linkAt_iff :
    LinkAt cs i label url ↔ ∃ rest, link? (cs.drop i) = some (label, url, rest) := by
  simp only [link?_eq_some_iff]
  constructor
  · intro h
    obtain ⟨rest, hrest⟩ := h.stands
    exact ⟨rest, h.label, h.url, hrest.symm⟩
  · rintro ⟨rest, hlabel, hurl, hrest⟩
    exact ⟨⟨rest, hrest.symm⟩, hlabel, hurl⟩

/-- A link behind a part of a text stands in what follows that part. -/
theorem LinkAt.behind {p rest : List Char} {k : Nat}
    (h : LinkAt (p ++ rest) (p.length + k) label url) : LinkAt rest k label url := by
  have hstands := h.stands
  rw [List.drop_length_add_append] at hstands
  exact ⟨hstands, h.label, h.url⟩

/-- A place of the text that the spans make up lies within a link among them. -/
def Within (ss : List Span) (i : Nat) : Prop :=
  ∃ before label url after, ss = before ++ .link label url :: after ∧
    (before.flatMap Span.source).length ≤ i ∧
    i < (before.flatMap Span.source).length + (Span.link label url).source.length

theorem Within.cons (h : Within ss i) (s : Span) : Within (s :: ss) (s.source.length + i) := by
  obtain ⟨before, label, url, after, rfl, hle, hlt⟩ := h
  refine ⟨s :: before, label, url, after, rfl, ?_, ?_⟩
  · rw [List.flatMap_cons, List.length_append]
    omega
  · rw [List.flatMap_cons, List.length_append]
    omega

/-- Wherever a link stands in the text, its first character lies within a link that was found. -/
theorem Splits.within (h : Splits cs ss) (hlink : LinkAt cs i label url) : Within ss i := by
  -- Either the link is inside the first span, or it lies behind it.
  induction h generalizing i with
  | nil =>
    have := hlink.stands.length_le
    simp [written] at this
  | @link cs label' url' rest ss h _ ih =>
    obtain ⟨-, -, rfl⟩ := link?_eq_some_iff.1 h
    rcases Nat.lt_or_ge i (written label' url').length with hlt | hge
    · refine ⟨[], _, _, ss, rfl, Nat.zero_le i, ?_⟩
      simpa using hlt
    · obtain ⟨k, rfl⟩ := Nat.exists_eq_add_of_le hge
      have hwithin := (ih hlink.behind).cons (.link (String.ofList label') (String.ofList url'))
      rwa [source_link] at hwithin
  | @plain p rest ss _ hfree _ _ ih =>
    rcases Nat.lt_or_ge i p.length with hlt | hge
    · obtain ⟨more, hmore⟩ := linkAt_iff.1 hlink
      rw [hfree i hlt] at hmore
      cases hmore
    · obtain ⟨k, rfl⟩ := Nat.exists_eq_add_of_le hge
      have hwithin := (ih hlink.behind).cons (.plain (String.ofList p))
      rwa [source_plain] at hwithin

/-- **Splitting a text loses nothing and misses no link.** The spans of a text, written one after
the other, are the text. A plain span is not empty, no other one follows it, and by itself it is
split into nothing but itself. A link has a label, without closing bracket, and an address, without
closing parenthesis and without blanks, neither of them empty. And wherever a link stands in the
text, it begins within a link among the spans. -/
theorem spans_split_at_links (text : String) :
    (spans text).flatMap Span.source = text.toList ∧
    (∀ p, .plain p ∈ spans text → p ≠ "" ∧ spans p = [.plain p]) ∧
    (∀ before a b after, spans text ≠ before ++ .plain a :: .plain b :: after) ∧
    (∀ label url, .link label url ∈ spans text →
      (label ≠ "" ∧ ']' ∉ label.toList) ∧
      url ≠ "" ∧ ')' ∉ url.toList ∧ ∀ c ∈ url.toList, Unicode.isBlank c = false) ∧
    ∀ i label url, LinkAt text.toList i label url → Within (spans text) i := by
  have h := splits_spans text
  refine ⟨h.source, ?_, fun _ _ _ _ => h.not_adjacent, ?_, fun i label url => h.within⟩
  · intro p hp
    obtain ⟨hne, hfree⟩ := h.free_of_mem hp
    have halone := (splits_spans p).unique (.of_free hne hfree)
    rw [String.ofList_toList] at halone
    exact ⟨fun hempty => hne (by rw [hempty]; rfl), halone⟩
  · intro label url hmem
    obtain ⟨⟨hlabel, hbracket⟩, hurl, hclose, hblank⟩ := h.parts_of_mem hmem
    refine ⟨⟨fun hempty => hlabel ?_, hbracket⟩, fun hempty => hurl ?_, hclose, hblank⟩
    · rw [hempty]
      rfl
    · rw [hempty]
      rfl

/-- The first place where a link begins is taken, be it inside brackets that were never closed. The
link that begins inside it is not found by itself. -/
theorem spans_split_at_links_nested :
    let text := "see [a [b](c) or [d]( e)"
    spans text = [.plain "see ", .link "a [b" "c", .plain " or [d]( e)"] ∧
      spans " or [d]( e)" = [.plain " or [d]( e)"] ∧ ']' ∉ "a [b".toList ∧
      LinkAt text.toList 7 ['b'] ['c'] ∧ Within (spans text) 7 := by
  intro text
  have hspans : spans text = [.plain "see ", .link "a [b" "c", .plain " or [d]( e)"] := by
    decide +kernel
  have hlink : LinkAt text.toList 7 ['b'] ['c'] :=
    linkAt_iff.2 ⟨" or [d]( e)".toList, by decide +kernel⟩
  obtain ⟨-, hplain, -, hlinks, hwithin⟩ := spans_split_at_links text
  have hlast := hplain " or [d]( e)" (by rw [hspans]; simp)
  have hfound := hlinks "a [b" "c" (by rw [hspans]; simp)
  exact ⟨hspans, hlast.2, hfound.1.2, hlink, hwithin 7 _ _ hlink⟩

end Dialogue.Text
