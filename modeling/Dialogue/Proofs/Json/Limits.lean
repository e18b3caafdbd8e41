import Dialogue.Proofs.Json.RoundTrip

namespace Dialogue.Json

open Decimal

/-!
# What is read is within limits

A value that is read is nested no deeper than the reader allows, and its integers are integers of
64 bits. So what was read can be written and read again.

* `Token.reread?_of_mem_scan`: the tokens of a text hold integers of 64 bits only.
* `Reader.Within`: the values of the open containers leave room for these.
* `fits_of_read`: a value that is read is within limits.
-/

/-- What fits and holds no fractions is plain. -/
theorem Fits.plain {room : Nat} {j : Json} (h : Fits room j) (hwhole : j.isWhole) : Plain room j :=
  ⟨hwhole, h.depth, h.reread⟩

/-! ### Tokens -/

/-- However many digits are read before the point, what is counted of them has 64 bits. -/
theorem value_foldl_pushWhole (cs : List Char) {s : Significand} (h : s.value ≤ greatestWord) :
    (cs.foldl Significand.pushWhole s).value ≤ greatestWord := by
  induction cs generalizing s with
  | nil => exact h
  | cons c cs ih =>
    refine ih ?_
    unfold Significand.pushWhole
    split
    · exact h
    · split
      · exact h
      · rename_i hfits
        exact Nat.le_of_not_lt hfits

/-- An integer that is read has 64 bits. -/
theorem inRange_of_value {w : Written} {n : Int} (h : w.value = .ok (.int n)) :
    leastInteger ≤ n ∧ n ≤ greatestWord := by
  have hle : (w.whole.foldl Significand.pushWhole {}).value ≤ greatestWord :=
    value_foldl_pushWhole w.whole (Nat.zero_le _)
  have hsign : leastInteger ≤ 0 ∧ (0 : Int) ≤ greatestWord := by decide
  have hfloat : ∀ s exponent, w.assembled s exponent ≠ .ok (.int n) := fun s exponent h =>
    assembled_ne_int (congrArg Except.toOption h)
  unfold Written.value at h
  dsimp only at h
  -- An integer comes only of a text without places and exponent; the sign decides on its bound.
  split at h
  · split at h
    · exact absurd h (hfloat _ _)
    · split at h
      · cases h
        omega
      · split at h
        · exact absurd h (hfloat _ _)
        · cases h
          omega
  · split at h
    · exact absurd h (hfloat _ _)
    · split at h
      · split at h <;> cases h
      · exact absurd h (hfloat _ _)

/-- An integer that is read is in the range of 64 bits. -/
theorem inRange_of_takeNumber {cs rest : List Char} {n : Int}
    (h : takeNumber cs = .ok (.int n, rest)) : leastInteger ≤ n ∧ n ≤ greatestWord := by
  unfold takeNumber at h
  dsimp only at h
  cases htake : takeUnsigned (takeMinus cs).1 (takeMinus cs).2 with
  | error fault => rw [htake] at h; cases h
  | ok taken =>
    rw [htake] at h
    cases hvalue : taken.1.value with
    | error fault => simp [hvalue, Except.map] at h
    | ok number =>
      simp only [hvalue, Except.map, Except.ok.injEq, Prod.mk.injEq] at h
      rw [h.1] at hvalue
      exact inRange_of_value hvalue

namespace Token

/-- A token that is taken off a text is read back as it is. -/
theorem reread?_of_next {cs rest : List Char} {t : Token} (h : next cs = .ok (t, rest)) :
    t.reread? = some t := by
  unfold next at h
  -- All tokens but strings and numbers are fixed words.
  split at h
  case h_8 =>
    simp only [Except.map] at h
    split at h <;> cases h
    rfl
  case h_12 =>
    split at h
    · simp only [Except.map] at h
      split at h
      · cases h
      · rename_i taken htake
        cases h
        obtain ⟨number, rest⟩ := taken
        cases number with
        | float bits => rfl
        | int n =>
          obtain ⟨hleast, hmost⟩ := inRange_of_takeNumber htake
          rw [reread?, rereadInt_inRange hleast hmost]
          rfl
    · split at h <;> cases h
  all_goals cases h <;> rfl

/-- The tokens of a text are read back as they are. -/
theorem reread?_of_mem_scanFrom {done : List Token} {cs : List Char}
    (hdone : ∀ t ∈ done, t.reread? = some t) : ∀ t ∈ (scanFrom done cs).1, t.reread? = some t := by
  fun_induction scanFrom done cs with
  | case1 => simpa using hdone
  | case2 done cs c rest hgap t rest' hnext ih =>
    refine ih ?_
    rw [List.forall_mem_cons]
    exact ⟨reread?_of_next hnext, hdone⟩
  | case3 => simpa using hdone

/-- The tokens that are scanned are read anew as they are. -/
theorem reread?_of_mem_scan {cs : List Char} : ∀ t ∈ (scan cs).1, t.reread? = some t :=
  reread?_of_mem_scanFrom (by simp)

end Token

/-! ### The reader -/

/-- The values in an open container. -/
def Frame.values : Frame → List Json
  | .array items => items
  | .object members _ => members.map Prod.snd

namespace Reader

/-- The values of open containers are within limits: what is nested in more containers has less
room. -/
def Within : List Frame → Prop
  | [] => True
  | frame :: rest =>
    rest.length < depthLimit ∧
      (∀ value ∈ frame.values, Fits (depthLimit - (rest.length + 1)) value) ∧ Within rest

/-- What a token leads to is within limits. -/
def Outcome.Within : Outcome → Prop
  | .going r => Reader.Within r.frames
  | .done value => Fits depthLimit value
  | .failed _ => True

variable {frames rest : List Frame} {frame : Frame} {value : Json} {expects : Expects} {t : Token}

/-- A complete value takes no more room than there is outside of the open containers. -/
theorem within_complete (h : Within frames) (hvalue : Fits (depthLimit - frames.length) value) :
    (complete value frames).Within := by
  match frames with
  | [] => exact hvalue
  | .array items :: rest =>
    obtain ⟨hlength, hitems, hrest⟩ := h
    exact ⟨hlength, List.forall_mem_cons.2 ⟨hvalue, hitems⟩, hrest⟩
  | .object members name :: rest =>
    obtain ⟨hlength, hmembers, hrest⟩ := h
    exact ⟨hlength, List.forall_mem_cons.2 ⟨hvalue, hmembers⟩, hrest⟩

/-- A container is closed one level further out. -/
theorem within_close (h : Within (frame :: rest))
    (hvalue : ∀ {room}, (∀ v ∈ frame.values, Fits room v) → Fits (room + 1) value) :
    (complete value rest).Within := by
  obtain ⟨hlength, hvalues, hrest⟩ := h
  -- The container takes the level back that its values were nested in.
  refine within_complete hrest ?_
  rw [show depthLimit - rest.length = depthLimit - (rest.length + 1) + 1 by omega]
  exact hvalue hvalues

/-- A list whose items fit is no deeper than one level more. -/
theorem fits_array {items : List Json} {room : Nat}
    (h : ∀ v ∈ (Frame.array items).values, Fits room v) :
    Fits (room + 1) (.arr items.reverse) :=
  Fits.arr_iff.2 fun item hitem => h item (List.mem_reverse.1 hitem)

/-- Nor is an object whose values fit. -/
theorem fits_object {members : List (String × Json)} {name : Option String} {room : Nat}
    (h : ∀ v ∈ (Frame.object members name).values, Fits room v) :
    Fits (room + 1) (.obj members.reverse) :=
  Fits.obj_iff.2 fun m hm => h m.2 (List.mem_map_of_mem (List.mem_reverse.1 hm))

/-- Opening a list or object keeps within the limit, or fails. -/
theorem within_openFrame (h : Within frames) (hempty : frame.values = []) :
    (openFrame frame expects frames).Within := by
  unfold openFrame
  split
  · rename_i hlength
    refine ⟨hlength, ?_, h⟩
    rw [hempty]
    simp
  · trivial

/-- A token where a value is expected keeps within the limit. -/
theorem within_stepValue (h : Within frames) (ht : t.reread? = some t) :
    (stepValue frames t).Within := by
  have hplain : ∀ {j : Json}, j.depth = 0 → j.reread? = some j → (complete j frames).Within :=
    fun hdepth hreread => within_complete h ⟨by omega, hreread⟩
  cases t with
  | openArray => exact within_openFrame h rfl
  | openObject => exact within_openFrame h rfl
  | null => exact hplain rfl rfl
  | bool b => exact hplain rfl rfl
  | str s => exact hplain rfl rfl
  | num n =>
    refine hplain rfl ?_
    cases n with
    | float bits => rfl
    | int n =>
      rw [Token.reread?] at ht
      obtain ⟨number, hnumber, heq⟩ := Option.map_eq_some_iff.1 ht
      cases heq
      rw [reread?, hnumber]
      rfl
  | closeArray => trivial
  | closeObject => trivial
  | comma => trivial
  | colon => trivial

/-- So does one where a name is expected. -/
theorem within_stepName (h : Within frames) : (stepName frames t).Within := by
  unfold stepName
  split
  · split
    · exact h
    · trivial
  · trivial
  · trivial

/-- A token leads from within limits to within limits. -/
theorem within_step {r : Reader} (h : Within r.frames) (ht : t.reread? = some t) :
    (r.step t).Within := by
  obtain ⟨frames, expects⟩ := r
  unfold step
  dsimp only at h ⊢
  -- One case per token that may stand here, and one per thing that is expected.
  split
  · trivial
  · exact within_stepValue h ht
  · exact within_close h fits_array
  · exact within_stepValue h ht
  · exact within_close h fits_object
  · exact within_stepName h
  · exact within_stepName h
  · exact h
  · trivial
  · exact h
  · exact within_close h fits_array
  · exact h
  · exact within_close h fits_object
  · trivial
  · trivial
  · trivial

/-- A value that is read off tokens is within limits. -/
theorem fits_of_run {ending : Option Fault} {r : Reader} {tokens left : List Token}
    (h : Within r.frames) (htokens : ∀ t ∈ tokens, t.reread? = some t)
    (hrun : run ending r tokens = .value value left) : Fits depthLimit value := by
  -- On the tokens: each step keeps the frames within the limit.
  induction tokens generalizing r with
  | nil => cases hrun
  | cons t rest ih =>
    obtain ⟨ht, hrest⟩ := List.forall_mem_cons.1 htokens
    have hstep := within_step h ht
    rw [run_cons] at hrun
    generalize r.step t = outcome at hstep hrun
    cases outcome with
    | going next => exact ih hstep hrest hrun
    | done found =>
      cases hrun
      exact hstep
    | failed fault => cases hrun

end Reader

/-- A value at the head of a text is nested no deeper than the reader allows, and has integers of 64
bits only. -/
theorem fits_of_readFirst {cs : List Char} {j : Json} {left : List Token}
    (h : readFirst cs = .value j left) : Fits Reader.depthLimit j := by
  have hopen : Reader.Within ({} : Reader).frames := trivial
  exact Reader.fits_of_run hopen Token.reread?_of_mem_scan h

/-- A value that is read is within the same limits. -/
theorem fits_of_read {text : String} {j : Json} (h : read text = .ok j) :
    Fits Reader.depthLimit j := by
  unfold read at h
  dsimp only at h
  split at h
  · rename_i value hrun _
    cases h
    exact fits_of_readFirst hrun
  · cases h
  · cases h
  · cases h

end Dialogue.Json
