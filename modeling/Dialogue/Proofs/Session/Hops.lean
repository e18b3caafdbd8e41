import Dialogue.Proofs.Session.Stops

namespace Dialogue.Session

open Dialogue.Flow

/-!
# What the number of hops decides

No step of a turn looks at how many hops are allowed; they are counted where containers are left,
and a turn that has none left fails there. So two turns under different numbers of hops make the
same stops for as long as both go on. With more hops a turn that came to an end comes to the same
end, and only one that was cut off may go on.

* `Tour.widen`, `Trip.widen`: with more hops allowed, the same stops and the same end.
* `Trip.lasts_or_limit`: a turn that fails for want of hops names how many were allowed.
* `hops_only_cut_off`: no number of hops changes what a turn comes to, except by cutting it off.
-/

variable {g : Graph} {env : Environment} {step : Step} {left left' fewer more : Nat}
  {stops : List Stop} {out : Except Abort Turn}

/-- A result that is not for want of hops. -/
def Lasts (out : Except Abort Turn) : Prop := ∀ a, out = .error a → ¬a.error.IsLimit

/-- Finishing a turn does not cut it off. -/
theorem Lasts.of_finish (h : Lasts (Turn.finish env <$> out)) : Lasts out := by
  intro a ha
  subst ha
  exact h a rfl

/-- A tour that does not run out of hops is a tour with any greater number of them. -/
theorem Tour.widen (h : Tour g { env with maxHops := fewer } left step stops out)
    (hleft : left ≤ left') (hout : Lasts out) :
    Tour g { env with maxHops := more } left' step stops out := by
  induction h generalizing left' with
  | rest left t => exact .rest left' t
  | limit t target => exact absurd ⟨_, rfl⟩ (hout _ rfl)
  | @leave left t target stops out htour ih =>
    -- The container is left in both tours, and each of them has one hop less from there on.
    obtain ⟨left', rfl⟩ : ∃ n, left' = n + 1 := ⟨left' - 1, by omega⟩
    have hleft : left ≤ left' := by omega
    exact .leave (ih hleft hout)
  | fails hpass => exact .fails hpass
  | pass hpass htour ih => exact .pass hpass (ih hleft hout)

variable {drawn : Nat} {s : State} {inbound : Option Inbound}

/-- A trip that does not run out of hops is a trip with any greater number of them. -/
theorem Trip.widen (h : Trip g { env with maxHops := fewer } drawn s inbound stops out)
    (hhops : fewer ≤ more) (hout : Lasts out) :
    Trip g { env with maxHops := more } drawn s inbound stops out := by
  -- What a turn begins with does not look at the number of hops.
  cases h with
  | ended hs => exact .ended hs
  | fails hs hopening => exact .fails hs hopening
  | tours hs hopening htour => exact .tours hs hopening (htour.widen hhops hout.of_finish)

/-- A trip that does not last has run out of hops, and names their number. -/
theorem Trip.lasts_or_limit (h : Trip g env drawn s inbound stops out) :
    Lasts out ∨ ∃ n, out = .error ⟨.graph (.traversalLimit env.maxHops), n⟩ := by
  by_cases hout : Lasts out
  · exact .inl hout
  · right
    simp only [Lasts, not_forall, not_not] at hout
    obtain ⟨⟨e, n⟩, rfl, ha⟩ := hout
    obtain ⟨step, -, -, htour⟩ := h.exists_tour ha
    have hnamed : e = .graph (.traversalLimit env.maxHops) := (htour.exhausted ha).1
    exact ⟨n, by rw [hnamed]⟩

/-- The number of hops that are allowed cuts turns off and does nothing else. Whatever the flow, the
session and the answer are: a turn that does not fail for want of hops comes with more of them to
the very same result, the same reply and session or the same failure, with as many tokens drawn. And
a turn that fails for want of hops, naming their number, fails so with fewer of them. -/
theorem hops_only_cut_off (g : Graph) (env : Environment) {fewer more : Nat}
    (hhops : fewer ≤ more) (drawn : Nat) (s : State) (inbound : Option Inbound) :
    let result hops := Turn.run g { env with maxHops := hops } drawn s inbound
    ((∀ limit n, result fewer ≠ .error ⟨.graph (.traversalLimit limit), n⟩) →
      result more = result fewer) ∧
    ∀ limit n, result more = .error ⟨.graph (.traversalLimit limit), n⟩ →
      limit = more ∧ ∃ n', result fewer = .error ⟨.graph (.traversalLimit fewer), n'⟩ := by
  obtain ⟨stops, out, htrip⟩ := exists_trip g { env with maxHops := fewer } drawn s inbound
  intro result
  have hfewer : result fewer = out := htrip.run_eq
  obtain hlasts | ⟨n', hlimit⟩ := htrip.lasts_or_limit
  · -- The turn comes to its own end, and with more hops to the same one.
    have hmore : result more = out := (htrip.widen hhops hlasts).run_eq
    refine ⟨fun _ => hmore.trans hfewer.symm, fun limit n hcut => ?_⟩
    exact absurd ⟨limit, rfl⟩ (hlasts _ (hmore.symm.trans hcut))
  · -- The turn is cut off; where more hops do not help, their number is named.
    have hcutoff : result fewer = .error ⟨.graph (.traversalLimit fewer), n'⟩ :=
      hfewer.trans hlimit
    refine ⟨fun hworks => absurd hcutoff (hworks fewer n'), fun limit n hcut => ?_⟩
    refine ⟨?_, n', hcutoff⟩
    obtain ⟨stops', out', htrip'⟩ := exists_trip g { env with maxHops := more } drawn s inbound
    obtain rfl : out' = .error ⟨.graph (.traversalLimit limit), n⟩ :=
      htrip'.run_eq.symm.trans hcut
    obtain hlasts' | ⟨n'', hnamed⟩ := htrip'.lasts_or_limit
    · exact absurd ⟨limit, rfl⟩ (hlasts' _ rfl)
    · cases hnamed
      rfl

/-- Whoever accepts the invitation needs one hop; with more of them the same is asked. -/
theorem hops_only_cut_off_invitation :
    let result hops := Turn.run (Graph.ofDefinition Invitation.flow)
      { Invitation.setting with maxHops := hops } 0 Invitation.offering.state
      (some { buttonId := some "yes" })
    (1 ≤ 64 ∧ result 1 = .ok Invitation.asking ∧ result 64 = .ok Invitation.asking) ∧
      result 0 = .error ⟨.graph (.traversalLimit 0), 0⟩ := by
  intro result
  have hone : result 1 = .ok Invitation.asking := by decide +kernel
  have hnone : result 0 = .error ⟨.graph (.traversalLimit 0), 0⟩ := by decide +kernel
  have hmore : result 64 = result 1 := by
    have hhops : 1 ≤ 64 := by decide
    refine (hops_only_cut_off (Graph.ofDefinition Invitation.flow) Invitation.setting hhops 0
      Invitation.offering.state (some { buttonId := some "yes" })).1 fun limit n hlimit => ?_
    have hok : result 1 = .error ⟨.graph (.traversalLimit limit), n⟩ := hlimit
    rw [hone] at hok
    cases hok
  exact ⟨⟨by decide, hone, hmore.trans hone⟩, hnone⟩

end Dialogue.Session
