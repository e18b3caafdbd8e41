import Dialogue.Proofs.Script.Watch

namespace Dialogue.Script

open Effects

/-!
# What server scripts see

Properties and methods of page objects are open to any script that has one. What keeps a server
script from the page is that it never gets hold of one: names lead to page objects only in scripts
that run for a page, and all else leads to page objects only from page objects.

* `Moment.Holds`: the values that a script holds at a moment.
* `Course.fits_moment`: along a run that may not see pages, no page object is held.
* `server_scripts_see_no_page`: the run of a server script tells nothing about the page.
-/

variable {pages : Prop}

/-- A value of a name in some block. -/
def Scopes.Has (s : Scopes) (v : Value) : Prop :=
  ∃ d ∈ s.globals :: s.blocks, ∃ name, d.get? name = some v

/-- Where all scopes fit, so does the value of each name. -/
theorem Scopes.Fits.of_has {s : Scopes} {v : Value} (h : s.Fits pages) (hv : s.Has v) :
    v.Fits pages := by
  obtain ⟨d, hd, name, hv⟩ := hv
  rcases List.mem_cons.1 hd with rfl | hd
  · exact h.globals name v hv
  · exact h.blocks d hd name v hv

/-- The values that a script holds at a moment: the one that has come up, those of all names, and
the one that the script has if it ends without one. -/
inductive Moment.Holds (moment : Moment) : Value → Prop
  | came {v : Value} : moment.act = .came v → Holds moment v
  | named {v : Value} : moment.machine.scopes.Has v → Holds moment v
  | completion : Holds moment moment.machine.completion

/-- What a script holds at the moments of a course may come up, and the page is looked at only if
pages may be seen. -/
theorem Course.fits_moment {c : Context} {m : Machine} {log : List Moment}
    (h : Course pages c m log) :
    ∀ moment ∈ log, (moment.act = .looked → pages) ∧ ∀ v, moment.Holds v → v.Fits pages := by
  -- Along the course: only where pages may be seen is there a move that looks at one, and what
  -- every move leaves behind fits again.
  induction h with
  | start => exact List.forall_mem_nil _
  | @move m m' log act h hm ih =>
    have hfits := (h.move hm).fits
    refine List.forall_mem_append.2 ⟨ih, List.forall_mem_singleton.2 ⟨fun hl => ?_, fun v hv => ?_⟩⟩
    · cases hl
      cases hm with
      | looked hp => exact hp
    · cases hv with
      | came hv =>
        cases hv
        cases hm with
        | came hv => exact hv
      | named hv => exact hfits.1.of_has hv
      | completion => exact hfits.2

/-- Server scripts do not tell contexts apart that differ in what is known about the page. -/
theorem Program.run_server_eq (program : Program) (limits : Limits) (elapsed : Nat → Nat)
    (vars : Dictionary String) (client client' : ClientContext) :
    program.run ⟨vars, .server, client', limits, elapsed⟩ =
      program.run ⟨vars, .server, client, limits, elapsed⟩ := by
  have h : Context.Alike False ⟨vars, .server, client, limits, elapsed⟩
      ⟨vars, .server, client', limits, elapsed⟩ := ⟨rfl, False.elim, fun h => by cases h⟩
  rw [← program.watch_outcome, program.watch_alike h, program.watch_outcome]

/-- A server script has the same outcome whatever is known about the page. All along the run of any
program it does not look at the page, and holds no page object. -/
theorem server_scripts_see_no_page (limits : Limits) (elapsed : Nat → Nat)
    (vars : Dictionary String) (client client' : ClientContext) :
    (∀ source, sandbox limits elapsed source vars .server client' =
      sandbox limits elapsed source vars .server client) ∧
    ∀ program : Program,
      (program.watch ⟨vars, .server, client, limits, elapsed⟩).1 =
        program.run ⟨vars, .server, client, limits, elapsed⟩ ∧
      ∀ moment ∈ (program.watch ⟨vars, .server, client, limits, elapsed⟩).2,
        moment.act ≠ .looked ∧ ∀ v, moment.Holds v → v.isPage = false := by
  refine ⟨fun source => ?_, fun program => ⟨program.watch_outcome _, fun moment hm => ?_⟩⟩
  · unfold sandbox
    rcases Script.program source with e | program
    · rfl
    · exact program.run_server_eq limits elapsed vars client client'
  · have hserver : (⟨vars, .server, client, limits, elapsed⟩ : Context).mode = .client → False :=
      fun h => by cases h
    obtain ⟨m, hc, -⟩ := program.watch_course hserver
    obtain ⟨hl, hv⟩ := hc.fits_moment moment hm
    exact ⟨hl, fun v h => Bool.eq_false_iff.2 (hv v h)⟩

end Dialogue.Script
