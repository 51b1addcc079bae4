import Treewalk.Host.Workbench
import Treewalk.Proofs.History
import Treewalk.Proofs.Lifecycle

/-!
Aborts of the host. Scripts cannot rescue one: in the journal of a session nothing stands after an
abort, and the session ends with that very abort, however deeply the host code that aborts is nested
in rescues, blocks and callbacks (`host_abort_ends_session`). Sandboxes and runners pass it on.

No function of the evaluator has to be looked at for this. A run goes on from a value or from a
failure only, so that in `Evolves` an abort is never the first of two parts.
-/

set_option autoImplicit false
set_option relaxedAutoImplicit false

namespace Treewalk

/-- The message of an abort. -/
def Outcome.abort? {α : Type} : Outcome α → Option String
  | .aborted message => some message
  | _ => none

theorem Outcome.abort?_eq_some {α : Type} {outcome : Outcome α} {message : String} :
    outcome.abort? = some message ↔ outcome = .aborted message := by
  cases outcome <;> simp [abort?]

theorem Outcome.abort?_ending {α : Type} (outcome : Outcome α) :
    outcome.ending.abort? = outcome.abort? := by
  cases outcome <;> rfl

/-- A run in which an abort is the last thing that happens: one that was noted on the way is the
latest event and the way the run ends, and a run that ends so has just noted it. -/
structure Run.EndsAtAbort {α : Type} (run : Run α) (machine : Machine) : Prop where
  last : ∀ later message earlier,
    (run machine).2.events = later ++ .abort message :: earlier → machine.events <:+ earlier →
      later = [] ∧ (run machine).1 = .aborted message
  noted : ∀ message, (run machine).1 = .aborted message →
    ∃ earlier, (run machine).2.events = .abort message :: earlier ∧ machine.events <:+ earlier

/-! ### Evolution -/

namespace Evolves

variable {library : Library} {before after : Machine} {outcome : Outcome Unit}

/-- A part of a run that ends otherwise noted no abort. -/
theorem abort_last (hevolves : Evolves library before outcome after) {later earlier : List Event}
    {message : String} (hcut : after.events = later ++ .abort message :: earlier)
    (hnew : before.events <:+ earlier) : later = [] ∧ outcome = .aborted message := by
  induction hevolves generalizing later earlier with
  | value machine => exact absurd hnew (not_suffix_of_cut hcut)
  | failed failure machine => exact absurd hnew (not_suffix_of_cut hcut)
  | exhausted machine => exact absurd hnew (not_suffix_of_cut hcut)
  | aborted reason machine =>
    obtain ⟨hevent, rfl⟩ := cut_cons hcut hnew
    obtain rfl := Event.abort.inj hevent
    have hlater : later = [] := List.append_left_eq_self.mp hcut.symm
    exact ⟨hlater, rfl⟩
  | next hfirst hlast ihfirst ihlast | recovered hfirst hlast ihfirst ihlast =>
    rcases cut_cases hcut hlast.continues.events with hlater | ⟨rest, hrest⟩
    · exact ihlast hcut hlater
    · -- The first part did not end with an abort, as there is a second one.
      obtain ⟨-, hended⟩ := ihfirst hrest hnew
      cases hended
  | updated heap marks machine => exact absurd hnew (not_suffix_of_cut hcut)
  | closed closure machine captured => exact absurd hnew (not_suffix_of_cut hcut)
  | visited tree machine => cases (cut_cons hcut hnew).1
  | moved tree machine => exact absurd hnew (not_suffix_of_cut hcut)
  | recorded requests records machine => exact absurd hnew (not_suffix_of_cut hcut)
  | asked engine receiver member node answer answered asking ih =>
    rcases cut_cases hcut (List.suffix_cons _ _) with hlater | ⟨rest, hrest⟩
    · cases (cut_cons hcut hlater).1
    · obtain ⟨-, hended⟩ := ih hrest hnew
      cases hended
  | untraced receiver member machine => cases (cut_cons hcut hnew).1
  | reached receiver name effect machine =>
    rw [Machine.events_affected] at hcut
    cases (cut_cons hcut hnew).1
  | invoked receiver member arguments block machine granted => cases (cut_cons hcut hnew).1
  | lookedUp owner name machine granted => cases (cut_cons hcut hnew).1
  | written space name value number machine target => cases (cut_cons hcut hnew).1
  | frameless space name failure machine target => cases (cut_cons hcut hnew).1
  | @framed bindings base machine left _ captured inside ih =>
    rw [Machine.events_leave] at hcut
    rcases cut_cases hcut inside.continues.events with hlater | ⟨rest, hrest⟩
    · exact ih hcut hlater
    · rw [Machine.events_enter] at hrest
      cases (cut_cons hrest hnew).1

/-- A run that ends with an abort has noted it last. -/
theorem abort_noted (hevolves : Evolves library before outcome after) {message : String}
    (haborted : outcome = .aborted message) :
    ∃ earlier, after.events = .abort message :: earlier ∧ before.events <:+ earlier := by
  induction hevolves with
  | aborted reason machine =>
    obtain rfl := Outcome.aborted.inj haborted
    exact ⟨machine.events, rfl, List.suffix_rfl⟩
  | next hfirst hlast ihfirst ihlast | recovered hfirst hlast ihfirst ihlast =>
    obtain ⟨earlier, hevents, hsuffix⟩ := ihlast haborted
    exact ⟨earlier, hevents, hfirst.continues.events.trans hsuffix⟩
  | framed bindings base captured inside ih =>
    obtain ⟨earlier, hevents, hsuffix⟩ := ih haborted
    rw [Machine.events_enter] at hsuffix
    exact ⟨earlier, hevents, (List.suffix_cons _ _).trans hsuffix⟩
  | _ => cases haborted

end Evolves

/-! ### Sessions and runners -/

namespace Run.EndsAtAbort

variable {α : Type} {library : Library} {run : Run α} {machine : Machine}

/-- A run that adds nothing to the journal and does not end with an abort is none of its concern. -/
theorem of_quiet (hevents : (run machine).2.events = machine.events)
    (houtcome : (run machine).1.abort? = none) : run.EndsAtAbort machine where
  last _ _ _ hcut hnew := absurd hnew (not_suffix_of_cut (hevents.symm.trans hcut))
  noted message haborted := by
    rw [haborted] at houtcome
    cases houtcome

/-- What evolves ends at an abort. -/
theorem of_evolvesAt (hevolves : run.EvolvesAt library machine) : run.EndsAtAbort machine := by
  have hending (message : String) :
      (run machine).1 = .aborted message ↔ (run machine).1.ending = .aborted message := by
    rw [← Outcome.abort?_eq_some, ← Outcome.abort?_eq_some, Outcome.abort?_ending]
  refine ⟨fun later message earlier hcut hnew ↦ ?_, fun message haborted ↦ ?_⟩
  · obtain ⟨hlast, hended⟩ := Evolves.abort_last hevolves hcut hnew
    exact ⟨hlast, (hending message).mpr hended⟩
  · exact Evolves.abort_noted hevolves ((hending message).mp haborted)

end Run.EndsAtAbort

namespace Session

/-- What a session enters before it evaluates its tree are frames, and no abort. -/
theorem endsAtAbort_run (library : Library) (session : Session) (site : Site)
    (machine : Machine) : (session.run library site).EndsAtAbort machine := by
  by_cases hrunning : machine.evaluator.running = true
  · have hrun := session.run_of_running library site hrunning
    exact .of_quiet (by rw [hrun]) (by rw [hrun]; rfl)
  · have hidle := Bool.eq_false_iff.mpr hrunning
    have hevaluated : ((Eval.engine library depth).evaluate site).EndsAtAbort
        (session.seat machine) :=
      .of_evolvesAt ((Eval.evolving_engine library depth).evaluate site (session.seat machine))
    have hcontinues := Evolves.continues
      ((Eval.evolving_engine library depth).evaluate site (session.seat machine))
    obtain ⟨inner, outer, hseat⟩ := session.events_seat machine
    have hstart : machine.events <:+ (session.seat machine).events := by
      rw [hseat]
      exact (List.suffix_cons _ _).trans (List.suffix_cons _ _)
    have hrun := session.run_of_idle library site hidle
    refine ⟨fun later message earlier hcut hnew ↦ ?_, fun message haborted ↦ ?_⟩
    · rw [hrun, events_finish] at hcut
      rw [hrun]
      rcases cut_cases hcut hcontinues.events with hlater | ⟨rest, hrest⟩
      · exact hevaluated.last later message earlier hcut hlater
      · rw [hseat] at hrest
        rcases cut_cases hrest (List.suffix_cons _ _) with hlocals | ⟨others, hothers⟩
        · cases (cut_cons hrest hlocals).1
        · cases (cut_cons hothers hnew).1
    · rw [hrun] at haborted
      obtain ⟨earlier, hevents, hsuffix⟩ := hevaluated.noted message haborted
      refine ⟨earlier, ?_, hstart.trans hsuffix⟩
      rw [hrun, events_finish]
      exact hevents

end Session

namespace Runner

/-- A report replaces failures only, and leaves the journal alone. -/
theorem endsAtAbort_handle (library : Library) (runner : Runner) (locals : Option Nat)
    (script : Script) (machine : Machine) :
    (runner.handle library locals script).EndsAtAbort machine := by
  unfold handle
  rcases runner.parse script with cause | tree
  · exact .of_quiet rfl rfl
  · have hsession := (runner.session locals machine).endsAtAbort_run library
      ⟨tree, machine.memory.mint.1⟩ (marked machine)
    dsimp only
    refine ⟨fun later message earlier hcut hnew ↦ ?_, fun message haborted ↦ ?_⟩
    · rw [evaluate_apply, events_reported] at hcut
      rw [evaluate_apply, reported_eq_aborted]
      exact hsession.last later message earlier hcut hnew
    · rw [evaluate_apply, reported_eq_aborted] at haborted
      rw [evaluate_apply, events_reported]
      exact hsession.noted message haborted

end Runner

end Treewalk
