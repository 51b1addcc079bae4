import Treewalk.Proofs.Journal

/-!
The discipline of the two frame stacks. Evaluation leaves both chains as it found them, however it
ends and whatever host code it runs. A rescue that falls back to its clause does so on the chain it
was entered with and one frame of its own, however deep the failure came from. In a session there is
at every step a local frame and exactly one global frame, so that no write ever lacks a frame.
-/

set_option autoImplicit false
set_option relaxedAutoImplicit false

namespace Treewalk

/-- An evaluator that stands on frames as a session's does: there is a local frame, and there is
exactly one global frame. -/
def Evaluator.Grounded (evaluator : Evaluator) : Prop :=
  evaluator.locals ≠ [] ∧ evaluator.globals.length = 1

/-- An event of a run on grounded evaluators only: no step begins on another one, and no write lacks
a frame. -/
def Event.Grounded : Event → Prop
  | .visit _ evaluator => evaluator.Grounded
  | .frameless _ _ => False
  | _ => True

/-- Evaluation keeps the chain of each namespace. -/
theorem chain_evaluate (library : Library) (depth : Nat) (site : Site) (machine : Machine)
    (space : Space) :
    ((Eval.engine library depth).evaluate site machine).2.evaluator.chain space =
      machine.evaluator.chain space :=
  (Evolves.continues ((Eval.evolving_engine library depth).evaluate site machine)).chains space

/-- A rescue whose body fails and that has a clause goes on with the clause, on the machine that the
failure left behind. -/
theorem Eval.rescueNode_of_failed (engine : Engine) {body handler : Site}
    {clauses others : List Site} {otherwise : Option Site} {machine changed : Machine}
    {failure : Failure}
    (hsplit : splitElse clauses machine = (.value (handler :: others, otherwise), machine))
    (hfailed : engine.evaluate body (machine.enter .locals [] none).2 =
      (.failed failure, changed)) :
    rescueNode engine (body :: clauses) machine =
      let ended := engine.evaluate handler
        (changed.logged .debug .evaluator (rescueText failure))
      (ended.1, ended.2.leave .locals (machine.enter .locals [] none).1) := by
  have hrescued : rescued engine body (handler :: others) otherwise
      (machine.enter .locals [] none).2 =
        engine.evaluate handler (changed.logged .debug .evaluator (rescueText failure)) := by
    unfold rescued
    rw [hfailed]
    rfl
  change (splitElse clauses >>= fun parts ↦
    Run.inFrame .locals [] none (rescued engine body parts.1 parts.2)) machine = _
  rw [Run.bind_apply, hsplit]
  dsimp only
  rw [Run.inFrame_apply, hrescued]

/-- A chain with a frame has a frame for every write. -/
theorem Frames.target?_ne_none (frames : Frames) (key : Key) {chain : Chain} (hchain : chain ≠ []) :
    frames.target? key chain ≠ none := by
  unfold target?
  split
  · exact Option.some_ne_none _
  · obtain ⟨number, rest, rfl⟩ := List.exists_cons_of_ne_nil hchain
    exact Option.some_ne_none _

/-- At a moment that is grounded only grounded events are noted. -/
theorem Event.Fits.grounded {library : Library} {moment : Machine} {event : Event}
    (hfits : event.Fits library moment) (hmoment : moment.evaluator.Grounded) : event.Grounded := by
  cases event with
  | visit tree evaluator =>
    obtain rfl := hfits
    exact hmoment
  | frameless space name =>
    refine absurd hfits (Frames.target?_ne_none _ _ ?_)
    cases space with
    | locals => exact hmoment.1
    | globals => exact List.ne_nil_of_length_eq_add_one hmoment.2
  | _ => trivial

/-- Every event of a session is grounded. -/
theorem Session.grounded_events (library : Library) (session : Session) (site : Site)
    (machine : Machine) :
    ∃ added, (session.run library site machine).2.events = added ++ machine.events ∧
      ∀ event ∈ added, event.Grounded := by
  rcases session.run_cases library site machine with hsame | ⟨outcome, ended, hevolves, hended⟩
  · exact ⟨[], congrArg Machine.events hsame, fun event hevent ↦ absurd hevent List.not_mem_nil⟩
  · obtain ⟨added, hadded⟩ := hevolves.continues.events
    obtain ⟨inner, outer, hseat⟩ := session.events_seat machine
    obtain ⟨_, _, hlocals, hglobals⟩ := session.chains_seat machine
    rw [hended, events_finish, ← hadded, hseat]
    refine ⟨added ++ [.enter .locals [] [inner], .enter .globals [] [outer]], by simp, ?_⟩
    intro event hevent
    rcases List.mem_append.mp hevent with hevent | hevent
    · obtain ⟨later, earlier, rfl⟩ := List.append_of_mem hevent
      rw [List.append_assoc, List.cons_append] at hadded
      obtain ⟨moment, hduring, -, hfits⟩ :=
        hevolves.moment hadded.symm (List.suffix_append _ _)
      refine hfits.grounded ⟨hduring.locals ?_, ?_⟩
      · rw [hlocals]
        exact List.cons_ne_nil _ _
      · rw [hduring.globals, hglobals]
        rfl
    · -- What comes before the seat are the session's own two frames.
      simp only [List.mem_cons, List.not_mem_nil, or_false] at hevent
      rcases hevent with rfl | rfl <;> trivial

/-- Evaluation leaves both chains as they were; a clause of a rescue runs on the chain that the
rescue was entered with and one frame more; and in a session every step is grounded. -/
theorem stack_discipline (library : Library) :
    (∀ (depth : Nat) (site : Site) (machine : Machine),
      let after := ((Eval.engine library depth).evaluate site machine).2
      after.evaluator.locals = machine.evaluator.locals ∧
        after.evaluator.globals = machine.evaluator.globals) ∧
    (∀ (depth : Nat) (body handler : Site) (clauses others : List Site) (otherwise : Option Site)
      (machine changed : Machine) (failure : Failure),
      let engine := Eval.engine library depth
      let entered := machine.enter .locals [] none
      let resumed := changed.logged .debug .evaluator (Eval.rescueText failure)
      Eval.splitElse clauses machine = (.value (handler :: others, otherwise), machine) →
      engine.evaluate body entered.2 = (.failed failure, changed) →
        Eval.rescueNode engine (body :: clauses) machine =
          ((engine.evaluate handler resumed).1,
            (engine.evaluate handler resumed).2.leave .locals entered.1) ∧
        resumed.evaluator.locals = machine.frames.size :: machine.evaluator.locals ∧
        resumed.evaluator.globals = machine.evaluator.globals) ∧
    (∀ (session : Session) (site : Site) (machine : Machine),
      ∃ added, (session.run library site machine).2.events = added ++ machine.events ∧
        ∀ event ∈ added, event.Grounded) := by
  refine ⟨fun depth site machine ↦ ⟨chain_evaluate library depth site machine .locals,
    chain_evaluate library depth site machine .globals⟩, ?_, Session.grounded_events library⟩
  intro depth body handler clauses others otherwise machine changed failure engine entered resumed
    hsplit hfailed
  have hchain (space : Space) :
      resumed.evaluator.chain space = entered.2.evaluator.chain space := by
    have hbody := chain_evaluate library depth body entered.2 space
    rw [hfailed] at hbody
    rw [Machine.evaluator_logged]
    exact hbody
  exact ⟨Eval.rescueNode_of_failed engine hsplit hfailed, hchain .locals, hchain .globals⟩

/-- A leaf inside a sequence fails there, and the clause still runs on the one frame of the rescue. -/
theorem clause_frame_after_nested_failure :
    ∃ failure changed,
      Eval.splitElse [⟨.node "resbody" [], .common⟩, .absent] {} =
        (.value ([⟨.node "resbody" [], .common⟩], none), {}) ∧
      (Eval.engine {} 2).evaluate ⟨.node "begin" [.leaf (.int 1)], .common⟩
        (Machine.enter .locals [] none {}).2 = (.failed failure, changed) ∧
      (changed.logged .debug .evaluator (Eval.rescueText failure)).evaluator.locals = [0] := by
  have hfails : ∃ failure changed, (Eval.engine {} 2).evaluate
      ⟨.node "begin" [.leaf (.int 1)], .common⟩ (Machine.enter .locals [] none {}).2 =
        (.failed failure, changed) := ⟨_, _, rfl⟩
  obtain ⟨failure, changed, hfailed⟩ := hfails
  exact ⟨failure, changed, rfl, hfailed, ((stack_discipline {}).2.1 2 _
    ⟨.node "resbody" [], .common⟩ [_, .absent] [] none {} changed failure rfl hfailed).2.1⟩

end Treewalk
