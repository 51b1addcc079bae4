import Treewalk.Host.Kernel
import Treewalk.Proofs.Journal

/-!
The life of a session. It begins on an evaluator that runs no other one, and however it ends the
evaluator is idle again. In between, whatever happens happens on an evaluator that has the context
and the policy of the session and that is running (`Session.moment_run`), so that every further
session is refused there and changes nothing. Host code that tries to start one, as often as it
likes and between whatever calls of blocks, does the same as if each attempt were a plain failure
(`Run.perform_barred`).

A script that reaches for the evaluator itself can replace the context under the running session
(`replaced_context_seen`); what is said here is said of what happens before anything is reached for.
-/

set_option autoImplicit false
set_option relaxedAutoImplicit false

namespace Treewalk

/-! ### Attempts to start a session -/

/-- Host code in which every attempt to start a session is a failure and nothing else. -/
def Action.barred {α : Type} : Action α → Action α
  | .done result => .done result
  | .fail failure => .fail failure
  | .abort message => .abort message
  | .exhaust => .exhaust
  | .inspect next => .inspect fun memory ↦ (next memory).barred
  | .update heap marks next => .update heap marks next.barred
  | .call callee arguments block next =>
    .call callee arguments block fun result ↦ (next result).barred
  | .attempt callee arguments block next catches recover =>
    .attempt callee arguments block (fun result ↦ (next result).barred) catches fun kind ↦
      (recover kind).barred
  | .parameters index next => .parameters index fun names ↦ (next names).barred
  | .observe next => .observe fun seen ↦ (next seen).barred
  | .reenter _ => .refuse .sessionRunning
  | .reach receiver name arguments next =>
    .reach receiver name arguments fun answer ↦ (next answer).barred

namespace Run

variable {α β : Type} {library : Library}

/-- Two continuations that agree on what a run hands over make the same run. -/
theorem bind_congr {run : Run α} {after other : α → Run β} {machine : Machine}
    (hagree : ∀ result changed, run machine = (.value result, changed) →
      after result changed = other result changed) :
    (run >>= after) machine = (run >>= other) machine := by
  rw [bind_apply, bind_apply]
  rcases heq : run machine with ⟨outcome, changed⟩
  cases outcome with
  | value result => exact hagree result changed heq
  | failed failure => rfl
  | aborted message => rfl
  | exhausted => rfl

/-- And so do ways to go on that agree on what a run hands over, be it a value or a failure. -/
theorem either_congr {run : Run α} {after other : α → Run β} {recover resume : Failure → Run β}
    {machine : Machine}
    (hagree : ∀ outcome changed, run machine = (outcome, changed) →
      (∀ result, after result changed = other result changed) ∧
        ∀ failure, recover failure changed = resume failure changed) :
    either run after recover machine = either run other resume machine := by
  unfold either
  rcases heq : run machine with ⟨outcome, changed⟩
  obtain ⟨hvalue, hfailed⟩ := hagree outcome changed heq
  cases outcome with
  | value result => exact hvalue result
  | failed failure => exact hfailed failure
  | aborted message => rfl
  | exhausted => rfl

/-- A run that evolves hands on a running evaluator as a running one. -/
theorem running_of_evolvesAt {run : Run α} {machine changed : Machine} {outcome : Outcome α}
    (hevolves : run.EvolvesAt library machine) (hresult : run machine = (outcome, changed))
    (hrunning : machine.evaluator.running = true) : changed.evaluator.running = true := by
  have hcontinues := Evolves.continues hevolves
  rw [hresult] at hcontinues
  exact hcontinues.running.trans hrunning

/-- On a running evaluator host code may as well fail where it tries to start a session. -/
theorem perform_barred {engine : Engine} (hengine : engine.Evolving library) (action : Action α)
    {machine : Machine} (hrunning : machine.evaluator.running = true) :
    perform engine action.barred machine = perform engine action machine := by
  -- The induction is on the requests of the host; every answer leaves the evaluator running.
  induction action generalizing machine with
  | done result => rfl
  | fail failure => rfl
  | abort message => rfl
  | exhaust => rfl
  | inspect next ih => exact ih machine.memory hrunning
  | update heap marks next ih => exact ih hrunning
  | call callee arguments block next ih =>
    refine bind_congr fun result changed hresult ↦ ih result ?_
    exact running_of_evolvesAt (hengine.call callee arguments block machine) hresult hrunning
  | attempt callee arguments block next catches recover ihnext ihrecover =>
    refine either_congr fun outcome changed hended ↦ ?_
    have hstill := running_of_evolvesAt (hengine.call callee arguments block machine) hended hrunning
    refine ⟨fun result ↦ ihnext result hstill, fun failure ↦ ?_⟩
    split
    · exact ihrecover _ hstill
    · rfl
  | parameters index next ih =>
    refine bind_congr fun names changed hnames ↦ ih names ?_
    exact running_of_evolvesAt (evolving_parameterNames hengine index machine) hnames hrunning
  | observe next ih => exact ih _ hrunning
  | reenter next ih =>
    change _ = if machine.evaluator.running then _ else _
    rw [if_pos hrunning]
    rfl
  | reach receiver name arguments next ih =>
    have hreach : (reach receiver name arguments).EvolvesAt library machine :=
      evolving_reach receiver name arguments machine
    exact bind_congr fun answer changed hanswer ↦
      ih answer (running_of_evolvesAt hreach hanswer hrunning)

end Run

/-! ### Sessions -/

namespace Session

/-- A session on a running evaluator is refused, and nothing changes. -/
theorem run_of_running (library : Library) (session : Session) (site : Site) {machine : Machine}
    (hrunning : machine.evaluator.running = true) :
    session.run library site machine = (.failed ⟨.sessionRunning, none⟩, machine) := by
  rw [run, if_pos hrunning]

/-- An evaluator that runs a session has its context and its policy, and it is running. -/
structure Governs (session : Session) (evaluator : Evaluator) : Prop where
  context : evaluator.context = session.context
  policy : evaluator.policy = session.policy.getD Policy.permissive
  running : evaluator.running = true

theorem governs_opened (session : Session) (machine : Machine) :
    session.Governs (session.opened machine).evaluator := by
  rw [session.evaluator_opened]
  exact ⟨rfl, rfl, rfl⟩

/-- Entering a frame is no matter of context, policy or session. -/
theorem Governs.enter {session : Session} {machine : Machine}
    (hgoverns : session.Governs machine.evaluator) (space : Space) (bindings : Table)
    (base : Option Chain) :
    session.Governs (machine.enter space bindings base).2.evaluator := by
  rw [Machine.evaluator_enter]
  refine ⟨?_, ?_, ?_⟩
  · rw [Evaluator.context_withChain]
    exact hgoverns.context
  · rw [Evaluator.policy_withChain]
    exact hgoverns.policy
  · rw [Evaluator.running_withChain]
    exact hgoverns.running

/-- Nor is anything that happens during a run, as long as the evaluator is not reached for. -/
theorem Governs.during {session : Session} {before moment : Machine}
    (hgoverns : session.Governs before.evaluator) (hduring : before.During moment)
    (hunreached : before.Unreached moment) : session.Governs moment.evaluator :=
  ⟨(hduring.context hunreached).trans hgoverns.context, hduring.policy.trans hgoverns.policy,
    hduring.running.trans hgoverns.running⟩

/-- Every event of a session was noted at a moment at which the session governs, as long as nothing of
the interpreter itself had been reached for. -/
theorem moment_run (library : Library) (session : Session) (site : Site) {machine : Machine}
    (hidle : machine.evaluator.running = false) {later earlier : List Event} {event : Event}
    (hcut : (session.run library site machine).2.events = later ++ event :: earlier)
    (hnew : machine.events <:+ earlier)
    (hunreached : earlier.filter Event.isReach = machine.reaches) :
    ∃ moment, session.Governs moment.evaluator ∧ moment.events = earlier ∧
      event.Fits library moment := by
  have hevolves := (Eval.evolving_engine library depth).evaluate site (session.seat machine)
  have hopened := session.governs_opened machine
  have hentered := hopened.enter .globals session.globals none
  rw [run_of_idle library session site hidle, events_finish] at hcut
  rcases cut_cases hcut hevolves.continues.events with hlater | ⟨rest, hrest⟩
  · obtain ⟨moment, hduring, hevents, hfits⟩ := Evolves.moment hevolves hcut hlater
    have hstill : (session.seat machine).Unreached moment := by
      rw [Machine.Unreached, session.reaches_seat, Machine.reaches, hevents]
      exact hunreached
    exact ⟨moment, (hentered.enter .locals session.locals none).during hduring hstill, hevents, hfits⟩
  · -- What is older than the seat are the two frames that the session itself entered.
    rw [seat, Machine.events_enter] at hrest
    rcases cut_cases hrest (List.suffix_cons _ _) with hlocals | ⟨others, hothers⟩
    · obtain ⟨rfl, rfl⟩ := cut_cons hrest hlocals
      exact ⟨_, hentered, rfl, rfl, none, rfl⟩
    · rw [Machine.events_enter] at hothers
      rw [← session.events_opened machine] at hnew
      obtain ⟨rfl, rfl⟩ := cut_cons hothers hnew
      exact ⟨_, hopened, rfl, rfl, none, rfl⟩

end Session

/-- A session that reaches for nothing of the interpreter itself leaves an idle evaluator behind. As
long as nothing of it has been reached for, each step of a session is made on an evaluator that has
its context and its policy, as everything else that happens in it is; and wherever the session governs,
any further session fails and leaves the machine as it is. Attempts by host code are no exception,
wherever in the host code they stand. -/
theorem session_lifecycle (library : Library) (session : Session) (site : Site) (machine : Machine)
    (hidle : machine.evaluator.running = false) :
    (machine.Unreached (session.run library site machine).2 →
      (session.run library site machine).2.evaluator = Evaluator.idle) ∧
    (∀ later event earlier,
      (session.run library site machine).2.events = later ++ event :: earlier →
      machine.events <:+ earlier → earlier.filter Event.isReach = machine.reaches →
        (∀ tree evaluator, event = .visit tree evaluator → session.Governs evaluator) ∧
        ∃ moment, session.Governs moment.evaluator ∧ moment.events = earlier ∧
          event.Fits library moment) ∧
    (∀ moment, session.Governs moment.evaluator →
      (∀ (others : Library) (other : Session) (root : Site),
        other.run others root moment = (.failed ⟨.sessionRunning, none⟩, moment)) ∧
      ∀ (depth : Nat) (α : Type) (action : Action α),
        Run.perform (Eval.engine library depth) action moment =
          Run.perform (Eval.engine library depth) action.barred moment) ∧
    Cause.sessionRunning.kind = .runtime := by
  refine ⟨fun _ ↦ ?_, ?_, ?_, rfl⟩
  · rw [Session.run_of_idle library session site hidle]
    exact Session.evaluator_finish _
  · intro later event earlier hcut hnew hunreached
    obtain ⟨moment, hgoverns, hevents, hfits⟩ :=
      session.moment_run library site hidle hcut hnew hunreached
    refine ⟨?_, moment, hgoverns, hevents, hfits⟩
    rintro tree evaluator rfl
    obtain rfl := hfits
    exact hgoverns
  · intro moment hgoverns
    refine ⟨fun others other root ↦ other.run_of_running others root hgoverns.running, ?_⟩
    intro depth α action
    exact (Run.perform_barred (Eval.evolving_engine library depth) action hgoverns.running).symm

/-- A session over a leaf fails, and the evaluator is idle again; on its seat host code that tries
to start another session fails there. -/
theorem failed_session_leaves_idle :
    let session : Session := { context := .ofInt 7 }
    ({} : Machine).evaluator.running = false ∧
      (session.run {} ⟨.leaf (.int 1), .common⟩ {}).2.evaluator = Evaluator.idle ∧
      Run.perform (Eval.engine {} 1) (.reenter (.done Value.nil)) (session.seat {}) =
        Run.perform (Eval.engine {} 1) (.refuse .sessionRunning) (session.seat {}) := by
  intro session
  have hidle : ({} : Machine).evaluator.running = false := rfl
  have hunreached : ({} : Machine).Unreached (session.run {} ⟨.leaf (.int 1), .common⟩ {}).2 := rfl
  have hgoverns : session.Governs (session.seat {}).evaluator := ⟨rfl, rfl, rfl⟩
  obtain ⟨hafter, -, hrefused, -⟩ :=
    session_lifecycle {} session ⟨.leaf (.int 1), .common⟩ {} hidle
  exact ⟨hidle, hafter hunreached, (hrefused _ hgoverns).2 1 Value (.reenter (.done .nil))⟩

/-- Whether an event is an evaluation that begins with an integer for the context. -/
def Event.seesInteger : Event → Bool
  | .visit _ evaluator => evaluator.context.integer?.isSome
  | _ => false

/-- A session reaches for its evaluator and replaces the context by an integer. The nodes after that are
evaluated with that integer, and not with the context that the session was given. -/
theorem replaced_context_seen :
    let machine : Machine := { memory := { heap := #[Host.kernelCell] } }
    let session : Session := { context := .cell 0 }
    let replace := Tree.sent Tree.blockEvaluator "__setattr__"
      [.node "str" [.leaf (.text "context")], .node "int" [.leaf (.int 5)]]
    let site : Site := ⟨.node "begin" [replace, .node "self" []], .common⟩
    machine.evaluator.running = false ∧
      ∃ tree evaluator, .visit tree evaluator ∈ (session.run Host.kernelLibrary site machine).2.events ∧
        evaluator.context ≠ session.context := by
  intro machine session replace site
  have hseen : (session.run Host.kernelLibrary site machine).2.events.any Event.seesInteger = true := by
    decide +kernel
  obtain ⟨event, hmem, hinteger⟩ := List.any_eq_true.mp hseen
  cases event with
  | visit tree evaluator =>
    refine ⟨rfl, tree, evaluator, hmem, fun hsame ↦ ?_⟩
    rw [Event.seesInteger, hsame] at hinteger
    cases hinteger
  | _ => cases hinteger

end Treewalk
