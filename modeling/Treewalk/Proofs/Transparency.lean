import Treewalk.Host.Workbench
import Treewalk.Proofs.History
import Treewalk.Proofs.Restriction

/-!
What is logged makes no difference. Take one session twice, once so that every dispatch is traced
and once with another threshold for log records. A trace prints the receiver and the member, and a
session in which each of them could be printed, and which does not reach for the interpreter itself,
ends in the same way at every threshold, after the same deeds and the same requests, with the same
memory and frames (`logging_transparent`).

The first condition cannot be dropped. A block whose only parameter is a number can be sent `nil?`,
but its trace cannot be printed, so that the session fails where traces are kept and has a value
where they are not (`malformed_parameter_breaks_trace`).

The two runs are paired on everything (`Session.relogging`). They part where a send cannot be traced,
which is noted where the traces are kept.
-/

set_option autoImplicit false
set_option relaxedAutoImplicit false

namespace Treewalk

/-! ### Traces -/

/-- Whether what is logged may show in an event: in a send that could not be traced, or where something
of the interpreter itself was reached for. -/
def Event.showsLog : Event → Bool
  | .untraced _ _ => true
  | .reach _ _ => true
  | _ => false

namespace Eval

open Run

variable (receiver : Value) (member : Tree) (arguments : List Value) (block : Option Value)
  (receiverNode : Tree)

/-- What tracing does: it prints the receiver and the member if the trace is kept, and only then. -/
theorem trace_apply (machine : Machine) :
    trace receiver member arguments block receiverNode machine =
      if machine.threshold ≤ Log.Severity.debug.number then
        match traceText machine.memory receiver member arguments block receiverNode with
        | .ok text => (.value (), machine.logged .debug .evaluator text)
        | .error flaw =>
          (.failed ⟨.plain flaw.kind, none⟩, machine.noted (.untraced receiver member))
      else (.value (), machine) := by
  unfold trace
  rw [look_bind_apply]
  split
  · rw [look_bind_apply]
    cases traceText machine.memory receiver member arguments block receiverNode <;> rfl
  · rfl

/-- A trace that can be printed is a log record and nothing else, whether it is kept or not. -/
theorem trace_of_printed {machine : Machine} {text : String}
    (htext : traceText machine.memory receiver member arguments block receiverNode = .ok text) :
    trace receiver member arguments block receiverNode machine =
      (.value (), machine.logged .debug .evaluator text) := by
  rw [trace_apply, htext]
  by_cases hthreshold : machine.threshold ≤ Log.Severity.debug.number
  · rw [if_pos hthreshold]
  · rw [if_neg hthreshold, Machine.logged, if_neg hthreshold]

/-- Where traces are kept, it is noted that one cannot be printed. -/
theorem trace_of_flawed {machine : Machine} {flaw : Flaw}
    (hloud : machine.threshold ≤ Log.Severity.debug.number)
    (hflaw : traceText machine.memory receiver member arguments block receiverNode = .error flaw) :
    trace receiver member arguments block receiverNode machine =
      (.failed ⟨.plain flaw.kind, none⟩, machine.noted (.untraced receiver member)) := by
  rw [trace_apply, hflaw, if_pos hloud]

end Eval

/-! ### The pair of runs -/

/-- The machine with another threshold and other log records. -/
def Machine.relogged (threshold : Nat) (records : List Log.Record) (machine : Machine) : Machine :=
  { machine with threshold := threshold, records := records }

namespace Session

variable (session : Session) (machine : Machine) (threshold : Nat) (records : List Log.Record)

/-- A session beside the same session with another threshold. The runs part where the first one comes
to a send that cannot be traced. -/
def relogging : Pairing where
  realm := .everything
  left := session.seat machine
  right := session.seat (machine.relogged threshold records)
  Parted first _ := ∃ receiver member common,
    .untraced receiver member :: common ++ (session.seat machine).deeds <:+ first.deeds
  whole_of_parted _ := Realm.whole_everything
  parted_mono := by
    rintro first second later latter ⟨receiver, member, common, hsuffix⟩ hfirst -
    exact ⟨receiver, member, common, hsuffix.trans (Machine.deeds_suffix hfirst.events)⟩

/-- The seats of the two sessions differ in what is logged alone. -/
theorem seat_relogged : ∃ opening,
    session.seat (machine.relogged threshold records) =
      (session.seat machine).relogged threshold opening := by
  unfold seat opened Machine.logged
  split <;> split <;> exact ⟨_, rfl⟩

theorem coupled_relogged : (session.relogging machine threshold records).Coupled
    (session.seat machine) (session.seat (machine.relogged threshold records)) := by
  obtain ⟨opening, hseat⟩ := session.seat_relogged machine threshold records
  have hmemory := congrArg Machine.memory hseat
  have hevaluator := congrArg Machine.evaluator hseat
  have hhandlers := congrArg Machine.handlers hseat
  have hframes := congrArg Machine.frames hseat
  refine Pairing.coupled_of_whole Realm.whole_everything hmemory hhandlers ?_ hframes
  exact hevaluator.trans (by rw [relogging, hevaluator]; rfl)

/-- The policy is the same at both thresholds. -/
theorem policy_relogging :
    (session.relogging machine threshold records).right.evaluator.policy =
      (session.relogging machine threshold records).left.evaluator.policy :=
  (session.policy_seat _).trans (session.policy_seat machine).symm

theorem threshold_seat : (session.seat machine).threshold = machine.threshold := by
  unfold seat opened Machine.logged
  split <;> rfl

/-- A trace is printed on both sides, or else the left side, which keeps it, notes that it is not. -/
theorem inStep_trace_relogging (hloud : machine.threshold ≤ Log.Severity.debug.number)
    (receiver : Value) (member : Tree) (arguments : List Value) (block : Option Value)
    (receiverNode : Tree) :
    (Eval.trace receiver member arguments block receiverNode).InStep
      (session.relogging machine threshold records) where
  grows _ tracing := by
    have hevolving : (Eval.trace receiver member arguments block receiverNode).Evolving {} :=
      Eval.evolving_trace receiver member arguments block receiverNode
    exact .of_continues (hevolving tracing).continues
  joined left right hcoupled := by
    cases htext : Eval.traceText left.memory receiver member arguments block receiverNode with
    | ok text =>
      rw [Eval.trace_of_printed _ _ _ _ _ htext,
        Eval.trace_of_printed _ _ _ _ _ (hcoupled.memory.symm ▸ htext)]
      exact .coupled (within_value trivial) (hcoupled.logged _ _ _)
    | error flaw =>
      have hleft : left.threshold ≤ Log.Severity.debug.number :=
        hcoupled.leftThreshold.trans (session.threshold_seat machine) ▸ hloud
      obtain ⟨added, hdeeds, -⟩ := hcoupled.deeds
      have hdeeds : left.deeds = added ++ (session.seat machine).deeds := hdeeds
      rw [Eval.trace_of_flawed _ _ _ _ _ hleft htext]
      refine .parted ⟨receiver, member, added, ?_⟩
      rw [List.cons_append, ← hdeeds, Machine.deeds_noted]
      exact List.suffix_rfl

theorem inStep_evaluate_relogging (hloud : machine.threshold ≤ Log.Severity.debug.number)
    (library : Library) (site : Site) :
    ((Eval.engine library depth).evaluate site).InStep
      (session.relogging machine threshold records) :=
  (Eval.inStep_engine (.of_whole Realm.whole_everything library)
    (Run.inStep_reach (congrArg Policy.lists (session.policy_relogging machine threshold records)))
    (session.inStep_trace_relogging machine threshold records hloud)
    (fun _ hengine _ member node hreceiver ↦
      Eval.inStep_authorize hengine (session.policy_relogging machine threshold records)
        (fun _ _ _ _ _ _ ↦ Action.confinedOn_of_whole Realm.whole_everything _ _) hreceiver member
        node)
    depth).evaluate site

end Session

/-! ### The main result -/

/-- Two runs that differ in what was logged at most. -/
structure Run.SameButLogged {α : Type} (first second : Outcome α × Machine) : Prop where
  outcome : second.1 = first.1
  handlers : second.2.handlers = first.2.handlers
  memory : second.2.memory = first.2.memory
  frames : second.2.frames = first.2.frames
  evaluator : second.2.evaluator = first.2.evaluator
  deeds : second.2.deeds = first.2.deeds
  requests : second.2.requests = first.2.requests

namespace Session

variable {session : Session} {machine : Machine} {threshold : Nat} {records : List Log.Record}

/-- What coupled machines come to at the end of the session. -/
theorem sameButLogged_finish {left right : Machine}
    (hcoupled : (session.relogging machine threshold records).Coupled left right)
    (outcome : Outcome Value) : Run.SameButLogged (outcome, finish left) (outcome, finish right) := by
  obtain ⟨opening, hseat⟩ := session.seat_relogged machine threshold records
  have hdeeds := congrArg Machine.deeds hseat
  have hrequests := congrArg Machine.requests hseat
  have hrecords := congrArg Policy.records (session.policy_relogging machine threshold records)
  exact
    { outcome := rfl
      handlers := by rw [handlers_finish, handlers_finish, hcoupled.handlers]
      memory := by rw [memory_finish, memory_finish, hcoupled.memory]
      frames := by
        rw [frames_finish, frames_finish, hcoupled.frames_eq Realm.whole_everything]
      evaluator := by rw [evaluator_finish, evaluator_finish]
      deeds := by
        rw [Machine.deeds, Machine.deeds, events_finish, events_finish]
        exact (hcoupled.deeds.eq_of_eq hdeeds.symm).symm
      requests := by
        rw [requests_finish, requests_finish]
        exact ((hcoupled.requests hrecords.symm).eq_of_eq hrequests.symm).symm }

/-- A session in which every send is traced, and that does not reach for the interpreter itself, is the
same at every threshold. -/
theorem sameButLogged_run (library : Library) (session : Session) (site : Site)
    (hloud : machine.threshold ≤ Log.Severity.debug.number) (threshold : Nat)
    (records : List Log.Record)
    (htraced : ∀ event ∈ machine.deedsSince (session.run library site machine).2,
      event.showsLog = false) :
    Run.SameButLogged (session.run library site machine)
      (session.run library site (machine.relogged threshold records)) := by
  by_cases hrunning : machine.evaluator.running = true
  · have hother : (machine.relogged threshold records).evaluator.running = true := hrunning
    rw [session.run_of_running library site hrunning, session.run_of_running library site hother]
    exact ⟨rfl, rfl, rfl, rfl, rfl, rfl, rfl⟩
  · have hidle := Bool.eq_false_iff.mpr hrunning
    have hother : (machine.relogged threshold records).evaluator.running = false := hidle
    have hjoined := (session.inStep_evaluate_relogging machine threshold records hloud library
      site).joined _ _ (session.coupled_relogged machine threshold records)
    rw [session.run_of_idle library site hidle] at htraced ⊢
    rw [session.run_of_idle library site hother]
    generalize (Eval.engine library depth).evaluate site (session.seat machine) = first
      at hjoined htraced ⊢
    generalize (Eval.engine library depth).evaluate site
      (session.seat (machine.relogged threshold records)) = second at hjoined ⊢
    cases hjoined with
    | coupled within coupled => exact sameButLogged_finish coupled _
    | parted parted =>
      obtain ⟨receiver, member, common, hsuffix⟩ := parted
      cases htraced _ (session.mem_deedsSince_finish machine hsuffix)

end Session

namespace Runner

/-- A report adds no more than a log record. -/
theorem sameButLogged_reported {first second : Outcome Value × Machine}
    (hsame : Run.SameButLogged first second) :
    Run.SameButLogged (reported first) (reported second) := by
  obtain ⟨outcome, ended⟩ := first
  obtain ⟨same, latter⟩ := second
  obtain rfl : same = outcome := hsame.outcome
  cases same with
  | failed | exhausted =>
    exact
      { outcome := rfl
        handlers := by simpa [reported] using hsame.handlers
        memory := by simpa [reported] using hsame.memory
        frames := by simpa [reported] using hsame.frames
        evaluator := by simpa [reported] using hsame.evaluator
        deeds := by simpa [reported] using hsame.deeds
        requests := by simpa [reported] using hsame.requests }
  | value | aborted => exact { hsame with outcome := rfl }

theorem sameButLogged_handle (library : Library) (runner : Runner) (locals : Option Nat)
    (script : Script) {machine : Machine} (hloud : machine.threshold ≤ Log.Severity.debug.number)
    (threshold : Nat) (records : List Log.Record)
    (htraced : ∀ event ∈ machine.deedsSince (runner.handle library locals script machine).2,
      event.showsLog = false) :
    Run.SameButLogged (runner.handle library locals script machine)
      (runner.handle library locals script (machine.relogged threshold records)) := by
  unfold handle at htraced ⊢
  generalize runner.parse script = parsed at htraced ⊢
  rcases parsed with cause | tree
  · exact ⟨rfl, rfl, rfl, rfl, rfl, rfl, rfl⟩
  · dsimp only at htraced ⊢
    rw [evaluate_apply, Machine.deedsSince, Machine.deeds, events_reported] at htraced
    rw [evaluate_apply, evaluate_apply]
    have hloud : (marked machine).threshold ≤ Log.Severity.debug.number := hloud
    exact sameButLogged_reported
      ((runner.session locals machine).sameButLogged_run library _ hloud threshold records htraced)

end Runner

/-- Provided that every send could be traced where all traces are kept, and that nothing of the
interpreter itself was reached for, it makes no difference which log records are kept: a session
comes to the same at every threshold, be it run directly, by a sandbox or by a runner. -/
theorem logging_transparent (library : Library) (machine : Machine)
    (hloud : machine.threshold ≤ Log.Severity.debug.number) (threshold : Nat)
    (records : List Log.Record) :
    (∀ (session : Session) (site : Site),
      (∀ event ∈ machine.deedsSince (session.run library site machine).2,
        event.showsLog = false) →
        Run.SameButLogged (session.run library site machine)
          (session.run library site (machine.relogged threshold records))) ∧
    (∀ (sandbox : Sandbox) (given : Given),
      (∀ event ∈ machine.deedsSince (sandbox.run library given machine).2,
        event.showsLog = false) →
        Run.SameButLogged (sandbox.run library given machine)
          (sandbox.run library given (machine.relogged threshold records))) ∧
    (∀ (runner : Runner) (locals : Option Nat) (script : Script),
      (∀ event ∈ machine.deedsSince (runner.handle library locals script machine).2,
        event.showsLog = false) →
        Run.SameButLogged (runner.handle library locals script machine)
          (runner.handle library locals script (machine.relogged threshold records))) := by
  refine ⟨?_, ?_, ?_⟩
  · intro session site htraced
    exact session.sameButLogged_run library site hloud threshold records htraced
  · intro sandbox given htraced
    exact Session.sameButLogged_run library _ sandbox.site hloud threshold records htraced
  · intro runner locals script htraced
    exact runner.sameButLogged_handle library locals script hloud threshold records htraced

/-- A script that hands a block to the host's `proc` and asks the block whether it is nil. -/
def nilBlock (parameter : Tree) : Site :=
  ⟨.node "send"
    [.node "block"
      [.node "send" [.leaf .null, .leaf (.text "proc")], .node "args" [parameter], .leaf .null],
      .leaf (.text "nil?")], .common⟩

/-- The kind of failure that a run ends with. -/
def Outcome.failureKind? {α : Type} : Outcome α → Option Kind
  | .failed failure => some failure.cause.kind
  | _ => none

/-- A block with one parameter is asked whether it is nil, with all traces kept and with none. -/
theorem named_parameter_traced :
    let start : Machine :=
      { memory := { heap := #[Host.kernelCell] }, threshold := Log.Severity.debug.number }
    let session : Session := { context := .cell 0 }
    let site := nilBlock (.node "arg" [.leaf (.text "x")])
    let loud := session.run Host.kernelLibrary site start
    start.threshold ≤ Log.Severity.debug.number ∧
      (∀ event ∈ start.deedsSince loud.2, event.showsLog = false) ∧ loud.2.records.length = 4 ∧
      Run.SameButLogged loud (session.run Host.kernelLibrary site (start.relogged 100 [])) := by
  intro start session site loud
  have htraced : ∀ event ∈ start.deedsSince loud.2, event.showsLog = false := by
    have hall : (start.deedsSince loud.2).all (fun event ↦ !event.showsLog) = true := by
      decide +kernel
    intro event hevent
    simpa using List.all_eq_true.mp hall event hevent
  exact ⟨Nat.le_refl _, htraced, by decide +kernel,
    (logging_transparent Host.kernelLibrary start (Nat.le_refl _) 100 []).1 session site htraced⟩

/-- Where the parameter is a number, the block does not print: with all traces kept the session
fails, and with none it does not. -/
theorem malformed_parameter_breaks_trace :
    let start : Machine := { memory := { heap := #[Host.kernelCell] } }
    let session : Session := { context := .cell 0 }
    let site := nilBlock (.leaf (.int 5))
    let quiet := session.run Host.kernelLibrary site start
    let loud := session.run Host.kernelLibrary site
      (start.relogged Log.Severity.debug.number [])
    quiet.1.failureKind? = none ∧ loud.1.failureKind? = some .member ∧ loud.1 ≠ quiet.1 := by
  intro start session site quiet loud
  have hquiet : quiet.1.failureKind? = none := by decide +kernel
  have hloud : loud.1.failureKind? = some .member := by decide +kernel
  refine ⟨hquiet, hloud, fun hsame ↦ ?_⟩
  rw [hsame, hquiet] at hloud
  cases hloud

end Treewalk
