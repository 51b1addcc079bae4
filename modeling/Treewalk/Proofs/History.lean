import Treewalk.Proofs.LexicalScope
import Treewalk.Proofs.Seclusion
import Treewalk.Runner

/-!
Sessions are independent of history. Whatever was done with an evaluator, by sessions, runners,
calls of blocks and the host itself (`Past`), a further session that reaches no block from before
comes to the same as with an evaluator that was just made, and leaves all frames from before as they
are (`sessions_independent_of_history`). The same holds of a sandbox and of a runner. A script that
reaches for the evaluator itself can add a handler, which then is there for further sessions
(`added_handler_outlives_session`).

What a session reaches is given as some cells and closures that lead nowhere else
(`Session.Detached`); together with whatever is new they are a realm, and the session is secluded in
it. A caller's own dictionary is a cell, and one that no script is handed lies outside of the realm.
Over any number of scripts it is as though only its owner had written in it (`Runner.Beside.serve`).
-/

set_option autoImplicit false
set_option relaxedAutoImplicit false

namespace Treewalk

/-! ### Runners -/

namespace Runner

variable {realm : Realm} {library : Library} {machine other : Machine}

/-- The machine on which a runner evaluates a tree: a mark was given out for it. -/
def marked (machine : Machine) : Machine := { machine with memory := machine.memory.mint.2 }

/-- The session of a script, as a runner opens it on a machine. -/
def session (runner : Runner) (locals : Option Nat) (machine : Machine) : Session :=
  (runner.given locals).session machine.memory

theorem evaluate_apply (library : Library) (runner : Runner) (locals : Option Nat) (tree : Tree)
    (machine : Machine) : runner.evaluate library locals tree machine =
      reported ((runner.session locals machine).run library ⟨tree, machine.memory.mint.1⟩
        (marked machine)) := rfl

@[simp] theorem memory_reported (ended : Outcome Value × Machine) :
    (reported ended).2.memory = ended.2.memory := by
  obtain ⟨_ | _ | _ | _, after⟩ := ended <;> simp [reported]

@[simp] theorem evaluator_reported (ended : Outcome Value × Machine) :
    (reported ended).2.evaluator = ended.2.evaluator := by
  obtain ⟨_ | _ | _ | _, after⟩ := ended <;> simp [reported]

@[simp] theorem handlers_reported (ended : Outcome Value × Machine) :
    (reported ended).2.handlers = ended.2.handlers := by
  obtain ⟨_ | _ | _ | _, after⟩ := ended <;> simp [reported]

@[simp] theorem events_reported (ended : Outcome Value × Machine) :
    (reported ended).2.events = ended.2.events := by
  obtain ⟨_ | _ | _ | _, after⟩ := ended <;> simp [reported]

/-- Aborts are not reported. -/
@[simp] theorem reported_eq_aborted (ended : Outcome Value × Machine) (message : String) :
    (reported ended).1 = .aborted message ↔ ended.1 = .aborted message := by
  obtain ⟨_ | _ | _ | _, after⟩ := ended <;> simp [reported]

/-- A report on ends that are alike is alike. -/
theorem alike_reported {first second : Outcome Value × Machine}
    (halike : Run.Alike machine other first second) :
    Run.Alike machine other (reported first) (reported second) := by
  obtain ⟨outcome, ended⟩ := first
  obtain ⟨same, latter⟩ := second
  obtain rfl : same = outcome := halike.outcome
  cases same with
  | failed failure | exhausted =>
    exact
      { outcome := rfl
        memory := by simpa [reported] using halike.memory
        handlers := by simpa [reported] using halike.handlers
        deeds := by simpa [reported] using halike.deeds
        requests := by simpa [reported] using halike.requests
        records := halike.records.logged halike.threshold _ _ _
        threshold := by simpa [reported] using halike.threshold }
  | value | aborted => exact { halike with outcome := rfl }

theorem spares_reported {ended : Outcome Value × Machine} (hspares : realm.Spares machine ended.2) :
    realm.Spares machine (reported ended).2 := by
  obtain ⟨outcome, after⟩ := ended
  cases outcome with
  | failed | exhausted =>
    exact
      { closed :=
          { memory := (after.memory_logged _ _ _).symm ▸ hspares.closed.memory
            bound := (after.frames_logged _ _ _).symm ▸ hspares.closed.bound
            newFrames := (after.frames_logged _ _ _).symm ▸ hspares.closed.newFrames
            handlers := (after.handlers_logged _ _ _).symm ▸ hspares.closed.handlers }
        cells := (after.memory_logged _ _ _).symm ▸ hspares.cells
        frames := (after.frames_logged _ _ _).symm ▸ hspares.frames }
  | value | aborted => exact hspares

/-- A script of a runner is secluded when the session that evaluates it is. -/
theorem secluded_handle (runner : Runner) {locals : Option Nat} (hclosed : realm.ClosedOn machine)
    (hsession : (runner.session locals machine).Confined realm library)
    (hsame : realm.SameOn machine other) (hidle : machine.evaluator.running = false)
    (hother : other.evaluator.running = false) (script : Script) :
    Run.Alike machine other (runner.handle library locals script machine)
        (runner.handle library locals script other) ∧
      realm.Spares machine (runner.handle library locals script machine).2 := by
  unfold handle
  rcases runner.parse script with cause | tree
  · exact ⟨⟨rfl, hsame.memory, hsame.handlers, .refl _ _, .refl _ _, .refl _ _, hsame.threshold⟩,
      .refl hclosed⟩
  · have hmarked : realm.ClosedOn (marked machine) :=
      { hclosed with memory := (Realm.Keeps.mint hclosed.memory).within }
    have hsites : realm.SameOn (marked machine) (marked other) :=
      { hsame with memory := congrArg (·.mint.2) hsame.memory }
    have hgiven : runner.session locals other = runner.session locals machine :=
      congrArg (runner.given locals).session hsame.memory
    obtain ⟨halike, hspares⟩ := Session.secluded_run hmarked hsession hsites hidle hother
      ⟨tree, machine.memory.mint.1⟩
    dsimp only
    rw [evaluate_apply, evaluate_apply, hgiven, hsame.memory]
    refine ⟨alike_reported ?_, spares_reported ?_⟩
    · exact { halike with }
    · exact { hspares with }

/-- A runner leaves an evaluator behind that runs no session. -/
theorem running_handle (library : Library) (runner : Runner) (locals : Option Nat) (script : Script)
    (hidle : machine.evaluator.running = false) :
    (runner.handle library locals script machine).2.evaluator.running = false := by
  unfold handle
  rcases runner.parse script with cause | tree
  · exact hidle
  · dsimp only
    have hmarked : (marked machine).evaluator.running = false := hidle
    rw [evaluate_apply, evaluator_reported, Session.run_of_idle library _ _ hmarked,
      Session.evaluator_finish]
    rfl

/-! ### A runner in use -/

/-- What the owner of a runner does with it: a script is handled with locals of its own, or a global
is set. -/
inductive Turn where
  | script (locals : Option Nat) (script : Script)
  | setting (name : String) (value : Value)

/-- The machine after what the owner itself does in a turn. -/
def own (runner : Runner) (machine : Machine) : Turn → Machine
  | .script _ _ => machine
  | .setting name value => runner.setGlobal name value machine

/-- The machine after a turn. -/
def take (library : Library) (runner : Runner) (machine : Machine) : Turn → Machine
  | .script locals script => (runner.handle library locals script machine).2
  | .setting name value => runner.setGlobal name value machine

/-- The machine after some turns. -/
def serve (library : Library) (runner : Runner) (turns : List Turn) (machine : Machine) : Machine :=
  turns.foldl (runner.take library) machine

/-- A turn with all that it is given in a realm. -/
def Turn.Confined (realm : Realm) (machine : Machine) : Turn → Prop
  | .script locals _ => Within realm (machine.memory.entriesAt locals)
  | .setting _ value => Within realm value

/-- A runner with all that it is given in a realm. -/
structure Confined (realm : Realm) (library : Library) (runner : Runner) (machine : Machine) :
    Prop where
  context : Within realm runner.context
  globals : Within realm (machine.memory.entriesAt (some runner.globals))
  host : library.Confined realm
  policy : (runner.policy.getD Policy.permissive).Confined realm library

theorem Confined.session {runner : Runner} (hrunner : runner.Confined realm library machine)
    {locals : Option Nat} (hlocals : Within realm (machine.memory.entriesAt locals)) :
    (runner.session locals machine).Confined realm library :=
  ⟨hrunner.context, hlocals, hrunner.globals, hrunner.host, hrunner.policy⟩

/-! ### Setting a global -/

/-- Only the dictionary of the runner is written. -/
theorem heap_setGlobal (runner : Runner) (name : String) (value : Value) (machine : Machine)
    (address : Nat) : (runner.setGlobal name value machine).memory.heap[address]? =
      if address = runner.globals then machine.memory.heap[address]?.map (settled name value)
      else machine.memory.heap[address]? := by
  unfold setGlobal
  split
  next cell hcell =>
    obtain ⟨hbound, -⟩ := Array.getElem?_eq_some_iff.mp hcell
    by_cases haddress : address = runner.globals
    · subst haddress
      rw [if_pos rfl, hcell]
      exact Array.getElem?_setIfInBounds_self_of_lt hbound
    · rw [if_neg haddress]
      exact Array.getElem?_setIfInBounds_ne (Ne.symm haddress)
  next hnone =>
    by_cases haddress : address = runner.globals
    · subst haddress
      simp [hnone]
    · simp [haddress]

/-- Nothing but a cell of the heap changes. -/
theorem setGlobal_eq (runner : Runner) (name : String) (value : Value) (machine : Machine) :
    ∃ heap, runner.setGlobal name value machine =
      { machine with memory := { machine.memory with heap := heap } } ∧
        heap.size = machine.memory.heap.size := by
  unfold setGlobal
  split
  · exact ⟨_, rfl, Array.size_setIfInBounds⟩
  · exact ⟨_, rfl, rfl⟩

end Runner

namespace Runner

variable {realm : Realm} {library : Library} {machine : Machine} {runner : Runner}

/-! ### Dictionaries and realms -/

/-- What is in a dictionary stays in a realm when scripts spare what is outside of it. -/
theorem within_entriesAt_of_spares {after : Machine} (hspares : realm.Spares machine after)
    {dictionary : Option Nat} (hentries : Within realm (machine.memory.entriesAt dictionary)) :
    Within realm (after.memory.entriesAt dictionary) := by
  cases dictionary with
  | none => exact within_nil
  | some address =>
    by_cases hcell : realm.cell address
    · have hwithin := hspares.closed.memory.cells address hcell
      unfold Memory.entriesAt
      split
      next entries removals hfound => exact hwithin _ hfound
      next => exact within_nil
    · unfold Memory.entriesAt at hentries ⊢
      simpa only [Option.bind_some, hspares.cells address hcell] using hentries

/-- A cell in which a global is set leads nowhere else if it did not before. -/
theorem within_settled (name : String) {value : Value} (hvalue : Within realm value)
    {found : Option Cell} (hfound : Within realm found) :
    Within realm (found.map (settled name value)) := by
  intro cell hcell
  obtain ⟨old, rfl, rfl⟩ := Option.map_eq_some_iff.mp hcell
  have hold := hfound old rfl
  cases old with
  | table entries removals =>
    exact within_insert hold _ (show Within realm (Value.ofText name) from trivial) hvalue
  | _ => exact hold

/-- And it stays there when a global is set to something in the realm. -/
theorem within_entriesAt_setGlobal (name : String) {value : Value} (hvalue : Within realm value)
    {dictionary : Option Nat} (hentries : Within realm (machine.memory.entriesAt dictionary)) :
    Within realm ((runner.setGlobal name value machine).memory.entriesAt dictionary) := by
  cases dictionary with
  | none => exact within_nil
  | some address =>
    unfold Memory.entriesAt at hentries ⊢
    simp only [Option.bind_some, heap_setGlobal] at hentries ⊢
    by_cases haddress : address = runner.globals
    · rw [if_pos haddress]
      generalize machine.memory.heap[address]? = found at hentries ⊢
      rcases found with _ | cell
      · exact within_nil
      · cases cell with
        | table entries removals =>
          exact within_insert hentries _ (show Within realm (Value.ofText name) from trivial) hvalue
        | _ => exact within_nil
    · rw [if_neg haddress]
      exact hentries

theorem closedOn_setGlobal (hclosed : realm.ClosedOn machine) (name : String) {value : Value}
    (hvalue : Within realm value) : realm.ClosedOn (runner.setGlobal name value machine) := by
  have hcells (address : Nat) (hcell : realm.cell address) :
      Within realm (runner.setGlobal name value machine).memory.heap[address]? := by
    rw [heap_setGlobal]
    split
    · exact within_settled name hvalue (hclosed.memory.cells address hcell)
    · exact hclosed.memory.cells address hcell
  obtain ⟨heap, hchanged, hsize⟩ := runner.setGlobal_eq name value machine
  rw [hchanged] at hcells ⊢
  exact
    { hclosed with
      memory :=
        { cells := hcells
          closures := hclosed.memory.closures
          newCells := fun address hnew ↦ hclosed.memory.newCells address (hsize ▸ hnew)
          newClosures := hclosed.memory.newClosures } }

/-! ### Turn by turn -/

/-- A runner in use: nothing leads out of a realm, neither does what the runner is given, and its
evaluator runs no session. -/
structure Served (realm : Realm) (library : Library) (runner : Runner) (machine : Machine) :
    Prop where
  closed : realm.ClosedOn machine
  confined : runner.Confined realm library machine
  idle : machine.evaluator.running = false

/-- Two machines are the same outside of a realm, as far as cells and frames go. -/
structure Beside (realm : Realm) (machine other : Machine) : Prop where
  cells : ∀ address, ¬ realm.cell address →
    machine.memory.heap[address]? = other.memory.heap[address]?
  frames : ∀ number, ¬ realm.frame number →
    machine.frames.frame number = other.frames.frame number

theorem spares_script (hserved : Served realm library runner machine) {locals : Option Nat}
    (hlocals : Within realm (machine.memory.entriesAt locals)) (script : Script) :
    realm.Spares machine (runner.handle library locals script machine).2 :=
  (runner.secluded_handle hserved.closed (hserved.confined.session hlocals)
    ⟨rfl, rfl, fun _ _ ↦ rfl, rfl, rfl⟩ hserved.idle hserved.idle script).2

/-- What is in a dictionary stays in the realm from turn to turn. -/
theorem within_entriesAt_take (hserved : Served realm library runner machine) {turn : Turn}
    (hturn : turn.Confined realm machine) {dictionary : Option Nat}
    (hentries : Within realm (machine.memory.entriesAt dictionary)) :
    Within realm ((runner.take library machine turn).memory.entriesAt dictionary) := by
  cases turn with
  | script locals script =>
    exact within_entriesAt_of_spares (spares_script hserved hturn script) hentries
  | setting name value => exact within_entriesAt_setGlobal name hturn hentries

theorem Turn.Confined.take {turn other : Turn} (hserved : Served realm library runner machine)
    (hturn : turn.Confined realm machine) (hother : other.Confined realm machine) :
    other.Confined realm (runner.take library machine turn) := by
  cases other with
  | script locals script => exact within_entriesAt_take hserved hturn hother
  | setting name value => exact hother

/-- After a turn the runner is as before. -/
theorem Served.take {turn : Turn} (hserved : Served realm library runner machine)
    (hturn : turn.Confined realm machine) :
    Served realm library runner (runner.take library machine turn) where
  closed := by
    cases turn with
    | script locals script => exact (spares_script hserved hturn script).closed
    | setting name value => exact closedOn_setGlobal hserved.closed name hturn
  confined :=
    { hserved.confined with
      globals := within_entriesAt_take hserved hturn hserved.confined.globals }
  idle := by
    cases turn with
    | script locals script => exact runner.running_handle library locals script hserved.idle
    | setting name value =>
      obtain ⟨heap, hchanged, -⟩ := runner.setGlobal_eq name value machine
      exact (congrArg (·.evaluator.running) hchanged).trans hserved.idle

/-- Outside of the realm a turn does what the owner itself does in it. -/
theorem Beside.take {turn : Turn} {alone : Machine} (hbeside : Beside realm machine alone)
    (hserved : Served realm library runner machine) (hturn : turn.Confined realm machine) :
    Beside realm (runner.take library machine turn) (runner.own alone turn) := by
  cases turn with
  | script locals script =>
    have hspares := spares_script hserved hturn script
    exact
      { cells := fun address haddress ↦
          (hspares.cells address haddress).trans (hbeside.cells address haddress)
        frames := fun number hnumber ↦
          (hspares.frames number hnumber).trans (hbeside.frames number hnumber) }
  | setting name value =>
    refine ⟨fun address haddress ↦ ?_, fun number hnumber ↦ ?_⟩
    · simp only [Runner.take, own, heap_setGlobal, hbeside.cells address haddress]
    · obtain ⟨heap, hserving, -⟩ := runner.setGlobal_eq name value machine
      obtain ⟨others, howning, -⟩ := runner.setGlobal_eq name value alone
      exact (congrArg (·.frames.frame number) hserving).trans
        ((hbeside.frames number hnumber).trans (congrArg (·.frames.frame number) howning).symm)

/-- And so do any number of turns. -/
theorem Beside.serve {turns : List Turn} {alone : Machine} (hbeside : Beside realm machine alone)
    (hserved : Served realm library runner machine)
    (hturns : ∀ turn ∈ turns, turn.Confined realm machine) :
    Beside realm (runner.serve library turns machine) (turns.foldl runner.own alone) := by
  induction turns generalizing machine alone with
  | nil => exact hbeside
  | cons turn rest ih =>
    have hturn := hturns turn List.mem_cons_self
    exact ih (hbeside.take hserved hturn) (hserved.take hturn) fun other hother ↦
      hturn.take hserved (hturns other (List.mem_cons_of_mem turn hother))

end Runner

/-! ### What went before -/

/-- Machines that come out of a machine by sessions, by scripts that runners handle, by calls of
values, and by what the host does on its own. -/
inductive Past (library : Library) (start : Machine) : Machine → Prop
  | start : Past library start start
  | ran (session : Session) (site : Site) {machine : Machine} :
      Past library start machine → Past library start (session.run library site machine).2
  | handled (runner : Runner) (locals : Option Nat) (script : Script) {machine : Machine} :
      Past library start machine →
        Past library start (runner.handle library locals script machine).2
  | called (depth : Nat) (callee : Value) (arguments : List Value) (block : Option Value)
      {machine : Machine} :
      Past library start machine →
        Past library start ((Eval.engine library depth).call callee arguments block machine).2
  | performed (depth : Nat) {α : Type} (action : Action α) {machine : Machine} :
      Past library start machine →
        Past library start (Run.perform (Eval.engine library depth) action machine).2

/-- Handling a script brings up no chain but those of its session. -/
theorem Runner.inherits_handle (library : Library) (runner : Runner) (locals : Option Nat)
    (script : Script) (machine : Machine) :
    machine.Inherits (runner.handle library locals script machine).2 := by
  have hmarked : machine.Inherits (marked machine) :=
    .of_parts (Nat.le_refl _) (fun _ ↦ Or.inr rfl) rfl rfl
  have hreported (ended : Outcome Value × Machine) : ended.2.Inherits (reported ended).2 := by
    obtain ⟨outcome, after⟩ := ended
    cases outcome with
    | value | aborted => exact .refl after
    | failed | exhausted =>
      exact .of_parts (by simp [reported]) (fun _ ↦ Or.inr (by simp [reported]))
        (by simp [reported]) (by simp [reported])
  unfold handle
  rcases runner.parse script with cause | tree
  · exact .refl machine
  · dsimp only
    rw [evaluate_apply]
    exact hmarked.trans ((Session.inherits_run library _ _ _).trans (hreported _))

/-- Handling a script only adds to the journal, and adds no handler unless the interpreter is reached
for. -/
theorem Runner.precedes_handle (library : Library) (runner : Runner) (locals : Option Nat)
    (script : Script) (machine : Machine) :
    machine.Precedes (runner.handle library locals script machine).2 := by
  unfold handle
  rcases runner.parse script with cause | tree
  · exact .refl machine
  · dsimp only
    rw [evaluate_apply]
    have hmarked : machine.Precedes (marked machine) := .of_eq rfl rfl
    exact hmarked.trans ((Session.precedes_run library _ _ _).trans
      (.of_eq (events_reported _) (handlers_reported _)))

namespace Past

variable {library : Library} {start machine : Machine}

/-- Whatever went before, the handlers are still those of the start, unless the interpreter was reached
for. -/
theorem precedes (hpast : Past library start machine) : start.Precedes machine := by
  induction hpast with
  | start => exact .refl start
  | ran session site _ ih => exact ih.trans (session.precedes_run library site _)
  | handled runner locals script _ ih =>
    exact ih.trans (runner.precedes_handle library locals script _)
  | called depth callee arguments block _ ih =>
    exact ih.trans (Evolves.continues
      ((Eval.evolving_engine library depth).call callee arguments block _)).precedes
  | performed depth action _ ih =>
    exact ih.trans (Evolves.continues
      (Run.evolving_perform (Eval.evolving_engine library depth) action _)).precedes

/-- An evaluator that nobody ever reached for has no handlers but its own. -/
theorem handlers (hpast : Past library start machine) (hfresh : start.Fresh)
    (hunreached : machine.reaches = []) : machine.handlers = [] := by
  have hstart : start.reaches = [] := by rw [Machine.reaches, hfresh.events, List.filter_nil]
  exact (hpast.precedes.handlers (hunreached.trans hstart.symm)).trans hfresh.handlers

theorem inherits (hpast : Past library start machine) : start.Inherits machine := by
  induction hpast with
  | start => exact .refl start
  | ran session site _ ih => exact ih.trans (session.inherits_run library site _)
  | handled runner locals script _ ih =>
    exact ih.trans (runner.inherits_handle library locals script _)
  | called depth callee arguments block _ ih =>
    exact ih.trans
      (Evolves.inherits ((Eval.evolving_engine library depth).call callee arguments block _))
  | performed depth action _ ih =>
    exact ih.trans
      (Evolves.inherits (Run.evolving_perform (Eval.evolving_engine library depth) action _))

/-- Between sessions none is running. -/
theorem running (hpast : Past library start machine)
    (hstart : start.evaluator.running = false) : machine.evaluator.running = false := by
  induction hpast with
  | start => exact hstart
  | ran session site _ ih =>
    rw [session.run_of_idle library site ih, Session.evaluator_finish]
    rfl
  | handled runner locals script _ ih => exact runner.running_handle library locals script ih
  | called depth callee arguments block _ ih =>
    exact (Evolves.continues
      ((Eval.evolving_engine library depth).call callee arguments block _)).running.trans ih
  | performed depth action _ ih =>
    exact (Evolves.continues
      (Run.evolving_perform (Eval.evolving_engine library depth) action _)).running.trans ih

/-- The frames that a block captured are among those that there are. -/
theorem captured_lt (hpast : Past library start machine) (hfresh : start.Fresh) {index : Nat}
    {parameters body : Site} {chain : Chain}
    (hclosure : machine.memory.closure? index = some (.block parameters body chain)) {number : Nat}
    (hnumber : number ∈ chain) : number < machine.frames.size := by
  obtain ⟨scope, hscope⟩ := hpast.inherits.lexical_of_fresh hfresh
  exact (hscope .locals chain (.captured hclosure)).lt_bound hnumber

end Past

/-! ### Sessions that reach no block -/

/-- The realm of some cells and closures of a machine together with whatever is not there yet. It
has none of the frames that are there. -/
def Machine.extent (cells closures : Nat → Prop) (machine : Machine) : Realm where
  cell address := cells address ∨ machine.memory.heap.size ≤ address
  closure index := closures index ∨ machine.memory.closures.size ≤ index
  frame number := machine.frames.size ≤ number

/-- A session that reaches no more than some cells and closures of a machine, and no block: the
cells lead nowhere else, and neither does what the session is given. -/
structure Session.Detached (library : Library) (session : Session) (machine : Machine)
    (cells closures : Nat → Prop) : Prop where
  blockless : ∀ index parameters body chain, closures index →
    machine.memory.closure? index ≠ some (.block parameters body chain)
  closed : ∀ address, cells address →
    Within (machine.extent cells closures) machine.memory.heap[address]?
  confined : session.Confined (machine.extent cells closures) library

theorem Session.Detached.closedOn {library : Library} {session : Session} {machine : Machine}
    {cells closures : Nat → Prop} (hdetached : session.Detached library machine cells closures)
    (hhandlers : Within (machine.extent cells closures) machine.handlers) :
    (machine.extent cells closures).ClosedOn machine where
  memory :=
    { cells := fun address haddress ↦ by
        rcases haddress with hcell | hnew
        · exact hdetached.closed address hcell
        · rw [Array.getElem?_eq_none hnew]
          exact within_none
      closures := fun index hindex closure hclosure ↦ by
        rcases hindex with hold | hnew
        · cases closure with
          | block parameters body chain =>
            exact absurd hclosure (hdetached.blockless index parameters body chain hold)
          | symbolProc name node => exact trivial
        · have hnone : machine.memory.closure? index = none := Array.getElem?_eq_none hnew
          rw [hnone] at hclosure
          cases hclosure
      newCells := fun _ hnew ↦ Or.inr hnew
      newClosures := fun _ hnew ↦ Or.inr hnew }
  bound number hnumber := by
    unfold Frames.frame
    rw [Array.getD_eq_getD_getElem?, Array.getElem?_eq_none hnumber]
    exact within_nil
  newFrames _ hnumber := hnumber
  handlers := hhandlers

/-- A machine with a fresh evaluator and the memory of another one. The frames that there are may
hold anything. -/
structure Machine.Renewed (machine fresh : Machine) : Prop where
  evaluator : fresh.evaluator = {}
  handlers : fresh.handlers = []
  memory : fresh.memory = machine.memory
  size : fresh.frames.size = machine.frames.size
  threshold : fresh.threshold = machine.threshold

/-- A run to which it makes no difference what went before: it comes to the same with a fresh
evaluator, and the frames that there are stay as they are. -/
structure Run.Independent {α : Type} (run : Run α) (machine : Machine) : Prop where
  alike : ∀ fresh, machine.Renewed fresh → Run.Alike machine fresh (run machine) (run fresh)
  frames : ∀ number < machine.frames.size,
    (run machine).2.frames.frame number = machine.frames.frame number

section

variable {library : Library} {machine fresh : Machine} {cells closures : Nat → Prop}

/-- As far as a session reaches that reaches no block, a machine with a fresh evaluator is the same.
-/
theorem Machine.Renewed.sameOn (hrenewed : machine.Renewed fresh)
    (hhandlers : machine.handlers = []) :
    (machine.extent cells closures).SameOn machine fresh where
  memory := hrenewed.memory
  size := hrenewed.size
  frames number hnumber := by
    have hfresh : fresh.frames.size ≤ number := hrenewed.size.symm ▸ hnumber
    unfold Frames.frame
    rw [Array.getD_eq_getD_getElem?, Array.getD_eq_getD_getElem?, Array.getElem?_eq_none hfresh,
      Array.getElem?_eq_none hnumber]
  handlers := hrenewed.handlers.trans hhandlers.symm
  threshold := hrenewed.threshold

theorem Machine.Renewed.refl (machine : Machine) :
    machine.Renewed { machine with evaluator := {}, handlers := [] } :=
  ⟨rfl, rfl, rfl, rfl, rfl⟩

/-- What is secluded in the extent of a session is independent of what went before. -/
theorem Run.independent_of_secluded {α : Type} {run : Run α}
    (hsecluded : ∀ fresh, machine.Renewed fresh →
      Run.Alike machine fresh (run machine) (run fresh) ∧
        (machine.extent cells closures).Spares machine (run machine).2) :
    run.Independent machine where
  alike fresh hrenewed := (hsecluded fresh hrenewed).1
  frames number hnumber :=
    (hsecluded _ (.refl machine)).2.frames number (Nat.not_le_of_lt hnumber)

theorem Session.Detached.independent_run {session : Session}
    (hdetached : session.Detached library machine cells closures)
    (hhandlers : machine.handlers = []) (hidle : machine.evaluator.running = false)
    (site : Site) : (session.run library site).Independent machine :=
  Run.independent_of_secluded fun fresh hrenewed ↦
    Session.secluded_run (hdetached.closedOn (hhandlers ▸ within_nil)) hdetached.confined
      (hrenewed.sameOn hhandlers) hidle (by rw [hrenewed.evaluator]) site

/-- A session that is given by its caller is independent when it is as a session. -/
theorem Given.independent_run {given : Given} {site : Site}
    (hsession : ((given.session machine.memory).run library site).Independent machine) :
    (given.run library site).Independent machine where
  alike fresh hrenewed := by
    unfold Given.run
    rw [hrenewed.memory]
    exact hsession.alike fresh hrenewed
  frames := hsession.frames

theorem Session.Detached.independent_handle {runner : Runner} {locals : Option Nat}
    (hdetached : (runner.session locals machine).Detached library machine cells closures)
    (hhandlers : machine.handlers = []) (hidle : machine.evaluator.running = false)
    (script : Script) : (runner.handle library locals script).Independent machine :=
  Run.independent_of_secluded fun fresh hrenewed ↦
    runner.secluded_handle (hdetached.closedOn (hhandlers ▸ within_nil)) hdetached.confined
      (hrenewed.sameOn hhandlers) hidle (by rw [hrenewed.evaluator]) script

end

/-- As long as nothing of the interpreter itself is reached for, then and before, a session that reaches
no block of before comes to the same as with a fresh evaluator, be it run directly, by a sandbox or by
a runner, and leaves the frames of before as they are, those that blocks captured among them. A
caller's dictionaries that no script is handed stay as they are: a session changes no cell
outside of what it can reach, and over any number of scripts the cells outside of what these and the
runner can reach are as though only its owner had acted. -/
theorem sessions_independent_of_history (library : Library) {start machine : Machine}
    (hfresh : start.Fresh) (hpast : Past library start machine) (hunreached : machine.reaches = []) :
    (∀ index parameters body chain,
      machine.memory.closure? index = some (.block parameters body chain) →
        ∀ number ∈ chain, number < machine.frames.size) ∧
    (∀ cells closures session, Session.Detached library session machine cells closures →
      ∀ site, machine.Unreached (session.run library site machine).2 →
        (session.run library site).Independent machine) ∧
    (∀ cells closures sandbox given,
      Session.Detached library
        (Given.session { given with policy := given.policy.orElse fun _ ↦ sandbox.policy }
          machine.memory) machine cells closures →
      machine.Unreached (Sandbox.run library sandbox given machine).2 →
        (Sandbox.run library sandbox given).Independent machine) ∧
    (∀ cells closures runner locals,
      (Runner.session runner locals machine).Detached library machine cells closures →
      ∀ script, machine.Unreached (runner.handle library locals script machine).2 →
        (runner.handle library locals script).Independent machine) ∧
    (∀ realm given, Realm.ClosedOn realm machine →
      Session.Confined realm library (Given.session given machine.memory) →
      ∀ site, machine.Unreached (given.run library site machine).2 →
        realm.Spares machine (given.run library site machine).2) ∧
    (∀ realm runner turns, Realm.ClosedOn realm machine →
      Runner.Confined realm library runner machine →
      (∀ turn ∈ turns, Runner.Turn.Confined realm machine turn) →
      machine.Unreached (runner.serve library turns machine) →
        Runner.Beside realm (runner.serve library turns machine)
          (turns.foldl runner.own machine)) := by
  have hidle : machine.evaluator.running = false :=
    hpast.running (by rw [hfresh.evaluator]; rfl)
  have hhandlers := hpast.handlers hfresh hunreached
  refine ⟨?_, ?_, ?_, ?_, ?_, ?_⟩
  · intro index parameters body chain hclosure number hnumber
    exact hpast.captured_lt hfresh hclosure hnumber
  · intro cells closures session hdetached site _
    exact hdetached.independent_run hhandlers hidle site
  · intro cells closures sandbox given hdetached _
    exact Given.independent_run (hdetached.independent_run hhandlers hidle sandbox.site)
  · intro cells closures runner locals hdetached script _
    exact hdetached.independent_handle hhandlers hidle script
  · intro realm given hclosed hsession site _
    exact (Session.secluded_run hclosed hsession ⟨rfl, rfl, fun _ _ ↦ rfl, rfl, rfl⟩ hidle hidle
      site).2
  · intro realm runner turns hclosed hrunner hturns _
    exact Runner.Beside.serve ⟨fun _ _ ↦ rfl, fun _ _ ↦ rfl⟩ ⟨hclosed, hrunner, hidle⟩ hturns

/-- Whether a cell holds nothing. -/
def Cell.isBare : Cell → Bool
  | list items => items.isEmpty
  | table entries _ => entries.isEmpty
  | queue items _ => items.isEmpty
  | buffer _ => true
  | object _ _ fields => fields.isEmpty

/-- A cell that holds nothing leads nowhere. -/
theorem within_of_isBare (realm : Realm) {cell : Cell} (hbare : cell.isBare = true) :
    Within realm cell := by
  cases cell with
  | buffer data => exact trivial
  | _ => exact List.isEmpty_iff.mp hbare ▸ within_nil

/-- A session in a context that holds nothing reaches no block. -/
theorem Session.detached_of_isBare {machine : Machine} {address : Nat}
    (hbare : machine.memory.heap[address]?.all Cell.isBare = true) :
    Session.Detached Host.kernelLibrary { context := .cell address } machine
      (fun other ↦ other = address) (fun _ ↦ False) where
  blockless := nofun
  closed := by
    rintro _ rfl cell hcell
    rw [Option.mem_def.mp hcell] at hbare
    exact within_of_isBare _ hbare
  confined :=
    { context := Or.inl rfl
      locals := within_nil
      globals := within_nil
      host := Host.confined_kernelLibrary _
      policy := fun _ _ _ _ _ _ ↦ trivial }

/-- A session in the default context sets a global and gets a block back. What a further session in
the same context reads under the name of the global does not depend on it. -/
theorem global_invisible_to_next_session :
    let start : Machine := { memory := { heap := #[Host.kernelCell] } }
    let session : Session := { context := .cell 0 }
    let number : Tree := .node "array" [.node "int" [.leaf (.int 1)]]
    let write : Tree := .node "masgn" [.node "mlhs" [.node "gvasgn" [.leaf (.text "g")]], number]
    let read : Site := ⟨.node "gvar" [.leaf (.text "g")], .common⟩
    let machine :=
      (session.run Host.kernelLibrary ⟨.node "begin" [write, Tree.idleBlock], .common⟩ start).2
    start.Fresh ∧ Past Host.kernelLibrary start machine ∧ machine.reaches = [] ∧
      machine.memory.closures.size = 1 ∧
      session.Detached Host.kernelLibrary machine (fun address ↦ address = 0) (fun _ ↦ False) ∧
      machine.Unreached (session.run Host.kernelLibrary read machine).2 ∧
      (session.run Host.kernelLibrary read).Independent machine := by
  intro start session number write read machine
  have hfresh : start.Fresh := ⟨rfl, rfl, rfl, rfl⟩
  have hpast : Past Host.kernelLibrary start machine := .ran session _ .start
  have hreaches : machine.reaches = [] := List.isEmpty_iff.mp (by decide +kernel)
  have hdetached :
      session.Detached Host.kernelLibrary machine (fun address ↦ address = 0) fun _ ↦ False :=
    Session.detached_of_isBare (by decide +kernel)
  have hunreached : machine.Unreached (session.run Host.kernelLibrary read machine).2 :=
    (List.isEmpty_iff.mp (by decide +kernel)).trans hreaches.symm
  exact ⟨hfresh, hpast, hreaches, by decide +kernel, hdetached, hunreached,
    (sessions_independent_of_history _ hfresh hpast hreaches).2.1 _ _ session hdetached read
      hunreached⟩

/-- Whether an end is the failure of a node that has no meaning. -/
def Outcome.isUnsupported : Outcome Value → Bool
  | .failed ⟨.unsupportedConstruct _, _⟩ => true
  | _ => false

/-- A session reaches for the handlers of its evaluator and adds one for a tag. What a further session
makes of a node of that tag depends on it, although the session reaches no block. -/
theorem added_handler_outlives_session :
    let start : Machine := { memory := { heap := #[Host.kernelCell] } }
    let session : Session := { context := .cell 0 }
    let add := Tree.sent (Tree.sent Tree.blockEvaluator "_handlers" []) "[]="
      [.node "str" [.leaf (.text "zz")], Tree.idleBlock]
    let foreign : Site := ⟨.node "zz" [], .common⟩
    let machine := (session.run Host.kernelLibrary ⟨add, .common⟩ start).2
    start.Fresh ∧ Past Host.kernelLibrary start machine ∧
      session.Detached Host.kernelLibrary machine (fun address ↦ address = 0) (fun _ ↦ False) ∧
      ¬ (session.run Host.kernelLibrary foreign).Independent machine := by
  intro start session add foreign machine
  refine ⟨⟨rfl, rfl, rfl, rfl⟩, .ran session _ .start,
    Session.detached_of_isBare (by decide +kernel), fun hindependent ↦ ?_⟩
  have hsame := congrArg Outcome.isUnsupported
    (hindependent.alike _ (Machine.Renewed.refl machine)).outcome
  have hmeaning : (session.run Host.kernelLibrary foreign machine).1.isUnsupported = false := by
    decide +kernel
  have hnone : (session.run Host.kernelLibrary foreign
      { machine with evaluator := {}, handlers := [] }).1.isUnsupported = true := by
    decide +kernel
  exact Bool.noConfusion ((hnone.symm.trans hsame).trans hmeaning)

end Treewalk
