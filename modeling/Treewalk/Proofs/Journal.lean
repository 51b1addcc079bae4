import Treewalk.Proofs.Walk

/-!
The journal of a run. Every event was noted at some moment of the run, by a machine whose journal
was exactly what stands before the event, on an evaluator that has the globals, the policy, the
session flag and, as long as nothing of the interpreter itself was reached for, the context of the
machine that the run began with (`Evolves.moment`). What can be
said of a machine at every moment can therefore be said of every event. A session that is not
refused is the evaluation of its tree on a machine that holds one frame of each namespace
(`Session.run_of_idle`).
-/

set_option autoImplicit false
set_option relaxedAutoImplicit false

namespace Treewalk

/-! ### Moments of a run -/

/-- A machine as it may stand at some moment of a run that began with another one. -/
structure Machine.During (before moment : Machine) : Prop where
  globals : moment.evaluator.globals = before.evaluator.globals
  locals : before.evaluator.locals ≠ [] → moment.evaluator.locals ≠ []
  events : before.events <:+ moment.events
  context : before.Unreached moment → moment.evaluator.context = before.evaluator.context
  policy : moment.evaluator.policy = before.evaluator.policy
  running : moment.evaluator.running = before.evaluator.running

namespace Machine.During

theorem trans {first middle last : Machine} (hfirst : first.During middle)
    (hlast : middle.During last) : first.During last where
  globals := hlast.globals.trans hfirst.globals
  locals := fun hlocals ↦ hlast.locals (hfirst.locals hlocals)
  events := hfirst.events.trans hlast.events
  context hunreached :=
    have hparts := hunreached.split hfirst.events hlast.events
    (hlast.context hparts.2).trans (hfirst.context hparts.1)
  policy := hlast.policy.trans hfirst.policy
  running := hlast.running.trans hfirst.running

theorem of_continues {before after : Machine} (hcontinues : before.Continues after) :
    before.During after where
  globals := hcontinues.chains .globals
  locals := fun hlocals ↦ by
    have hchain : after.evaluator.locals = before.evaluator.locals := hcontinues.chains .locals
    rw [hchain]
    exact hlocals
  events := hcontinues.events
  context := hcontinues.context
  policy := hcontinues.policy
  running := hcontinues.running

theorem refl (machine : Machine) : machine.During machine :=
  of_continues (.refl machine)

/-- Inside a local frame there is at least that frame. -/
theorem enter (machine : Machine) (bindings : Table) (base : Option Chain) :
    machine.During (machine.enter .locals bindings base).2 := by
  have hevaluator := machine.evaluator_enter .locals bindings base
  refine ⟨?_, fun _ ↦ ?_, ?_, fun _ ↦ ?_, ?_, ?_⟩
  · rw [hevaluator]
    rfl
  · rw [hevaluator]
    exact List.cons_ne_nil _ _
  · rw [events_enter]
    exact List.suffix_cons _ _
  · rw [hevaluator]
    rfl
  · rw [hevaluator]
    rfl
  · rw [hevaluator]
    rfl

end Machine.During

/-- What an event says about the moment at which it is noted. -/
def Event.Fits (library : Library) (moment : Machine) : Event → Prop
  | .visit _ evaluator => evaluator = moment.evaluator
  | .query receiver member node published granted =>
    ∃ engine answer asked,
      asked.evaluator.policy = moment.evaluator.policy ∧
      Run.perform engine (asked.evaluator.policy.authorize library receiver member node) asked =
        (.value answer, moment) ∧
      published = Eval.isPublished library asked.memory receiver member ∧
      granted = moment.memory.isGranted answer
  | .invocation receiver member _ _ =>
    ∃ node published, moment.events.head? = some (.query receiver member node published true)
  | .lookup owner name =>
    ∃ node published, moment.events.head? = some (.query owner name node published true)
  | .enter space outside inside =>
    outside = moment.evaluator.chain space ∧ ∃ base, inside = moment.innerChain space base
  | .write space name _ =>
    (moment.frames.target? name.key (moment.evaluator.chain space)).isSome
  | .frameless space name =>
    moment.frames.target? name.key (moment.evaluator.chain space) = none
  | .untraced _ _ => True
  | .reach _ _ => True
  | .abort _ => True

/-! ### Cutting a journal at an event -/

section

variable {event noted : Event} {later earlier before after : List Event}

/-- What was added to a journal is not in what stands before it. -/
theorem not_suffix_of_cut (hcut : before = later ++ event :: earlier) : ¬ before <:+ earlier := by
  intro hsuffix
  have hlength := hsuffix.length_le
  rw [hcut, List.length_append, List.length_cons] at hlength
  omega

/-- If one event was added, it is the one that the journal is cut at. -/
theorem cut_cons (hcut : noted :: before = later ++ event :: earlier)
    (hsuffix : before <:+ earlier) : event = noted ∧ earlier = before := by
  cases later with
  | nil =>
    obtain ⟨rfl, rfl⟩ := List.cons.inj hcut
    exact ⟨rfl, rfl⟩
  | cons latest rest =>
    obtain ⟨-, hrest⟩ := List.cons.inj hcut
    exact absurd hsuffix (not_suffix_of_cut hrest)

/-- A journal that goes on from another one is cut inside of the other one or behind it. -/
theorem cut_cases (hcut : after = later ++ event :: earlier) (hsuffix : before <:+ after) :
    before <:+ earlier ∨ ∃ rest, before = rest ++ event :: earlier := by
  have hevent : event :: earlier <:+ after := ⟨later, hcut.symm⟩
  rcases List.suffix_or_suffix_of_suffix hsuffix hevent with hbefore | hinside
  · rcases List.suffix_cons_iff.mp hbefore with heq | hearlier
    · exact Or.inr ⟨[], heq⟩
    · exact Or.inl hearlier
  · obtain ⟨rest, hrest⟩ := hinside
    exact Or.inr ⟨rest, hrest.symm⟩

end

/-- Every event that a run adds to the journal was noted at a moment of the run, on top of exactly
what stands before it. -/
theorem Evolves.moment {library : Library} {before after : Machine} {outcome : Outcome Unit}
    (hevolves : Evolves library before outcome after) {later earlier : List Event} {event : Event}
    (hcut : after.events = later ++ event :: earlier) (hnew : before.events <:+ earlier) :
    ∃ moment, before.During moment ∧ moment.events = earlier ∧ event.Fits library moment := by
  induction hevolves generalizing later earlier event with
  | value machine => exact absurd hnew (not_suffix_of_cut hcut)
  | failed failure machine => exact absurd hnew (not_suffix_of_cut hcut)
  | exhausted machine => exact absurd hnew (not_suffix_of_cut hcut)
  | aborted message machine =>
    obtain ⟨rfl, rfl⟩ := cut_cons hcut hnew
    exact ⟨machine, .refl machine, rfl, trivial⟩
  | next hfirst hlast ihfirst ihlast | recovered hfirst hlast ihfirst ihlast =>
    rcases cut_cases hcut hlast.continues.events with hlater | ⟨rest, hrest⟩
    · obtain ⟨moment, hduring, hevents, hfits⟩ := ihlast hcut hlater
      exact ⟨moment, (Machine.During.of_continues hfirst.continues).trans hduring, hevents, hfits⟩
    · exact ihfirst hrest hnew
  | updated heap marks machine => exact absurd hnew (not_suffix_of_cut hcut)
  | closed closure machine captured => exact absurd hnew (not_suffix_of_cut hcut)
  | visited tree machine =>
    obtain ⟨rfl, rfl⟩ := cut_cons hcut hnew
    exact ⟨machine, .refl machine, rfl, rfl⟩
  | moved tree machine => exact absurd hnew (not_suffix_of_cut hcut)
  | recorded requests records machine => exact absurd hnew (not_suffix_of_cut hcut)
  | @asked asked answered engine receiver member node answer hanswered hasking ih =>
    have hcontinues := hasking.continues
    rcases cut_cases hcut (List.suffix_cons _ _) with hlater | ⟨rest, hrest⟩
    · obtain ⟨rfl, rfl⟩ := cut_cons hcut hlater
      exact ⟨answered, .of_continues hcontinues, rfl, engine, answer, asked,
        hcontinues.policy.symm, hanswered, rfl, rfl⟩
    · exact ih hrest hnew
  | untraced receiver member machine =>
    obtain ⟨rfl, rfl⟩ := cut_cons hcut hnew
    exact ⟨machine, .refl machine, rfl, trivial⟩
  | reached receiver name effect machine =>
    rw [Machine.events_affected] at hcut
    obtain ⟨rfl, rfl⟩ := cut_cons hcut hnew
    exact ⟨machine, .refl machine, rfl, trivial⟩
  | invoked receiver member arguments block machine granted =>
    obtain ⟨rfl, rfl⟩ := cut_cons hcut hnew
    exact ⟨machine, .refl machine, rfl, granted⟩
  | lookedUp owner name machine granted =>
    obtain ⟨rfl, rfl⟩ := cut_cons hcut hnew
    exact ⟨machine, .refl machine, rfl, granted⟩
  | written space name value number machine target =>
    obtain ⟨rfl, rfl⟩ := cut_cons hcut hnew
    refine ⟨machine, .refl machine, rfl, ?_⟩
    simp only [Event.Fits, target, Option.isSome_some]
  | frameless space name failure machine target =>
    obtain ⟨rfl, rfl⟩ := cut_cons hcut hnew
    exact ⟨machine, .refl machine, rfl, target⟩
  | @framed bindings base machine left _ captured inside ih =>
    rw [Machine.events_leave] at hcut
    have hentered := machine.events_enter .locals bindings base
    rcases cut_cases hcut inside.continues.events with hlater | ⟨rest, hrest⟩
    · obtain ⟨moment, hduring, hevents, hfits⟩ := ih hcut hlater
      exact ⟨moment, (Machine.During.enter machine bindings base).trans hduring, hevents, hfits⟩
    · rw [hentered] at hrest
      obtain ⟨rfl, rfl⟩ := cut_cons hrest hnew
      exact ⟨machine, .refl machine, rfl, rfl, base, rfl⟩

/-! ### Sessions -/

namespace Session

/-- The machine with the evaluator of a session, which has no frames yet. -/
def opened (session : Session) (machine : Machine) : Machine :=
  Machine.logged .debug .evaluator session.startText
    { machine with evaluator := session.start machine.evaluator }

/-- The machine on which a session evaluates its tree: the evaluator is the session's own, and it
holds one frame of each namespace. -/
def seat (session : Session) (machine : Machine) : Machine :=
  (((session.opened machine).enter .globals session.globals none).2.enter .locals session.locals
    none).2

@[simp] theorem evaluator_opened (session : Session) (machine : Machine) :
    (session.opened machine).evaluator = session.start machine.evaluator :=
  Machine.evaluator_logged _ _ _ _

@[simp] theorem handlers_opened (session : Session) (machine : Machine) :
    (session.opened machine).handlers = machine.handlers :=
  Machine.handlers_logged _ _ _ _

@[simp] theorem events_opened (session : Session) (machine : Machine) :
    (session.opened machine).events = machine.events :=
  Machine.events_logged _ _ _ _

@[simp] theorem memory_opened (session : Session) (machine : Machine) :
    (session.opened machine).memory = machine.memory :=
  Machine.memory_logged _ _ _ _

@[simp] theorem frames_opened (session : Session) (machine : Machine) :
    (session.opened machine).frames = machine.frames :=
  Machine.frames_logged _ _ _ _

/-- A session on an evaluator that runs no other one evaluates its tree on its seat, and leaves the
evaluator idle. -/
theorem run_of_idle (library : Library) (session : Session) (site : Site) {machine : Machine}
    (hidle : machine.evaluator.running = false) :
    session.run library site machine =
      (((Eval.engine library depth).evaluate site (session.seat machine)).1,
        finish ((Eval.engine library depth).evaluate site (session.seat machine)).2) := by
  unfold run
  rw [hidle]
  rfl

/-- A session either changes nothing, or evolves from its seat and is finished. -/
theorem run_cases (library : Library) (session : Session) (site : Site) (machine : Machine) :
    (session.run library site machine).2 = machine ∨
      ∃ outcome ended, Evolves library (session.seat machine) outcome ended ∧
        (session.run library site machine).2 = finish ended := by
  by_cases hrunning : machine.evaluator.running = true
  · refine Or.inl ?_
    rw [run, if_pos hrunning]
  · have hevolves := (Eval.evolving_engine library depth).evaluate site (session.seat machine)
    refine Or.inr ⟨_, _, hevolves, ?_⟩
    rw [run_of_idle library session site (Bool.eq_false_iff.mpr hrunning)]

@[simp] theorem evaluator_finish (machine : Machine) :
    (finish machine).evaluator = Evaluator.idle :=
  Machine.evaluator_logged _ _ _ _

@[simp] theorem handlers_finish (machine : Machine) :
    (finish machine).handlers = machine.handlers :=
  Machine.handlers_logged _ _ _ _

@[simp] theorem events_finish (machine : Machine) : (finish machine).events = machine.events :=
  Machine.events_logged _ _ _ _

@[simp] theorem memory_finish (machine : Machine) : (finish machine).memory = machine.memory :=
  Machine.memory_logged _ _ _ _

@[simp] theorem frames_finish (machine : Machine) : (finish machine).frames = machine.frames :=
  Machine.frames_logged _ _ _ _

/-- The seat of a session holds exactly one frame of each namespace. -/
theorem chains_seat (session : Session) (machine : Machine) :
    ∃ inner outer, (session.seat machine).evaluator.locals = [inner] ∧
      (session.seat machine).evaluator.globals = [outer] := by
  unfold seat
  simp only [Machine.evaluator_enter, Machine.innerChain, evaluator_opened]
  exact ⟨_, _, rfl, rfl⟩

/-- The seat of a session has the session's policy. -/
theorem policy_seat (session : Session) (machine : Machine) :
    (session.seat machine).evaluator.policy = session.policy.getD Policy.permissive := by
  unfold seat
  simp only [Machine.evaluator_enter, Evaluator.policy_withChain, evaluator_opened]
  rfl

/-- Taking its seat a session touches no memory. -/
theorem memory_seat (session : Session) (machine : Machine) :
    (session.seat machine).memory = machine.memory := by
  unfold seat
  rw [Machine.memory_enter, Machine.memory_enter, memory_opened]

/-- Up to its seat a session has entered its two frames and done nothing else. -/
theorem events_seat (session : Session) (machine : Machine) :
    ∃ inner outer, (session.seat machine).events =
      .enter .locals [] [inner] :: .enter .globals [] [outer] :: machine.events := by
  unfold seat
  simp only [Machine.events_enter, Machine.evaluator_enter, Machine.innerChain, evaluator_opened,
    events_opened]
  exact ⟨_, _, rfl⟩

/-- Up to its seat a session has reached for nothing. -/
theorem reaches_seat (session : Session) (machine : Machine) :
    (session.seat machine).reaches = machine.reaches := by
  obtain ⟨inner, outer, hevents⟩ := session.events_seat machine
  unfold Machine.reaches
  rw [hevents]
  rfl

/-- Neither its seat nor its end brings a handler. -/
theorem handlers_seat (session : Session) (machine : Machine) :
    (session.seat machine).handlers = machine.handlers := by
  unfold seat
  rw [Machine.handlers_enter, Machine.handlers_enter, handlers_opened]

theorem precedes_seat (session : Session) (machine : Machine) :
    machine.Precedes (session.seat machine) where
  events := by
    obtain ⟨inner, outer, hevents⟩ := session.events_seat machine
    rw [hevents]
    exact (List.suffix_cons _ _).trans (List.suffix_cons _ _)
  handlers _ := session.handlers_seat machine

/-- A session only adds to the journal, and it adds no handler unless the interpreter is reached for. -/
theorem precedes_run (library : Library) (session : Session) (site : Site) (machine : Machine) :
    machine.Precedes (session.run library site machine).2 := by
  rcases session.run_cases library site machine with hsame | ⟨outcome, ended, hevolves, hended⟩
  · rw [hsame]
    exact .refl machine
  · rw [hended]
    exact (session.precedes_seat machine).trans (hevolves.continues.precedes.trans
      (.of_eq (events_finish ended) (handlers_finish ended)))

end Session

end Treewalk
