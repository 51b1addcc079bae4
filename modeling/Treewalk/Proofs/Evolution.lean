import Treewalk.Proofs.Growth
import Treewalk.Proofs.Reaching

/-!
What running can do to a machine. `Evolves` lists it once: host code replaces the heap, a block is
closed over the local chain as it stands, the journal grows by one event at a time, a member is sent
or a constant looked up only on top of a granted query, a variable is written where the chain says,
and a frame is entered and left again around a run of its own. Every run of the evaluator is made of
these (`Eval.evolving_engine`), so that an invariant of evaluation is an induction over `Evolves`.

The first such induction is `Evolves.continues`: however a run ends, both chains, the policy and the
session flag are what they were, and the journal, the closures and the frames have only been added to;
and so are the context and the handlers, unless something of the interpreter itself was reached for
(`Machine.Unreached`).
-/

set_option autoImplicit false
set_option relaxedAutoImplicit false

namespace Treewalk

/-- How a run ends, without its result. -/
def Outcome.ending {α : Type} : Outcome α → Outcome Unit
  | .value _ => .value ()
  | .failed failure => .failed failure
  | .aborted message => .aborted message
  | .exhausted => .exhausted

/-! ### Chains of an evaluator -/

namespace Evaluator

@[simp] theorem chain_withChain_self (evaluator : Evaluator) (space : Space) (chain : Chain) :
    (evaluator.withChain space chain).chain space = chain := by
  cases space <;> rfl

theorem chain_withChain_of_ne (evaluator : Evaluator) {space other : Space} (chain : Chain)
    (hother : other ≠ space) :
    (evaluator.withChain space chain).chain other = evaluator.chain other := by
  match space, other with
  | .locals, .locals | .globals, .globals => exact absurd rfl hother
  | .locals, .globals | .globals, .locals => rfl

@[simp] theorem context_withChain (evaluator : Evaluator) (space : Space) (chain : Chain) :
    (evaluator.withChain space chain).context = evaluator.context := by
  cases space <;> rfl

@[simp] theorem policy_withChain (evaluator : Evaluator) (space : Space) (chain : Chain) :
    (evaluator.withChain space chain).policy = evaluator.policy := by
  cases space <;> rfl

@[simp] theorem running_withChain (evaluator : Evaluator) (space : Space) (chain : Chain) :
    (evaluator.withChain space chain).running = evaluator.running := by
  cases space <;> rfl

end Evaluator

namespace Machine

/-! ### Log records -/

section

variable (machine : Machine) (severity : Log.Severity) (source : Log.Source) (message : String)

@[simp] theorem evaluator_logged :
    (machine.logged severity source message).evaluator = machine.evaluator := by
  unfold logged
  split <;> rfl

@[simp] theorem handlers_logged :
    (machine.logged severity source message).handlers = machine.handlers := by
  unfold logged
  split <;> rfl

@[simp] theorem events_logged :
    (machine.logged severity source message).events = machine.events := by
  unfold logged
  split <;> rfl

@[simp] theorem memory_logged :
    (machine.logged severity source message).memory = machine.memory := by
  unfold logged
  split <;> rfl

@[simp] theorem frames_logged :
    (machine.logged severity source message).frames = machine.frames := by
  unfold logged
  split <;> rfl

end

/-! ### Entering and leaving a frame -/

/-- The chain inside a frame that is entered next: the new frame on top of the base, if one is
given, and else on top of the chain outside. -/
def innerChain (machine : Machine) (space : Space) (base : Option Chain) : Chain :=
  machine.frames.size :: base.getD (machine.evaluator.chain space)

variable (machine : Machine) (space : Space) (bindings : Table) (base : Option Chain)

theorem evaluator_enter : (machine.enter space bindings base).2.evaluator =
    machine.evaluator.withChain space (machine.innerChain space base) := by
  cases base <;> rfl

theorem events_enter : (machine.enter space bindings base).2.events =
    .enter space (machine.evaluator.chain space) (machine.innerChain space base) ::
      machine.events := by
  cases base <;> rfl

@[simp] theorem frames_enter :
    (machine.enter space bindings base).2.frames = machine.frames.push bindings := by
  cases base <;> rfl

@[simp] theorem memory_enter : (machine.enter space bindings base).2.memory = machine.memory := by
  cases base <;> rfl

@[simp] theorem handlers_enter :
    (machine.enter space bindings base).2.handlers = machine.handlers := by
  cases base <;> rfl

@[simp] theorem handlers_leave (entered : Entered) :
    (machine.leave space entered).handlers = machine.handlers := rfl

@[simp] theorem frames_leave (entered : Entered) :
    (machine.leave space entered).frames = machine.frames := rfl

@[simp] theorem memory_leave (entered : Entered) :
    (machine.leave space entered).memory = machine.memory := rfl

@[simp] theorem events_leave (entered : Entered) :
    (machine.leave space entered).events = machine.events := rfl

/-- Leaving a frame goes back to the chain outside, provided that the chain is the one inside. -/
theorem leave_enter_chain (chain : Chain) (hchain : chain = machine.innerChain space base) :
    Chain.leave (machine.enter space bindings base).1 chain = machine.evaluator.chain space := by
  subst hchain
  cases base with
  | none =>
    change (if machine.frames.size = machine.frames.size then machine.evaluator.chain space
      else _) = _
    rw [if_pos rfl]
  | some captured => rfl

end Machine

/-! ### Evolution -/

/-- What running can do to a machine, with the way it ends. -/
inductive Evolves (library : Library) : Machine → Outcome Unit → Machine → Prop where
  | value (machine : Machine) : Evolves library machine (.value ()) machine
  | failed (failure : Failure) (machine : Machine) :
      Evolves library machine (.failed failure) machine
  | exhausted (machine : Machine) : Evolves library machine .exhausted machine
  | aborted (message : String) (machine : Machine) :
      Evolves library machine (.aborted message) (machine.noted (.abort message))
  /-- Only a value is passed on. -/
  | next {first middle last : Machine} {outcome : Outcome Unit} :
      Evolves library first (.value ()) middle → Evolves library middle outcome last →
        Evolves library first outcome last
  /-- A failure may be rescued, or replaced by another one. -/
  | recovered {first middle last : Machine} {failure : Failure} {outcome : Outcome Unit} :
      Evolves library first (.failed failure) middle → Evolves library middle outcome last →
        Evolves library first outcome last
  /-- The heap and the number of marks may become anything; closures stay. -/
  | updated (heap : Array Cell) (marks : Nat) (machine : Machine) :
      Evolves library machine (.value ())
        { machine with memory := { machine.memory with heap := heap, marks := marks } }
  /-- A new block captures the local chain. -/
  | closed (closure : Closure) (machine : Machine)
      (captured : ∀ parameters body chain, closure = .block parameters body chain →
        chain = machine.evaluator.locals) :
      Evolves library machine (.value ())
        { machine with memory := (machine.memory.close closure).2 }
  | visited (tree : Tree) (machine : Machine) :
      Evolves library machine (.value ()) (machine.noted (.visit tree machine.evaluator))
  | moved (tree : Tree) (machine : Machine) :
      Evolves library machine (.value ())
        { machine with evaluator := { machine.evaluator with current := some tree } }
  /-- Requests and log records are nobody's concern here. -/
  | recorded (requests : List Request) (records : List Log.Record) (machine : Machine) :
      Evolves library machine (.value ())
        { machine with requests := requests, records := records }
  /-- A query is noted with the answer that the policy of the evaluator gives. -/
  | asked {before after : Machine} (engine : Engine) (receiver : Value) (member node : Tree)
      (answer : Value)
      (answered : Run.perform engine
        (before.evaluator.policy.authorize library receiver member node) before =
          (.value answer, after))
      (asking : Evolves library before (.value ()) after) :
      Evolves library before (.value ()) (after.noted (.query receiver member node
        (Eval.isPublished library before.memory receiver member) (after.memory.isGranted answer)))
  /-- A send is not traced, as its receiver or its member cannot be printed. -/
  | untraced (receiver : Value) (member : Tree) (machine : Machine) :
      Evolves library machine (.value ()) (machine.noted (.untraced receiver member))
  /-- Something of the interpreter itself is reached for. -/
  | reached (receiver : Value) (name : String) (effect : Effect) (machine : Machine) :
      Evolves library machine (.value ()) ((machine.noted (.reach receiver name)).affected effect)
  /-- A member is sent right after a granted query for it. -/
  | invoked (receiver : Value) (member : Tree) (arguments : List Value) (block : Option Value)
      (machine : Machine)
      (granted : ∃ node published,
        machine.events.head? = some (.query receiver member node published true)) :
      Evolves library machine (.value ())
        (machine.noted (.invocation receiver member arguments block))
  /-- A constant is looked up right after a granted query for it. -/
  | lookedUp (owner : Value) (name : Tree) (machine : Machine)
      (granted : ∃ node published,
        machine.events.head? = some (.query owner name node published true)) :
      Evolves library machine (.value ()) (machine.noted (.lookup owner name))
  | written (space : Space) (name : Name) (value : Value) (number : Nat) (machine : Machine)
      (target : machine.frames.target? name.key (machine.evaluator.chain space) = some number) :
      Evolves library machine (.value ())
        (Machine.noted (.write space name value)
          { machine with frames := machine.frames.bind number name value })
  | frameless (space : Space) (name : Name) (failure : Failure) (machine : Machine)
      (target : machine.frames.target? name.key (machine.evaluator.chain space) = none) :
      Evolves library machine (.failed failure) (machine.noted (.frameless space name))
  /-- A local frame is entered, over the chain outside or over one that a block captured, and left.
  -/
  | framed (bindings : Table) (base : Option Chain) {machine after : Machine}
      {outcome : Outcome Unit}
      (captured : ∀ chain, base = some chain → ∃ index parameters body,
        machine.memory.closure? index = some (.block parameters body chain))
      (inside : Evolves library (machine.enter .locals bindings base).2 outcome after) :
      Evolves library machine outcome (after.leave .locals (machine.enter .locals bindings base).1)

/-! ### What stays and what is only added to -/

/-- A machine on which only what may change has changed: the chains, the policy and the session flag
are the same, and the journal, the closures and the store of frames go on from what they were. The
context and the handlers change only where something of the interpreter itself is reached for. -/
structure Machine.Continues (before after : Machine) : Prop where
  chains : ∀ space, after.evaluator.chain space = before.evaluator.chain space
  context : before.Unreached after → after.evaluator.context = before.evaluator.context
  handlers : before.Unreached after → after.handlers = before.handlers
  policy : after.evaluator.policy = before.evaluator.policy
  running : after.evaluator.running = before.evaluator.running
  events : before.events <:+ after.events
  closures : before.memory.closures.toList <+: after.memory.closures.toList
  frames : before.frames.size ≤ after.frames.size

namespace Machine.Continues

theorem refl (machine : Machine) : machine.Continues machine :=
  ⟨fun _ ↦ rfl, fun _ ↦ rfl, fun _ ↦ rfl, rfl, rfl, List.suffix_rfl, List.prefix_rfl, Nat.le_refl _⟩

theorem trans {first middle last : Machine} (hfirst : first.Continues middle)
    (hlast : middle.Continues last) : first.Continues last where
  chains space := (hlast.chains space).trans (hfirst.chains space)
  context hunreached :=
    have hparts := hunreached.split hfirst.events hlast.events
    (hlast.context hparts.2).trans (hfirst.context hparts.1)
  handlers hunreached :=
    have hparts := hunreached.split hfirst.events hlast.events
    (hlast.handlers hparts.2).trans (hfirst.handlers hparts.1)
  policy := hlast.policy.trans hfirst.policy
  running := hlast.running.trans hfirst.running
  events := hfirst.events.trans hlast.events
  closures := hfirst.closures.trans hlast.closures
  frames := Nat.le_trans hfirst.frames hlast.frames

theorem noted (event : Event) (machine : Machine) : machine.Continues (machine.noted event) :=
  { refl machine with
    context := fun _ ↦ rfl
    handlers := fun _ ↦ rfl
    events := List.suffix_cons event machine.events }

/-- Whatever a request changes, it is noted, and that is all that has to go on from it. -/
theorem reached (receiver : Value) (name : String) (effect : Effect) (machine : Machine) :
    machine.Continues ((machine.noted (.reach receiver name)).affected effect) := by
  have hreached := machine.not_unreached_affected receiver name effect
  refine ⟨fun space ↦ ?_, fun hnone ↦ absurd hnone hreached, fun hnone ↦ absurd hnone hreached, ?_, ?_,
    ?_, ?_, ?_⟩
  · cases effect <;> cases space <;> rfl
  · cases effect <;> rfl
  · cases effect <;> rfl
  · rw [events_affected]
    exact List.suffix_cons _ _
  · rw [memory_affected]
    exact List.prefix_rfl
  · cases effect with
    | bind | unbind => exact Nat.le_of_eq Array.size_setIfInBounds.symm
    | _ => exact Nat.le_refl _

/-- A closure that is there stays there. -/
theorem closure? {before after : Machine} (hcontinues : before.Continues after) {index : Nat}
    {closure : Closure} (hclosure : before.memory.closure? index = some closure) :
    after.memory.closure? index = some closure := by
  unfold Memory.closure? at hclosure ⊢
  rw [← Array.getElem?_toList] at hclosure ⊢
  obtain ⟨added, hadded⟩ := hcontinues.closures
  obtain ⟨hbound, -⟩ := List.getElem?_eq_some_iff.mp hclosure
  rw [← hadded, List.getElem?_append_left hbound]
  exact hclosure

/-- Entering and leaving a frame is no request for anything. -/
theorem unreached_inside {machine after : Machine} {space : Space} {bindings : Table}
    {base : Option Chain} {entered : Entered}
    (hunreached : machine.Unreached (after.leave space entered)) :
    (machine.enter space bindings base).2.Unreached after := by
  have hentered : (machine.enter space bindings base).2.reaches = machine.reaches := by
    unfold reaches
    rw [events_enter]
    rfl
  exact hunreached.trans hentered.symm

/-- What continues inside a frame continues outside of it once the frame is left. -/
theorem leave {machine after : Machine} {space : Space} {bindings : Table} {base : Option Chain}
    (hinside : (machine.enter space bindings base).2.Continues after) :
    machine.Continues (after.leave space (machine.enter space bindings base).1) where
  chains other := by
    have hchain := hinside.chains
    simp only [evaluator_enter] at hchain
    by_cases hother : other = space
    · subst hother
      refine (Evaluator.chain_withChain_self _ _ _).trans (leave_enter_chain _ _ _ _ _ ?_)
      rw [hchain, Evaluator.chain_withChain_self]
    · refine (Evaluator.chain_withChain_of_ne _ _ hother).trans ?_
      rw [hchain, Evaluator.chain_withChain_of_ne _ _ hother]
  context hunreached := by
    simpa [Machine.leave, evaluator_enter] using hinside.context (unreached_inside hunreached)
  handlers hunreached := by
    simpa [Machine.leave] using hinside.handlers (unreached_inside hunreached)
  policy := by simpa [Machine.leave, evaluator_enter] using hinside.policy
  running := by simpa [Machine.leave, evaluator_enter] using hinside.running
  events := by
    refine List.IsSuffix.trans ?_ hinside.events
    rw [events_enter]
    exact List.suffix_cons _ _
  closures := by simpa using hinside.closures
  frames := by
    have hframes := hinside.frames
    rw [frames_enter, Array.size_push] at hframes
    exact Nat.le_of_succ_le hframes

end Machine.Continues

/-- A machine of before: the journal goes on from its own, and the handlers are still the same unless
something of the interpreter itself was reached for. -/
structure Machine.Precedes (before after : Machine) : Prop where
  events : before.events <:+ after.events
  handlers : before.Unreached after → after.handlers = before.handlers

namespace Machine.Precedes

theorem of_eq {before after : Machine} (hevents : after.events = before.events)
    (hhandlers : after.handlers = before.handlers) : before.Precedes after :=
  ⟨hevents.symm ▸ List.suffix_rfl, fun _ ↦ hhandlers⟩

theorem refl (machine : Machine) : machine.Precedes machine := .of_eq rfl rfl

theorem trans {first middle last : Machine} (hfirst : first.Precedes middle)
    (hlast : middle.Precedes last) : first.Precedes last where
  events := hfirst.events.trans hlast.events
  handlers hunreached :=
    have hparts := hunreached.split hfirst.events hlast.events
    (hlast.handlers hparts.2).trans (hfirst.handlers hparts.1)

end Machine.Precedes

theorem Machine.Continues.precedes {before after : Machine} (hcontinues : before.Continues after) :
    before.Precedes after :=
  ⟨hcontinues.events, hcontinues.handlers⟩

/-- However a run ends, the machine goes on from where it was. -/
theorem Evolves.continues {library : Library} {before after : Machine} {outcome : Outcome Unit}
    (hevolves : Evolves library before outcome after) : before.Continues after := by
  induction hevolves with
  | value machine => exact .refl machine
  | failed failure machine => exact .refl machine
  | exhausted machine => exact .refl machine
  | aborted message machine => exact .noted _ machine
  | next _ _ ihfirst ihlast => exact ihfirst.trans ihlast
  | recovered _ _ ihfirst ihlast => exact ihfirst.trans ihlast
  | updated heap marks machine => exact { Machine.Continues.refl machine with }
  | closed closure machine captured =>
    refine { Machine.Continues.refl machine with closures := ?_ }
    simp only [Memory.close, Array.toList_push]
    exact List.prefix_append _ _
  | visited tree machine => exact .noted _ machine
  | moved tree machine =>
    refine { Machine.Continues.refl machine with chains := fun space ↦ ?_ }
    cases space <;> rfl
  | recorded requests records machine => exact { Machine.Continues.refl machine with }
  | asked engine receiver member node answer answered asking ih => exact ih.trans (.noted _ _)
  | untraced receiver member machine => exact .noted _ machine
  | reached receiver name effect machine => exact .reached receiver name effect machine
  | invoked receiver member arguments block machine granted => exact .noted _ machine
  | lookedUp owner name machine granted => exact .noted _ machine
  | written space name value number machine target =>
    refine { Machine.Continues.noted (.write space name value) machine with frames := ?_ }
    simp [Machine.noted, Frames.bind]
  | frameless space name failure machine target => exact .noted _ machine
  | framed bindings base captured inside ih => exact .leave ih

end Treewalk
