import Treewalk.Log
import Treewalk.Policy
import Treewalk.Scope

/-!
The machine that evaluation runs on. Its evaluator holds the two chains of frames, the context, the
policy and the node evaluated last; beside it stand memory, the store of frames, and a journal of what
happened. A run takes a machine to an outcome and a machine: whatever changed before a failure stays
changed.
-/

set_option autoImplicit false
set_option relaxedAutoImplicit false

namespace Treewalk

/-- The two namespaces of variables. -/
inductive Space where
  | locals
  | globals
deriving DecidableEq, Repr, Inhabited

/-- The word for a namespace in messages. -/
def Space.label : Space → String
  | .locals => "local"
  | .globals => "global"

/-- A query of a recording policy, with the receiver as it was when it was asked. -/
structure Request where
  receiver : Datum
  member : Tree
  node : Tree
deriving Repr, Inhabited

/-- The state of an evaluator. An idle one has no frames, no context and the permissive policy. -/
structure Evaluator where
  locals : Chain := []
  globals : Chain := []
  context : Value := .nil
  policy : Policy := Policy.permissive
  current : Option Tree := none
  running : Bool := false
deriving Inhabited

/-- An evaluator that runs no session. -/
def Evaluator.idle : Evaluator := {}

/-- The chain of a namespace. -/
def Evaluator.chain (evaluator : Evaluator) : Space → Chain
  | .locals => evaluator.locals
  | .globals => evaluator.globals

/-- Replaces the chain of a namespace. -/
def Evaluator.withChain (evaluator : Evaluator) (space : Space) (chain : Chain) : Evaluator :=
  match space with
  | .locals => { evaluator with locals := chain }
  | .globals => { evaluator with globals := chain }

/-- What happens during a run. -/
inductive Event where
  /-- The evaluation of a tree begins, on an evaluator in this state. -/
  | visit (tree : Tree) (evaluator : Evaluator)
  /-- The policy was asked for a member, which may be one published for scripts, and answered. -/
  | query (receiver : Value) (member node : Tree) (published granted : Bool)
  /-- The trace of a dispatch is to be kept, but its receiver or its member cannot be printed. -/
  | untraced (receiver : Value) (member : Tree)
  /-- A member is sent. -/
  | invocation (receiver : Value) (member : Tree) (arguments : List Value) (block : Option Value)
  /-- A constant is looked up. -/
  | lookup (owner : Value) (name : Tree)
  /-- A frame of a namespace is entered: one chain is left standing, another one takes its place. -/
  | enter (space : Space) (outside inside : Chain)
  /-- A variable is written. -/
  | write (space : Space) (name : Name) (value : Value)
  /-- There is no frame to write a variable in. -/
  | frameless (space : Space) (name : Name)
  /-- Host code or a script reaches through a receiver for something of the interpreter itself. -/
  | reach (receiver : Value) (name : String)
  /-- The host aborts. -/
  | abort (message : String)
deriving Inhabited

/-- A machine. The handlers are those that were added for tags of no construct, the latest first. The
journal has its latest entry first. Records below the threshold are not kept. -/
structure Machine where
  evaluator : Evaluator := {}
  handlers : List (String × Value) := []
  memory : Memory := {}
  frames : Frames := #[]
  events : List Event := []
  requests : List Request := []
  records : List Log.Record := []
  threshold : Nat := Log.Severity.warning.number
deriving Inhabited

/-- Adds a log record, unless it is below the threshold. -/
def Machine.logged (severity : Log.Severity) (source : Log.Source) (message : String)
    (machine : Machine) : Machine :=
  if machine.threshold ≤ severity.number then
    { machine with records := ⟨severity, source, message⟩ :: machine.records }
  else machine

/-- Adds an event to the journal. -/
def Machine.noted (event : Event) (machine : Machine) : Machine :=
  { machine with events := event :: machine.events }

/-- Changes the memory of a machine. The machine lets go of it meanwhile, so that it changes in
place. -/
def Machine.onMemory {α : Type} (change : Memory → α × Memory) (machine : Machine) : α × Machine :=
  let memory := machine.memory
  let others := { machine with memory := {} }
  let (result, changed) := change memory
  (result, { others with memory := changed })

/-- Changes the frames of a machine. The machine lets go of them meanwhile, so that they change in
place. -/
def Machine.onFrames {α : Type} (change : Frames → α × Frames) (machine : Machine) : α × Machine :=
  let frames := machine.frames
  let others := { machine with frames := #[] }
  let (result, changed) := change frames
  (result, { others with frames := changed })

/-- The machine inside a new frame of a namespace, over a captured chain if one is given, with what
leaving the frame needs to know. -/
def Machine.enter (space : Space) (bindings : Table) (base : Option Chain) (machine : Machine) :
    Entered × Machine :=
  let (frame, machine) := machine.onFrames (·.allocate bindings)
  let outside := machine.evaluator.chain space
  let (entered, inside) := Chain.enter frame base outside
  (entered,
    Machine.noted (.enter space outside inside)
      { machine with evaluator := machine.evaluator.withChain space inside })

/-- The machine after leaving a frame of a namespace. -/
def Machine.leave (space : Space) (entered : Entered) (machine : Machine) : Machine :=
  { machine with
    evaluator :=
      machine.evaluator.withChain space (Chain.leave entered (machine.evaluator.chain space)) }

/-- How a run ends: with a value, with a failure that scripts can rescue, with an abort of the host,
which they cannot, or because the bound on the depth of evaluation is reached. -/
inductive Outcome (α : Type) where
  | value (result : α)
  | failed (failure : Failure)
  | aborted (message : String)
  | exhausted
deriving Repr, Inhabited

/-- A run. -/
def Run (α : Type) := Machine → Outcome α × Machine

namespace Run

/-- Ends with a result. -/
def value {α : Type} (result : α) : Run α := fun machine => (.value result, machine)

/-- One run after another; only a value is passed on. -/
def bind {α β : Type} (run : Run α) (after : α → Run β) : Run β := fun machine =>
  match run machine with
  | (.value result, changed) => after result changed
  | (.failed failure, changed) => (.failed failure, changed)
  | (.aborted message, changed) => (.aborted message, changed)
  | (.exhausted, changed) => (.exhausted, changed)

instance : Monad Run where
  pure := value
  bind := bind

/-- Ends with a failure. -/
def fail {α : Type} (failure : Failure) : Run α := fun machine => (.failed failure, machine)

/-- Ends with a failure that concerns no node. -/
def refuse {α : Type} (cause : Cause) : Run α := fail ⟨cause, none⟩

/-- Ends with a failure that concerns a node. -/
def refuseAt {α : Type} (node : Tree) (cause : Cause) : Run α := fail ⟨cause, some node⟩

/-- Ends because the bound on the depth of evaluation is reached. -/
def exhaust {α : Type} : Run α := fun machine => (.exhausted, machine)

/-- What a view shows of the machine as it stands. -/
def look {α : Type} (view : Machine → α) : Run α := fun machine => (.value (view machine), machine)

/-- Changes the machine. -/
def change (update : Machine → Machine) : Run Unit := fun machine => (.value (), update machine)

/-- Notes an event. -/
def note (event : Event) : Run Unit := change (Machine.noted event)

/-- Aborts, which is noted. -/
def abort {α : Type} (message : String) : Run α := fun machine =>
  (.aborted message, machine.noted (.abort message))

/-- Does something to the machine however a run ends. -/
def ensuring {α : Type} (run : Run α) (cleanup : Machine → Machine) : Run α := fun machine =>
  let (outcome, changed) := run machine
  (outcome, cleanup changed)

/-- Changes the failure that a run ends with. -/
def mapFailure {α : Type} (adjust : Failure → Failure) (run : Run α) : Run α := fun machine =>
  match run machine with
  | (.failed failure, changed) => (.failed (adjust failure), changed)
  | other => other

/-- Goes on from a failure; other ends stand. -/
def rescue {α : Type} (run : Run α) (recover : Failure → Run α) : Run α := fun machine =>
  match run machine with
  | (.failed failure, changed) => recover failure changed
  | other => other

/-- One run after another; a value is passed on to one, and a failure to another. -/
def either {α β : Type} (run : Run α) (after : α → Run β) (recover : Failure → Run β) : Run β :=
  fun machine =>
    match run machine with
    | (.value result, changed) => after result changed
    | (.failed failure, changed) => recover failure changed
    | (.aborted message, changed) => (.aborted message, changed)
    | (.exhausted, changed) => (.exhausted, changed)

/-- Runs a computation on the memory. -/
def compute {α : Type} (computation : Compute α) : Run α := fun machine =>
  match machine.onMemory computation.run.run with
  | (.ok result, changed) => (.value result, changed)
  | (.error cause, changed) => (.failed ⟨cause, none⟩, changed)

/-- Adds a closure. -/
def close (closure : Closure) : Run Value := fun machine =>
  let (value, changed) := machine.onMemory (·.close closure)
  (.value value, changed)

/-- Writes a log record, unless it is below the threshold. -/
def log (severity : Log.Severity) (source : Log.Source) (message : String) : Run Unit :=
  change (Machine.logged severity source message)

/-! ### Variables -/

/-- The value of a name in a namespace. -/
def read? (space : Space) (name : Name) : Run (Option Value) := fun machine =>
  (.value (machine.frames.find? name.key (machine.evaluator.chain space)), machine)

/-- Writes a name in a namespace; there has to be a frame. -/
def write (space : Space) (name : Name) (value : Value) : Run Unit := fun machine =>
  match machine.frames.target? name.key (machine.evaluator.chain space) with
  | some number =>
    let (_, changed) := machine.onFrames fun frames => ((), frames.bind number name value)
    (.value (), changed.noted (.write space name value))
  | none =>
    (.failed ⟨.noFrame space.label name.text, none⟩, machine.noted (.frameless space name))

/-- Runs inside a new frame of a namespace, over a captured chain if one is given, and leaves the
frame however the run ends. -/
def inFrame {α : Type} (space : Space) (bindings : Table) (base : Option Chain) (run : Run α) :
    Run α := fun machine =>
  let (entered, inside) := machine.enter space bindings base
  (run.ensuring (Machine.leave space entered)) inside

end Run

end Treewalk
