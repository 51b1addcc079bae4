import Treewalk.Construct
import Treewalk.Machine

/-!
Reaching for the interpreter itself. A block leads to the frames that it captured and to the evaluator,
and from there a script can come by the context, the policy, the global variables and the handlers of
nodes; it can write and remove names in a frame, replace the context and add a handler. Here is what comes of such a
request (`Machine.answer`), as far as these go; whatever else may be reached for is taken to be
missing. Every request is noted (`Run.reach`), so that runs in which nothing is reached for can be told
from the others.
-/

set_option autoImplicit false
set_option relaxedAutoImplicit false

namespace Treewalk

/-- What a request for something of the interpreter itself changes. -/
inductive Effect where
  | nothing
  /-- A name is written in a frame. -/
  | bind (number : Nat) (name : Name) (value : Value)
  /-- A name is taken out of a frame. -/
  | unbind (number : Nat) (key : Key)
  /-- The context is another one. -/
  | seat (context : Value)
  /-- A tag of no construct gets a handler. -/
  | handle (tag : String) (handler : Value)
deriving Repr, Inhabited

/-- What comes of a request for something of the interpreter itself. -/
inductive Answer where
  | missing
  | found (value : Value) (effect : Effect)
  | refused (cause : Cause)
deriving Repr, Inhabited

namespace Machine

/-- The machine after an effect. -/
def affected (effect : Effect) (machine : Machine) : Machine :=
  match effect with
  | .nothing => machine
  | .bind number name value => { machine with frames := machine.frames.bind number name value }
  | .unbind number key => { machine with frames := machine.frames.unbind number key }
  | .seat context => { machine with evaluator := { machine.evaluator with context := context } }
  | .handle tag handler => { machine with handlers := (tag, handler) :: machine.handlers }

/-- The chain that a block captured, outermost frame first. -/
def captured (machine : Machine) (index : Nat) : List Nat :=
  match machine.memory.closure? index with
  | some (.block _ _ chain) => chain.reverse
  | _ => []

/-! ### Reading members -/

/-- What comes of reading a member of a block that leads to the interpreter. -/
def readBlock (machine : Machine) (index : Nat) (name : String) : Answer :=
  match name with
  | "frames" =>
    let places := List.range (machine.captured index).length
    .found (.tuple (places.map fun place => .inner index (.frame place)) .common) .nothing
  | "evaluator" => .found (.inner index .evaluator) .nothing
  | _ => .missing

/-- What comes of reading a member of something of the interpreter itself. -/
def readInner (machine : Machine) (index : Nat) (part : Inner) (name : String) : Answer :=
  match part, name with
  | .evaluator, "context" => .found machine.evaluator.context .nothing
  | .evaluator, "capabilities" => .found (.inner index .policy) .nothing
  | .evaluator, "gvars" => .found (.inner index .globals) .nothing
  | .evaluator, "_handlers" => .found (.inner index .handlers) .nothing
  | .evaluator, "__setattr__" | .globals, "fetch" | .frame _, "pop" =>
    .found (.method (.inner index part) name .common) .nothing
  | .policy, "allowed" =>
    match machine.evaluator.policy.lists with
    | none => .missing
    | some none => .found .nil .nothing
    | some (some _) => .found (.inner index .names) .nothing
  | _, _ => .missing

/-! ### Sending members -/

/-- What comes of fetching a global variable, which has to be bound. -/
def fetch (machine : Machine) (wanted : Value) : Answer :=
  match machine.memory.key? wanted with
  | none => .refused (.plain .type)
  | some key =>
    match machine.frames.find? key machine.evaluator.globals with
    | some found => .found found .nothing
    | none =>
      match (machine.memory.view wanted).plain with
      | .ok text => .refused (.undefinedVariable Space.globals.label text)
      | .error flaw => .refused (.plain flaw.kind)

/-- What comes of looking up a name in a frame that a block captured, where finding it has an effect on
that frame. -/
def peek (machine : Machine) (index place : Nat) (wanted : Value) (effect : Nat → Key → Effect) :
    Answer :=
  match (machine.captured index)[place]?, machine.memory.key? wanted with
  | some number, some key =>
    match (machine.frames.frame number).find? key with
    | some found => .found found (effect number key)
    | none => .refused (.plain .entry)
  | some _, none => .refused (.plain .type)
  | none, _ => .missing

/-- What comes of writing a name in a frame that a block captured. -/
def poke (machine : Machine) (index place : Nat) (wanted value : Value) : Answer :=
  match (machine.captured index)[place]?, machine.memory.key? wanted with
  | some number, some key => .found value (.bind number ⟨key, wanted, ""⟩ value)
  | some _, none => .refused (.plain .type)
  | none, _ => .missing

/-- What comes of adding a handler. Those of the constructs stay. -/
def handle (tag handler : Value) : Answer :=
  match tag.text? with
  | some name =>
    if (Construct.ofTag? name).isNone then .found handler (.handle name handler) else .missing
  | none => .missing

/-- What comes of sending a member to something of the interpreter itself. -/
def sendInner (machine : Machine) (index : Nat) (part : Inner) (name : String)
    (arguments : List Value) : Answer :=
  match part, arguments with
  | .evaluator, [field, context] =>
    if name = "__setattr__" ∧ field.text? = some "context" then .found .nil (.seat context)
    else .missing
  | .globals, [wanted] => if name = "fetch" then machine.fetch wanted else .missing
  | .frame place, [wanted] =>
    if name = "[]" then machine.peek index place wanted fun _ _ => .nothing
    else if name = "pop" then machine.peek index place wanted .unbind
    else .missing
  | .frame place, [wanted, value] =>
    if name = "[]=" then machine.poke index place wanted value else .missing
  | .handlers, [tag, handler] => if name = "[]=" then handle tag handler else .missing
  | _, _ => .missing

/-- What comes of a request for something of the interpreter itself. -/
def answer (machine : Machine) (receiver : Value) (name : String)
    (arguments : Option (List Value)) : Answer :=
  match receiver, arguments with
  | .closure index, none => machine.readBlock index name
  | .inner index part, none => machine.readInner index part name
  | .inner index part, some given => machine.sendInner index part name given
  | _, _ => .missing

end Machine

/-- Reaches through a receiver for something of the interpreter itself, which is noted. -/
def Run.reach (receiver : Value) (name : String) (arguments : Option (List Value)) :
    Run (Option Value) := fun machine =>
  let noted := machine.noted (.reach receiver name)
  match machine.answer receiver name arguments with
  | .missing => (.value none, noted)
  | .found value effect => (.value (some value), noted.affected effect)
  | .refused cause => (.failed ⟨cause, none⟩, noted)

end Treewalk
