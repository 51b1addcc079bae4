import Treewalk.Evaluate

/-!
Sessions. A session evaluates one tree with a context, bindings and a policy on an evaluator that runs
no other session; it seeds one frame of each namespace, and however it ends the evaluator is idle
again. A caller's bindings are dictionaries of its own, and the frames begin with copies of them.
-/

set_option autoImplicit false
set_option relaxedAutoImplicit false

namespace Treewalk

/-- What a session is given. Without a policy everything is granted. -/
structure Session where
  context : Value := .nil
  locals : Table := []
  globals : Table := []
  policy : Option Policy := none
deriving Inhabited

namespace Session

/-- How deep evaluation may go. -/
def depth : Nat := 10000

/-- The evaluator at the start of a session. -/
def start (session : Session) (evaluator : Evaluator) : Evaluator where
  context := session.context
  policy := session.policy.getD Policy.permissive
  current := evaluator.current
  running := true

/-- The log message at the start of a session. -/
def startText (session : Session) : String :=
  s!"session start: {session.locals.length} locals, {session.globals.length} globals"

/-- The machine after a session: its evaluator is idle. -/
def finish (machine : Machine) : Machine :=
  Machine.logged .debug .evaluator "session end" { machine with evaluator := Evaluator.idle }

/-- Evaluates a tree in the two frames of a session. -/
def body (library : Library) (session : Session) (site : Site) : Run Value :=
  Run.inFrame .globals session.globals none
    (Run.inFrame .locals session.locals none ((Eval.engine library depth).evaluate site))

/-- Runs a tree as one session. -/
def run (library : Library) (session : Session) (site : Site) : Run Value := fun machine =>
  if machine.evaluator.running then (.failed ⟨.sessionRunning, none⟩, machine)
  else
    let started := { machine with evaluator := session.start machine.evaluator }
    ((session.body library site).ensuring finish)
      (Machine.logged .debug .evaluator session.startText started)

end Session

/-! ### Dictionaries of a caller -/

/-- The entries of the dictionary at an address, if one is given. -/
def Memory.entriesAt (memory : Memory) (dictionary : Option Nat) : Table :=
  match dictionary.bind fun address => memory.heap[address]? with
  | some (.table entries _) => entries
  | _ => []

/-- What the caller of a session gives. The bindings are dictionaries of its own, by address. -/
structure Given where
  context : Value := .nil
  locals : Option Nat := none
  globals : Option Nat := none
  policy : Option Policy := none
deriving Inhabited

namespace Given

/-- The session that is given: its frames begin with copies of what is in the dictionaries. -/
def session (given : Given) (memory : Memory) : Session where
  context := given.context
  locals := memory.entriesAt given.locals
  globals := memory.entriesAt given.globals
  policy := given.policy

/-- Runs a tree as the session that is given. -/
def run (library : Library) (given : Given) (site : Site) : Run Value := fun machine =>
  (given.session machine.memory).run library site machine

end Given

/-- Calls a value outside of any session. -/
def Run.callOutside (library : Library) (callee : Value) (arguments : List Value) : Run Value :=
  (Eval.engine library Session.depth).call callee arguments none

end Treewalk
