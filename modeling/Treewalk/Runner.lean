import Treewalk.Document
import Treewalk.Sandbox

/-!
Runners: scripts in, reports out. A script is a document or a tree; a report is the value of the script,
or says that it could not be parsed or failed. Failures of scripts never leave a runner, only an abort
of the host does. Globals that the owner of the runner sets are there for every script.
-/

set_option autoImplicit false
set_option relaxedAutoImplicit false

namespace Treewalk

/-- A script. -/
inductive Script where
  | text (source : String)
  | tree (tree : Tree)
deriving Inhabited

/-- What became of a script. -/
inductive Report where
  | success (value : Value)
  | unparsed (cause : Cause)
  | failed (failure : Failure)
deriving Inhabited

namespace Report

/-- The word for a kind of failure in reports. -/
def kindLabel : Kind → String
  | .undefinedVariable => "NameError"
  | .unsupportedConstruct => "UnsupportedConstruct"
  | .blockConflict => "SyntaxError"
  | .authorizationDenied => "SecurityError"
  | .dispatch => "NoMethodError"
  | .interpreter => "InterpretrError"
  | kind => kind.label

/-- A label with the wording of a cause, if it has one. -/
def labelled (wording : Cause → Option String) (label : String) (cause : Cause) : String :=
  match wording cause with
  | some message => label ++ ": " ++ message
  | none => label

/-- The message of a report, in the given wording of causes; a success has none. -/
def messageIn? (wording : Cause → Option String) : Report → Option String
  | success _ => none
  | unparsed cause => some (labelled wording "ParseError" cause)
  | failed failure => some (labelled wording (kindLabel failure.cause.kind) failure.cause)

/-- The node that a report concerns. -/
def node? : Report → Option Tree
  | failed failure => failure.node
  | _ => none

/-- The full text of a report, in the given wording of causes: its message, and below it the node it
concerns, if it can be written. -/
def formatIn (wording : Cause → Option String) (report : Report) : Except Flaw String :=
  match report.messageIn? wording with
  | none => .ok ""
  | some message =>
    match report.node? with
    | some node => (node.written Tree.print).map fun shown => message ++ "\n  in " ++ shown
    | none => .ok message

/-- The message of a report; a success has none. -/
def message? (report : Report) : Option String := report.messageIn? Cause.message?

/-- The full text of a report; that of a success is empty. -/
def format (report : Report) : Except Flaw String := report.formatIn Cause.message?

end Report

/-- A runner. Its globals are a dictionary of its own, by address. -/
structure Runner where
  context : Value := .nil
  policy : Option Policy := none
  parser : String → Except Cause Tree := Document.parse .standard
  globals : Nat := 0

instance : Inhabited Runner := ⟨{}⟩

namespace Runner

/-- The dictionary of globals after one is set; one that is there keeps its place. -/
def settled (name : String) (value : Value) : Cell → Cell
  | .table entries removals =>
    .table (Table.insert [.text name] (.ofText name) value entries) removals
  | cell => cell

/-- Sets a global. -/
def setGlobal (name : String) (value : Value) (runner : Runner) (machine : Machine) : Machine :=
  match machine.memory.heap[runner.globals]? with
  | some cell =>
    { machine with memory := machine.memory.store runner.globals (settled name value cell) }
  | none => machine

/-- The tree of a script. -/
def parse (runner : Runner) : Script → Except Cause Tree
  | .text source => runner.parser source
  | .tree tree => .ok tree

/-- What is given for the session of a script. -/
def given (runner : Runner) (locals : Option Nat) : Given where
  context := runner.context
  locals := locals
  globals := some runner.globals
  policy := runner.policy

/-- The report on how a script ended. A script that went too deep has failed. -/
def reported : Outcome Value × Machine → Outcome Report × Machine
  | (.value value, ended) => (.value (.success value), ended)
  | (.failed failure, ended) =>
    (.value (.failed failure), ended.logged .debug .runner "script failed")
  | (.aborted message, ended) => (.aborted message, ended)
  | (.exhausted, ended) =>
    (.value (.failed ⟨.plain .recursion, none⟩), ended.logged .debug .runner "script failed")

/-- Evaluates a tree as a thing of its own and reports on it. -/
def evaluate (library : Library) (runner : Runner) (locals : Option Nat) (tree : Tree) :
    Run Report :=
  let run : Run Value := do
    let site ← Run.compute (Compute.place tree)
    Given.run library (runner.given locals) site
  fun machine => reported (run machine)

/-- Runs a script and reports on it. -/
def handle (library : Library) (runner : Runner) (locals : Option Nat) (script : Script) :
    Run Report :=
  match runner.parse script with
  | .error cause => return .unparsed cause
  | .ok tree => runner.evaluate library locals tree

end Runner

end Treewalk
