import Treewalk.Host.Kernel
import Treewalk.Locator
import Treewalk.Runner

/-!
The command line. With a path it runs the script in that file and ends with a status; without one it
holds a dialogue, in which every line is a script and gets its value or the report of its failure. What
is written is kept in a transcript, so that the outer layer has nothing to decide.
-/

set_option autoImplicit false
set_option relaxedAutoImplicit false

namespace Treewalk.Console

/-! ### Transcripts -/

/-- What was written to the two channels. -/
structure Transcript where
  output : String := ""
  errors : String := ""
deriving DecidableEq, Repr, Inhabited

namespace Transcript

/-- Writes text. -/
def write (s : String) (transcript : Transcript) : Transcript :=
  { transcript with output := transcript.output ++ s }

/-- Writes a line. -/
def say (s : String) (transcript : Transcript) : Transcript := transcript.write (s ++ "\n")

/-- Writes a line to the channel of errors. -/
def complain (s : String) (transcript : Transcript) : Transcript :=
  { transcript with errors := transcript.errors ++ s ++ "\n" }

/-- Goes on with another transcript. -/
def append (transcript more : Transcript) : Transcript where
  output := transcript.output ++ more.output
  errors := transcript.errors ++ more.errors

end Transcript

/-- How the command line ends: with a status, or because something went wrong that is not reported. -/
inductive Ending where
  | exited (status : Nat)
  | escaped (failure : Failure)
  | aborted (message : String)
deriving Inhabited

/-! ### Wording -/

/-- The wording of causes on the command line. -/
def wording (cause : Cause) : Option String :=
  match cause with
  | .plain .division => some "division by zero"
  | _ => cause.message?

/-- The version of the program. -/
def version : String := "0.1.0"

/-- The first lines of a dialogue. -/
def greeting : List String :=
  ["interpretr REPL v0.1",
    "Enter one JSON s-expression per line. Type 'exit' or press Ctrl+D to quit."]

/-- What asks for the next line. -/
def prompt : String := ">> "

/-- The last line of a dialogue whose input ends. -/
def farewell : String := "\nExiting."

/-! ### Scripts -/

/-- What the command line does about a line or a file: nothing, leaving, writing a value or a report,
or giving up. -/
inductive Reaction where
  | none
  | leave
  | value (s : String)
  | report (s : String)
  | give (ending : Ending)
deriving Inhabited

/-- The memory that the command line begins with: the default context, and the globals of a runner,
of which there are none. -/
def startMemory : Memory := { heap := #[Host.kernelCell, .table [] []] }

/-- A new machine with a runner whose context is the default one, and which reads documents with a
loader. -/
def start (loader : Document.Loader) : Runner × Machine :=
  ({ context := .cell 0, parser := Document.parse loader, globals := 1 }, { memory := startMemory })

/-- What is done about something to be written. That it cannot be printed is not reported. -/
def printing (use : String → Reaction) : Except Flaw String → Reaction
  | .ok s => use s
  | .error flaw => .give (.escaped ⟨.plain flaw.kind, Option.none⟩)

/-- What is written about the end of a script. -/
def reactionTo (outcome : Outcome Report) (memory : Memory) : Reaction :=
  match outcome with
  | .value (.success value) => printing .value (memory.view value).inspect
  | .value report => printing .report (report.formatIn wording)
  | .failed failure => .give (.escaped failure)
  | .aborted message => .give (.aborted message)
  | .exhausted => .give (.escaped ⟨.plain .recursion, Option.none⟩)

/-- Runs a script. -/
def react (runner : Runner) (script : Script) (machine : Machine) : Reaction × Machine :=
  let (outcome, changed) := runner.handle Host.kernelLibrary none script machine
  (reactionTo outcome changed.memory, changed)

/-! ### Files -/

/-- What is written about the script in a file, and how the command line ends with it. -/
def settle : Reaction → Transcript × Ending
  | .value s => (Transcript.say s {}, .exited 0)
  | .report s => (Transcript.complain s {}, .exited 1)
  | .give ending => ({}, ending)
  | .none => ({}, .exited 0)
  | .leave => ({}, .exited 0)

/-- Runs the script in a file. The path is given as it was written and as it is looked up. -/
def runFile (loader : Document.Loader) (store : Locator.Store) (written path : String) :
    Transcript × Ending :=
  let blank : Transcript := {}
  match Locator.load loader store path with
  | .error cause =>
    if cause.kind = .missingFile then
      (blank.complain ("Error: file not found: " ++ written), .exited 1)
    else if cause.kind.isValue then
      (blank.complain (Report.labelled wording "ParseError" cause), .exited 1)
    else (blank, .escaped ⟨cause, none⟩)
  | .ok tree =>
    let (runner, machine) := start loader
    settle (react runner (.tree (tree.getD (.leaf .null))) machine).1

/-! ### Dialogues -/

/-- What is done about a line: a blank one is passed over, and one word leaves. -/
def reactToLine (runner : Runner) (line : String) (machine : Machine) : Reaction × Machine :=
  let source := String.ofList (Text.trim line.toList)
  if source.isEmpty then (.none, machine)
  else if source = "exit" then (.leave, machine)
  else react runner (.text source) machine

/-- One turn of a dialogue, over the next line if the input does not end: what is written after the
prompt, and the machine of the next turn or the ending. -/
def turn (runner : Runner) (machine : Machine) : Option String → Transcript × Except Ending Machine
  | none => (Transcript.say farewell {}, .error (.exited 0))
  | some line =>
    match reactToLine runner line machine with
    | (.none, changed) => ({}, .ok changed)
    | (.leave, _) => ({}, .error (.exited 0))
    | (.value s, changed) => (Transcript.say s {}, .ok changed)
    | (.report s, changed) => (Transcript.complain s {}, .ok changed)
    | (.give ending, _) => ({}, .error ending)

/-- Holds a dialogue over lines, turn by turn. -/
def converse (runner : Runner) : List String → Machine → Transcript → Transcript × Ending
  | lines, machine, transcript =>
    let (written, next) := turn runner machine lines.head?
    let told := (transcript.write prompt).append written
    match next, lines with
    | .error ending, _ => (told, ending)
    | .ok changed, _ :: rest => converse runner rest changed told
    | .ok _, [] => (told, .exited 0)

/-- Cuts text into lines; what follows the last line feed is a line if it is not empty. -/
def linesFrom : List Char → List Char → List String
  | [], [] => []
  | current, [] => [String.ofList current.reverse]
  | current, c :: rest =>
    if c = Text.lineFeed then String.ofList current.reverse :: linesFrom [] rest
    else linesFrom (c :: current) rest

/-- The lines of text. -/
def lines (s : String) : List String := linesFrom [] s.toList

/-- Greets and holds a dialogue. -/
def interact (loader : Document.Loader) (input : List String) : Transcript × Ending :=
  let (runner, machine) := start loader
  converse runner input machine
    (greeting.foldl (fun transcript line => transcript.say line) {})

/-! ### The command line -/

/-- Whether an argument is an option and not a path. -/
def isOption (argument : String) : Bool := Text.startsWith ['-'] argument.toList

/-- The command line: a path is run, anything else opens a dialogue over the input. -/
def run (loader : Document.Loader) (surroundings : Locator.Surroundings) (store : Locator.Store)
    (arguments : List String) (input : String) : Transcript × Ending :=
  match arguments with
  | path :: _ =>
    if isOption path then interact loader (lines input)
    else runFile loader store path (Locator.absolute surroundings path)
  | [] => interact loader (lines input)

end Treewalk.Console
