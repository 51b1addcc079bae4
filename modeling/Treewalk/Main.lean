import Treewalk.Console

/-!
The outer layer of the command line: it reads the file or the lines of the input, and writes what the
console has to say.
-/

set_option autoImplicit false
set_option relaxedAutoImplicit false

namespace Treewalk

/-- The text of a file, or why there is none. -/
def readText (path : String) : IO (Except Cause String) := do
  try
    return .ok (← IO.FS.readFile path)
  catch error =>
    match error with
    | .noFileOrDirectory _ _ _ => return .error (.plain .missingFile)
    | _ => return .error (.plain .directory)

/-- Writes a transcript. -/
def publish (transcript : Console.Transcript) : IO Unit := do
  (← IO.getStdout).putStr transcript.output
  (← IO.getStdout).flush
  (← IO.getStderr).putStr transcript.errors

/-- Writes what is left to say at an ending, and gives its status. -/
def conclude : Console.Ending → IO UInt32
  | .exited status => return UInt32.ofNat status
  | .escaped failure => do
    (← IO.getStderr).putStrLn (failure.cause.kind.label)
    return 1
  | .aborted message => do
    (← IO.getStderr).putStrLn message
    return 1

/-- Takes the turns of a dialogue over the lines of the input. -/
partial def dialogue (runner : Runner) (machine : Machine) : IO UInt32 := do
  publish (Console.Transcript.write Console.prompt {})
  let line ← (← IO.getStdin).getLine
  let (written, next) :=
    Console.turn runner machine (if line.isEmpty then none else some line)
  publish written
  match next with
  | .ok changed => dialogue runner changed
  | .error ending => conclude ending

end Treewalk

open Treewalk in
/-- Runs the script in the file that is named, or else holds a dialogue. -/
def main (arguments : List String) : IO UInt32 := do
  match arguments.head?.filter fun argument => !Console.isOption argument with
  | some path =>
    let found ← readText path
    let (transcript, ending) := Console.runFile .standard (fun _ => found) path path
    publish transcript
    conclude ending
  | none =>
    for line in Console.greeting do
      publish (Console.Transcript.say line {})
    let (runner, machine) := Console.start .standard
    dialogue runner machine
