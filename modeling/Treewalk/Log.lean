import Treewalk.Failure
import Treewalk.Text.Case

/-!
Log levels and records. A level is named in any case; the level of a run comes from its own setting,
else from the surroundings, else it is the level of warnings. A level of zero leaves the decision to
the level of warnings.
-/

set_option autoImplicit false
set_option relaxedAutoImplicit false

namespace Treewalk.Log

/-- How severe a record is. -/
inductive Severity where
  | debug
  | warning
deriving DecidableEq, Repr, Inhabited

/-- The number of a severity. -/
def Severity.number : Severity → Nat
  | .debug => 10
  | .warning => 30

/-- The name of a severity. -/
def Severity.name : Severity → String
  | .debug => "DEBUG"
  | .warning => "WARNING"

/-- Which part of the library writes a record. -/
inductive Source where
  | evaluator
  | runner
deriving DecidableEq, Repr, Inhabited

/-- A log record. -/
structure Record where
  severity : Severity
  source : Source
  message : String
deriving DecidableEq, Repr, Inhabited

/-- The levels by name. -/
def levels : List (String × Nat) :=
  [("CRITICAL", 50), ("FATAL", 50), ("ERROR", 40), ("WARN", 30), ("WARNING", 30), ("INFO", 20),
    ("DEBUG", 10), ("NOTSET", 0)]

/-- A setting that is not empty. -/
def given? : Option String → Option String
  | some "" => none
  | setting => setting

/-- The level that the own setting and that of the surroundings ask for. -/
def level (own surroundings : Option String) : Except Cause Nat :=
  let word := ((given? own).orElse fun _ => given? surroundings).getD "WARNING"
  let name := String.ofList (Text.upper word.toList)
  match levels.lookup name with
  | some number => .ok number
  | none => .error (.unknownLevel name)

/-- The level from which records are kept. -/
def threshold (level : Nat) : Nat := if level = 0 then Severity.warning.number else level

end Treewalk.Log
