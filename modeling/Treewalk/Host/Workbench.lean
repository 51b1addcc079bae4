import Treewalk.Host.Kernel

/-!
A host for exercising scripts. Its context counts the calls of two of its methods, hands arguments,
sequences and blocks back and forth, fails in each of the ways a host can fail, and reports where the
evaluator stands. Beside it there are points, a class of constants, and a few plain functions.
-/

set_option autoImplicit false
set_option relaxedAutoImplicit false

namespace Treewalk.Host

/-! ### The context -/

/-- A new context, with its count of calls at zero. -/
def workbenchCell : Cell :=
  .object "Host" (some "host") [("calls", .ofInt 0), ("label", .ofText "lbl")]

/-- The count of calls among fields. -/
def callCount (fields : List (String × Value)) : Int :=
  match fields.lookup "calls" with
  | some (.int n _) => n
  | _ => 0

/-- The count of calls of a context. -/
def calls (memory : Memory) (context : Value) : Int :=
  match memory.cell? context with
  | some (.object _ _ fields) => callCount fields
  | _ => 0

/-- Counts one call of a context. -/
def countCall (self : Value) : Compute Unit := do
  match ← Compute.cell? self with
  | some (.object className title fields) =>
    let count ← Compute.newInt (callCount fields + 1)
    let changed := fields.map fun field => if field.1 = "calls" then (field.1, count) else field
    Compute.store self (.object className title changed)
  | _ => pure ()

/-- The arguments as a list, and whether a block was given. -/
def arrival (arguments : List Value) (block : Option Value) : Compute Value := do
  let list ← Compute.newList arguments
  Compute.newList [list, .bool block.isSome]

/-- The node that located failures carry. -/
def marker : Tree := .node "marker" []

/-- Fails in the way that a word names. -/
def explode (word : Option String) (message : String) : Action Value :=
  match word with
  | some "interpretr" => Action.fail ⟨.interpreter message, none⟩
  | some "interpretr_node" => Action.fail ⟨.interpreter message, some marker⟩
  | some "abort" => Action.abort message
  | some "value" => Action.refuse (.worded .value message)
  | _ => Action.refuse (.worded .lookup message)

/-- A method that answers a text. -/
def answering (name answer : String) : HostMethod :=
  bareMethod name fun _ => Action.done (.ofText answer)

/-- The printed form of an optional node. -/
def nodeText : Option Tree → String
  | some tree => tree.plain
  | none => "None"

/-- The results of calling a block with each item of an iteration, as a list. -/
def collect (block : Value) (iteration : Iteration) : Action Value := do
  let results ← Action.callEach block Iteration.longest iteration []
  Action.compute (Compute.newList results)

/-- The methods of the context. -/
def workbenchMethods : List HostMethod := [
  proc,
  fail,
  bareMethod "touch" fun self =>
    Action.compute do
      countCall self
      return .ofText "touched",
  plainMethod "echo" fun self arguments =>
    Action.compute do
      countCall self
      Compute.newList arguments,
  { name := "given",
    body := fun _ arguments block => Action.compute (arrival arguments block) },
  blockMethod "apply" fun arguments block => Action.call block arguments none Action.done,
  blockMethod "map" fun arguments block =>
    match arguments with
    | [list] => do
      let iteration ← Action.compute list.iteration
      collect block iteration
    | _ => misfit,
  blockMethod "reduce" fun arguments block =>
    match arguments with
    | [list] => do
      let iteration ← Action.compute list.iteration
      match ← Action.compute iteration.next with
      | none => misfit
      | some (first, rest) => Action.callFold block Iteration.longest rest first
    | _ => misfit,
  blockMethod "twice" fun arguments block =>
    match arguments with
    | [] => collect block (.known [.ofInt 1, .ofInt 2])
    | _ => misfit,
  bareMethod "nums" fun _ => Action.compute (Compute.newProgression 0 3 1),
  bareMethod "queue" fun _ => Action.compute (Compute.allocate (.queue [.ofInt 4, .ofInt 5] 0)),
  bareMethod "pair" fun _ => Action.done (.tuple [.ofInt 1, .ofInt 2] .common),
  plainMethod "point" fun _ arguments =>
    match arguments with
    | [x] => Action.compute (Compute.allocate (.object "Point" none [("x", x)]))
    | _ => misfit,
  plainMethod "boom" fun _ arguments =>
    match arguments with
    | [kind] => explode kind.text? "boom"
    | [kind, message] => do
      let s ← words message
      explode kind.text? s
    | _ => misfit,
  bareMethod "again" fun _ => Action.reenter (Action.done .nil),
  bareMethod "depth" fun _ =>
    Action.observe fun seen =>
      Action.compute do
        Compute.newList
          [← Compute.newCount seen.localDepth, ← Compute.newCount seen.globalDepth],
  bareMethod "scope" fun _ =>
    Action.observe fun seen =>
      match seen.scope with
      | some s => Action.compute (Compute.newText s)
      | none => misfit,
  bareMethod "current" fun _ =>
    Action.observe fun seen => Action.compute (Compute.newText (nodeText seen.current)),
  { answering "published" "published" with marked := true },
  { answering "_hidden" "hidden" with marked := true },
  answering "unpublished" "unpublished"]

/-- The class of the context. -/
def workbench : HostClass where
  name := "Host"
  shared := [("CONST", .ofText "host-const")]
  traps := [("TRAP", ⟨.dispatch "trapped", none⟩), ("TRAPNODE", ⟨.dispatch "trapped", some marker⟩)]
  methods := workbenchMethods
  construct _ _ := misfit

/-! ### Points and constants -/

/-- The coordinate of a point. -/
def coordinate (self : Value) : Action Value :=
  Action.inspect fun memory =>
    match memory.cell? self with
    | some (.object _ _ fields) => Action.done ((fields.lookup "x").getD .nil)
    | _ => misfit

/-- The class of points. -/
def point : HostClass where
  name := "Point"
  shared := [("origin", .ofText "origin")]
  methods := [
    plainMethod "shifted" fun self arguments =>
      match arguments with
      | [distance] => do
        let x ← coordinate self
        Action.compute do
          let moved ← Operator.add.apply x [distance]
          Compute.allocate (.object "Point" none [("x", moved)])
      | _ => misfit,
    { name := "each",
      body := fun self arguments block =>
        match arguments, block with
        | [], some given => do
          let x ← coordinate self
          collect given (.known [x])
        | _, _ => misfit }]
  construct arguments block :=
    match arguments, block with
    | [x], none => Action.compute (Compute.allocate (.object "Point" none [("x", x)]))
    | _, _ => misfit

/-- A class that only holds constants. -/
def floatConstants : HostClass where
  name := "FloatConstants"
  shared := [("INFINITY", .float (Binary64.infinity false) .common), ("Deep", .hostClass "Point")]
  construct arguments block :=
    match arguments, block with
    | [], none => Action.compute (Compute.allocate (.object "FloatConstants" none []))
    | _, _ => misfit

/-! ### Functions -/

/-- A function that takes no block. -/
def plainFunction (name : String) (body : List Value → Compute Value) : HostFunction where
  name := name
  body arguments block :=
    match block with
    | some _ => misfit
    | none => Action.compute (body arguments)

/-- The functions. -/
def workbenchFunctions : List HostFunction := [
  plainFunction "sub" fun arguments =>
    match arguments with
    | [a, b] => Operator.subtract.apply a [b]
    | _ => Compute.refuse .type,
  plainFunction "ident" Compute.newList,
  { name := "withblock",
    body := fun arguments block => Action.compute (arrival arguments block) },
  plainFunction "x10" fun arguments =>
    match arguments with
    | [v] => Operator.multiply.apply v [.ofInt 10]
    | _ => Compute.refuse .type]

/-- The whole library. -/
def workbenchLibrary : Library where
  classes := [kernel, workbench, point, floatConstants]
  functions := workbenchFunctions

end Treewalk.Host
