import Treewalk.Reach

/-!
Engines: the two recursive services of the interpreter, evaluating a tree and calling a value, bundled
so that everything built on them can be stated without recursion. `perform` runs a host action on an
engine. `bindParameters` binds the arguments of a block call, and `assign` writes the targets of a
destructuring assignment.
-/

set_option autoImplicit false
set_option relaxedAutoImplicit false

namespace Treewalk

/-- The recursive services. -/
structure Engine where
  evaluate : Site → Run Value
  call : Value → List Value → Option Value → Run Value

/-- The engine that can do nothing any more. -/
def Engine.spent : Engine where
  evaluate _ := Run.exhaust
  call _ _ _ := Run.exhaust

namespace Run

/-- A new list. -/
def newList (items : List Value) : Run Value := compute (Compute.newList items)

/-- What host code can see of the machine. -/
def observation : Run Observation := fun machine =>
  let evaluator := machine.evaluator
  (.value {
      localDepth := evaluator.locals.length
      globalDepth := evaluator.globals.length
      scope := machine.frames.describe? Space.locals.label evaluator.locals
      current := evaluator.current }, machine)

/-- The parameter names of a block: its parameter list, evaluated. The answer is missing when a
parameter is malformed. -/
def parameterNames (engine : Engine) (index : Nat) : Run (Option Value) := do
  match ← look (·.memory.closure? index) with
  | some (.block parameters _ _) =>
    if parameters.tree.isAbsent then return some (← newList [])
    else
      rescue (some <$> engine.evaluate parameters) fun failure =>
        match failure.cause.kind with
        | .member => value none
        | _ => fail failure
  | _ => return none

/-- Runs an action. -/
def perform {α : Type} (engine : Engine) : Action α → Run α
  | .done result => value result
  | .fail failure => fail failure
  | .abort message => abort message
  | .exhaust => exhaust
  | .inspect next => fun machine => perform engine (next machine.memory) machine
  | .update heap marks next => fun machine =>
    perform engine next
      { machine with memory := { machine.memory with heap := heap, marks := marks } }
  | .call callee arguments block next =>
    (engine.call callee arguments block).bind fun result => perform engine (next result)
  | .attempt callee arguments block next catches recover =>
    (engine.call callee arguments block).either (fun result => perform engine (next result))
      fun failure =>
        if catches failure.cause.kind then perform engine (recover failure.cause.kind)
        else fail failure
  | .parameters index next =>
    (parameterNames engine index).bind fun names => perform engine (next names)
  | .observe next => observation.bind fun seen => perform engine (next seen)
  | .reenter next => fun machine =>
    if machine.evaluator.running then (.failed ⟨.sessionRunning, none⟩, machine)
    else perform engine next machine
  | .reach receiver name arguments next =>
    (reach receiver name arguments).bind fun answer => perform engine (next answer)

/-! ### Binding parameters -/

/-- Whether a target takes all values that are left. -/
def takesRest (tag : String) : Bool := tag == "splat" || tag == "restarg"

/-- Pairs targets with values from left to right. A rest target takes the values that are left as a
new list; any other one takes one value, or nil when none is left. -/
def pairTargets : List Tree → List Value → Run (List (Tree × Value))
  | [], _ => value []
  | .leaf _ :: _, _ => refuse (.plain .member)
  | .node tag children :: rest, values =>
    if takesRest tag then do
      let list ← newList values
      let others ← pairTargets rest []
      return (.node tag children, list) :: others
    else do
      let others ← pairTargets rest values.tail
      return (.node tag children, values.headD .nil) :: others

mutual

/-- Binds the parameters below a marked node to values from left to right, counted from a place on. A
rest parameter takes the values that are left as a new list; any other one takes one value, or nil
when none is left. -/
def bindParameters (mark : Mark) : Nat → List Tree → List Value → Table → Run Table
  | _, [], _, table => value table
  | _, .leaf _ :: _, _, _ => refuse (.plain .member)
  | place, .node tag children :: rest, values, table =>
    if takesRest tag then do
      let list ← newList values
      let bound ← bindParameter (mark.child place) (.node tag children) list table
      bindParameters mark (place + 1) rest [] bound
    else do
      let bound ←
        bindParameter (mark.child place) (.node tag children) (values.headD .nil) table
      bindParameters mark (place + 1) rest values.tail bound

/-- Binds one parameter with a mark to a value. -/
def bindParameter (mark : Mark) : Tree → Value → Table → Run Table
  | .leaf _, _, _ => refuse (.plain .member)
  | .node tag children, item, table =>
    if tag = "arg" || tag = "restarg" then
      match Site.childrenOf mark children with
      | [] => value table
      | name :: _ => value (table.insert name.key name.toValue item)
    else if tag = "procarg0" then
      match Site.childrenOf mark children with
      | [] => refuse (.plain .position)
      | first :: _ =>
        if first.tree.isNode then
          if children.length = 1 then bindParameters mark 0 children [item] table
          else do
            let items ← compute item.toSequence
            bindParameters mark 0 children items table
        else value (table.insert first.key first.toValue item)
    else if tag = "mlhs" then do
      let items ← compute item.toSequence
      bindParameters mark 0 children items table
    else refuseAt (.node tag children) (.unsupportedConstruct tag)

end

/-! ### Destructuring -/

mutual

/-- Writes the targets below a marked node from left to right, counted from a place on, pairing them
with values as parameters are. -/
def assignAll (mark : Mark) : Nat → List Tree → List Value → Run Unit
  | _, [], _ => value ()
  | _, .leaf _ :: _, _ => refuse (.plain .member)
  | place, .node tag children :: rest, values =>
    if takesRest tag then do
      let list ← newList values
      assign (mark.child place) (.node tag children) list
      assignAll mark (place + 1) rest []
    else do
      assign (mark.child place) (.node tag children) (values.headD .nil)
      assignAll mark (place + 1) rest values.tail

/-- Writes one target with a mark. A spread without a target of its own drops its values. -/
def assign (mark : Mark) : Tree → Value → Run Unit
  | .leaf _, _ => refuse (.plain .member)
  | .node tag children, item =>
    if tag = "lvasgn" then
      match Site.childrenOf mark children with
      | [] => refuse (.plain .position)
      | name :: _ => write .locals name.toName item
    else if tag = "gvasgn" then
      match Site.childrenOf mark children with
      | [] => refuse (.plain .position)
      | name :: _ => write .globals name.toName item
    else if tag = "splat" then
      match children with
      | [] => value ()
      | target :: _ => assign (mark.child 0) target item
    else if tag = "mlhs" then do
      let items ← compute item.toSequence
      assignAll mark 0 children items
    else refuseAt (.node tag children) (.unsupportedConstruct tag)

end

/-- Writes a whole pattern: the targets below it, from the items of a value. -/
def destructure (pattern : Site) (item : Value) : Run Unit :=
  match pattern.tree with
  | .leaf _ => refuse (.plain .member)
  | .node _ targets => do
    let items ← compute item.toSequence
    assignAll pattern.mark 0 targets items

/-- The name that the target of a spread writes; a spread may be without one. -/
def innerName (target : Site) : Run Value :=
  match target.tree with
  | .leaf .null => value .nil
  | .leaf _ => refuse (.plain .member)
  | .node _ children =>
    match Site.childrenOf target.mark children with
    | [] => refuse (.plain .position)
    | name :: _ => value name.toValue

mutual

/-- The names that the targets below a marked node write, counted from a place on, nested targets as
lists. -/
def targetNames (mark : Mark) : Nat → List Tree → Run (List Value)
  | _, [] => value []
  | place, target :: rest => do
    let first ← targetName (mark.child place) target
    let others ← targetNames mark (place + 1) rest
    return first :: others

/-- The name that a target with a mark writes. -/
def targetName (mark : Mark) : Tree → Run Value
  | .leaf _ => refuse (.plain .member)
  | .node tag children =>
    if tag = "mlhs" then do
      let names ← targetNames mark 0 children
      newList names
    else
      match Site.childrenOf mark children with
      | [] => value .nil
      | first :: _ => if tag = "splat" then innerName first else value first.toValue

end

end Run

end Treewalk
