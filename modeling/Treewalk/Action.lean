import Treewalk.Iteration

/-!
Actions: what host code does, as a tree of requests to the interpreter. Host code may look at memory,
change the heap, call values, ask for the parameter names of a block, look at where the evaluator
stands, try to start a session, and reach for something of the interpreter itself; it has no other way
to touch the interpreter. A failure or an
abort ends an action, and so does a bound on how long it may go on; but host code may go on from the
failure of a value that it called. From an abort it may not.
-/

set_option autoImplicit false
set_option relaxedAutoImplicit false

namespace Treewalk

/-- What host code can see of the evaluator: the number of frames of the two namespaces, the printed
local namespace if its names are texts, and the node evaluated last. -/
structure Observation where
  localDepth : Nat
  globalDepth : Nat
  scope : Option String
  current : Option Tree
deriving Repr, Inhabited

/-- An action with a result. -/
inductive Action (α : Type) where
  /-- Ends with a result. -/
  | done (result : α)
  /-- Ends with a failure. -/
  | fail (failure : Failure)
  /-- Ends the whole session in a way that scripts cannot rescue. -/
  | abort (message : String)
  /-- Ends because it may not go on any longer. -/
  | exhaust
  /-- Looks at memory. -/
  | inspect (next : Memory → Action α)
  /-- Replaces the heap and the number of marks given out. -/
  | update (heap : Array Cell) (marks : Nat) (next : Action α)
  /-- Calls a value with arguments and perhaps a block. -/
  | call (callee : Value) (arguments : List Value) (block : Option Value) (next : Value → Action α)
  /-- Calls a value with arguments and perhaps a block, and goes on from its failures of the kinds that
  are caught, too. -/
  | attempt (callee : Value) (arguments : List Value) (block : Option Value)
      (next : Value → Action α) (catches : Kind → Bool) (recover : Kind → Action α)
  /-- Asks for the parameter names of a block; the answer is missing when a parameter is malformed. -/
  | parameters (index : Nat) (next : Option Value → Action α)
  /-- Looks at where the evaluator stands. -/
  | observe (next : Observation → Action α)
  /-- Tries to start a session on the evaluator. -/
  | reenter (next : Action α)
  /-- Reaches through a receiver for something of the interpreter itself, by reading a member or, with
  arguments, by sending it; the answer is missing when there is no such thing. -/
  | reach (receiver : Value) (name : String) (arguments : Option (List Value))
      (next : Option Value → Action α)

namespace Action

/-- One action after another. -/
def bind {α β : Type} (action : Action α) (after : α → Action β) : Action β :=
  match action with
  | done result => after result
  | fail failure => fail failure
  | abort message => abort message
  | exhaust => exhaust
  | inspect next => inspect fun memory => (next memory).bind after
  | update heap marks next => update heap marks (next.bind after)
  | call callee arguments block next =>
    call callee arguments block fun value => (next value).bind after
  | attempt callee arguments block next catches recover =>
    attempt callee arguments block (fun value => (next value).bind after) catches
      fun kind => (recover kind).bind after
  | parameters index next => parameters index fun names => (next names).bind after
  | observe next => observe fun seen => (next seen).bind after
  | reenter next => reenter (next.bind after)
  | reach receiver name arguments next =>
    reach receiver name arguments fun answer => (next answer).bind after

instance : Monad Action where
  pure := done
  bind := bind

/-- Fails with a cause that concerns no node. -/
def refuse {α : Type} (cause : Cause) : Action α := fail ⟨cause, none⟩

/-- Runs a computation on the memory. -/
def compute {α : Type} (computation : Compute α) : Action α :=
  inspect fun memory =>
    match computation.run.run memory with
    | (.ok result, changed) => update changed.heap changed.marks (done result)
    | (.error cause, changed) => update changed.heap changed.marks (refuse cause)

/-- Calls a value once for each item of an iteration; the results so far stand last first. -/
def callEach (callee : Value) : Nat → Iteration → List Value → Action (List Value)
  | 0, _, _ => exhaust
  | fuel + 1, iteration, results =>
    (compute iteration.next).bind fun found =>
      match found with
      | none => done results.reverse
      | some (item, rest) =>
        call callee [item] none fun result => callEach callee fuel rest (result :: results)

/-- Calls a value with a running result and each item of an iteration in turn. -/
def callFold (callee : Value) : Nat → Iteration → Value → Action Value
  | 0, _, _ => exhaust
  | fuel + 1, iteration, total =>
    (compute iteration.next).bind fun found =>
      match found with
      | none => done total
      | some (item, rest) =>
        call callee [total, item] none fun next => callFold callee fuel rest next

end Action

end Treewalk
