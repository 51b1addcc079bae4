import Treewalk.Table

/-!
The memory of a script: a heap of mutable cells, the closures made so far, and how many marks have
been given out. All of it only grows; a cell may change its contents, a closure never changes.
-/

set_option autoImplicit false
set_option relaxedAutoImplicit false

namespace Treewalk

/-- A chain of variable frames, given by their numbers, innermost first. -/
abbrev Chain := List Nat

/-- A mutable thing. A table keeps the places at which entries were removed from it, latest first, and
a queue the number of times its size has changed, so that who goes through them can tell. An object
has a class; it prints as its title, or without one as its class applied to its fields. -/
inductive Cell where
  | list (items : List Value)
  | table (entries : Table) (removals : List Nat)
  | queue (items : List Value) (revision : Nat)
  | buffer (data : List UInt8)
  | object (className : String) (title : Option String) (fields : List (String × Value))
deriving Repr, Inhabited

/-- A cell with other items, if it has items at all. -/
def Cell.withItems (items : List Value) : Cell → Cell
  | list _ => list items
  | queue old revision =>
    queue items (if items.length = old.length then revision else revision + 1)
  | cell => cell

/-- A closure: a block with its parameter list, body and the frames around it, or the proc of a
symbol with the node it was made at. -/
inductive Closure where
  | block (parameters body : Site) (chain : Chain)
  | symbolProc (name : String) (node : Tree)
deriving Repr, Inhabited

/-- The name of the kind that something of the interpreter itself is of. -/
def Inner.kindName : Inner → String
  | frame _ | handlers => "dict"
  | evaluator => "Evaluator"
  | policy => "Capabilities"
  | names => "frozenset"
  | globals => "Variables"

/-- Whether something of the interpreter itself can be a key. -/
def Inner.isHashable : Inner → Bool
  | frame _ | handlers => false
  | _ => true

/-- Memory. -/
structure Memory where
  heap : Array Cell := #[]
  closures : Array Closure := #[]
  marks : Nat := 0
deriving Repr, Inhabited

namespace Memory

/-- The cell that a value holds, if it holds one. -/
def cell? (memory : Memory) : Value → Option Cell
  | .cell address => memory.heap[address]?
  | _ => none

/-- The closure of an index. -/
def closure? (memory : Memory) (index : Nat) : Option Closure := memory.closures[index]?

/-- Puts a new cell into the heap. -/
def allocate (memory : Memory) (cell : Cell) : Value × Memory :=
  (.cell memory.heap.size, { memory with heap := memory.heap.push cell })

/-- Replaces the contents of a cell. -/
def store (memory : Memory) (address : Nat) (cell : Cell) : Memory :=
  { memory with heap := memory.heap.setIfInBounds address cell }

/-- Gives out a mark. -/
def mint (memory : Memory) : Mark × Memory :=
  (.own memory.marks [], { memory with marks := memory.marks + 1 })

/-- Adds a closure. -/
def close (memory : Memory) (closure : Closure) : Value × Memory :=
  (.closure memory.closures.size, { memory with closures := memory.closures.push closure })

/-- The kinds whose methods are not functions of the library. -/
def nativeKinds : List String :=
  ["int", "float", "str", "bytes", "bytearray", "tuple", "list", "deque", "dict", "range"]

/-- The name of a value's kind. -/
def kindName (memory : Memory) (value : Value) : String :=
  match value with
  | .nil => "NoneType"
  | .bool _ => "bool"
  | .int _ _ => "int"
  | .float _ _ => "float"
  | .text _ _ => "str"
  | .symbol _ _ => "Symbol"
  | .tuple _ _ => "tuple"
  | .range _ _ _ _ => "Range"
  | .regexp _ => "Pattern"
  | .bytes _ _ => "bytes"
  | .progression _ _ _ _ => "range"
  | .node _ _ _ => "Node"
  | .closure index =>
    match memory.closure? index with
    | some (.block _ _ _) => "Block"
    | _ => "function"
  | .inner _ part => part.kindName
  | .hostClass _ => "type"
  | .function _ => "function"
  | .method receiver _ _ =>
    match receiver with
    | .hostClass className =>
      if nativeKinds.contains className then "method_descriptor" else "function"
    | .range _ _ _ _ | .node _ _ _ | .closure _ => "method"
    | .cell address =>
      match memory.heap[address]? with
      | some (.object _ _ _) => "method"
      | _ => "builtin_function_or_method"
    | _ => "builtin_function_or_method"
  | .cell address =>
    match memory.heap[address]? with
    | some (.list _) => "list"
    | some (.table _ _) => "dict"
    | some (.queue _ _) => "deque"
    | some (.buffer _) => "bytearray"
    | some (.object name _ _) => name
    | none => "NoneType"

/-- A receiver in words. -/
def describe (memory : Memory) : Value → String
  | .nil => "nil"
  | .hostClass name => name
  | value => "an instance of " ++ memory.kindName value

end Memory

/-- What a step makes of a key, given what the keys come to that it leads to. At most `depth` keys are
followed into each other, and none that is being followed already; where the way ends, the default of
the key stands. -/
def follow {κ ρ : Type} [DecidableEq κ] (stop : κ → ρ) (step : (κ → ρ) → κ → ρ) :
    Nat → List κ → κ → ρ
  | 0, _, key => stop key
  | depth + 1, path, key =>
    if key ∈ path then stop key else step (follow stop step depth (key :: path)) key

/-- What holds of the defaults and is kept by every step holds of whatever is followed. -/
theorem follow_of_step {κ ρ : Type} [DecidableEq κ] {stop : κ → ρ} {step : (κ → ρ) → κ → ρ}
    (holds : κ → ρ → Prop) (hstop : ∀ key, holds key (stop key))
    (hstep : ∀ below, (∀ key, holds key (below key)) → ∀ key, holds key (step below key))
    (depth : Nat) (path : List κ) (key : κ) : holds key (follow stop step depth path key) := by
  induction depth generalizing path key with
  | zero => exact hstop key
  | succ depth ih =>
    unfold follow
    split
    · exact hstop key
    · exact hstep _ (ih (key :: path)) key

end Treewalk
