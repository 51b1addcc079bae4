import Treewalk.Memory
import Treewalk.Raw

/-!
Data: values together with everything they reach. `Memory.view` takes the datum of a value out of a
memory. The three printed forms of values are defined on data: `inspect` is the inspection form,
`literal` the form of data literals, and `plain` the form joined into other text. A form is missing
where the datum holds a block whose parameter list is malformed, or an integer that is too long to be
written. A container that leads back to itself has a literal, but no inspection form.
-/

set_option autoImplicit false
set_option relaxedAutoImplicit false

namespace Treewalk

/-- A datum. Objects and closures keep the number by which they are told apart. -/
inductive Datum where
  | nil
  | bool (value : Bool)
  | int (value : Int)
  | float (value : Binary64)
  | text (value : String)
  | symbol (name : String)
  | tuple (items : List Datum)
  | range (first last : Datum) (exclusive : Bool)
  | regexp (pattern : Regexp)
  | bytes (data : List UInt8)
  | progression (start stop step : Int)
  | node (tag : String) (children : List Tree)
  | list (items : List Datum)
  | table (entries : List (Datum × Datum))
  | queue (items : List Datum)
  | buffer (data : List UInt8)
  | object (address : Nat) (className : String) (title : Option String)
      (fields : List (String × Datum))
  | block (index : Nat) (parameters : Tree)
  | symbolProc (index : Nat)
  | hostClass (name : String)
  | function (name : String)
  | method (name : String)
  /-- A thing inside of itself, with the literal that stands for it there, if one does. -/
  | again (literal : Option String)
deriving Repr, Inhabited

/-! ### Views of values -/

mutual

/-- The datum of a value, given those of cells and closures. -/
def Value.toDatum (atCell atClosure : Nat → Datum) : Value → Datum
  | .nil => .nil
  | .bool b => .bool b
  | .int i _ => .int i
  | .float x _ => .float x
  | .text s _ => .text s
  | .symbol s _ => .symbol s
  | .tuple items _ => .tuple (Value.toData atCell atClosure items)
  | .range first last exclusive _ =>
    .range (first.toDatum atCell atClosure) (last.toDatum atCell atClosure) exclusive
  | .regexp pattern => .regexp pattern
  | .bytes data _ => .bytes data
  | .progression start stop step _ => .progression start stop step
  | .node tag children _ => .node tag children
  | .cell address => atCell address
  | .closure index => atClosure index
  | .inner _ part => .function part.kindName
  | .hostClass name => .hostClass name
  | .function name => .function name
  | .method _ name _ => .method name

/-- The data of several values. -/
def Value.toData (atCell atClosure : Nat → Datum) : List Value → List Datum
  | [] => []
  | value :: rest => value.toDatum atCell atClosure :: Value.toData atCell atClosure rest

end

namespace Memory

/-- The datum of a closure. -/
def closureDatum (memory : Memory) (index : Nat) : Datum :=
  match memory.closure? index with
  | some (.block parameters _ _) => .block index parameters.tree
  | _ => .symbolProc index

/-- The datum of a cell, given those of the cells that it leads to. -/
def datumFrom (memory : Memory) (atCell : Nat → Datum) (address : Nat) : Datum :=
  let datum (value : Value) : Datum := value.toDatum atCell memory.closureDatum
  match memory.heap[address]? with
  | none => .nil
  | some (.list items) => .list (items.map datum)
  | some (.table entries _) =>
    .table (entries.map fun entry => (datum entry.name, datum entry.value))
  | some (.queue items _) => .queue (items.map datum)
  | some (.buffer data) => .buffer data
  | some (.object className title fields) =>
    .object address className title (fields.map fun field => (field.1, datum field.2))

/-- What stands for a cell inside of itself. -/
def cellAgain (memory : Memory) (address : Nat) : Datum :=
  match memory.heap[address]? with
  | some (.list _) | some (.queue _ _) => .again (some "[...]")
  | some (.table _ _) => .again (some "\x7b...\x7d")
  | _ => .again none

/-- The datum of a cell. A cell that leads back to itself is not followed again, and so no path is
longer than the heap. -/
def cellDatum (memory : Memory) (address : Nat) : Datum :=
  follow memory.cellAgain memory.datumFrom (memory.heap.size + 1) [] address

/-- The datum of a value. -/
def view (memory : Memory) (value : Value) : Datum :=
  value.toDatum memory.cellDatum memory.closureDatum

end Memory

namespace Datum

/-! ### Printed forms -/

/-- The literal of a progression, whose step is left out when it is one. -/
def progressionText (start stop step : Int) : Except Flaw String := do
  let parts := if step = 1 then [start, stop] else [start, stop, step]
  return "range(" ++ ", ".intercalate (← parts.mapM writtenInt) ++ ")"

/-- The literal of a regular expression. -/
def regexpText (pattern : Regexp) : String :=
  let source := String.ofList ((Text.literal pattern.source).toList.take 200)
  let flags := pattern.options.words
  "re.compile(" ++ source ++ (if flags.isEmpty then "" else ", " ++ "|".intercalate flags) ++ ")"

/-- The dots between the bounds of a range. -/
def dots (exclusive : Bool) : String := if exclusive then "..." else ".."

mutual

/-- The literal of a datum. -/
def literal : Datum → Except Flaw String
  | nil => .ok "None"
  | bool b => .ok (Literal.bool b)
  | int i => writtenInt i
  | float x => .ok x.plain
  | text s => .ok (Text.literal s)
  | symbol s => .ok (":" ++ s)
  | tuple items => (literals items).map Literal.tuple
  | range first last exclusive => do
    let a ← literal first
    let b ← literal last
    return "Range(" ++ a ++ dots exclusive ++ b ++ ")"
  | regexp pattern => .ok (regexpText pattern)
  | bytes data => .ok (Text.literalBytes data)
  | progression start stop step => progressionText start stop step
  | node tag children => (Tree.node tag children).written Tree.print
  | list items => (literals items).map Literal.list
  | table entries => (entryLiterals entries).map Literal.table
  | queue items => (literals items).map fun texts => "deque(" ++ Literal.list texts ++ ")"
  | buffer data => .ok ("bytearray(" ++ Text.literalBytes data ++ ")")
  | object _ className title fields =>
    match title with
    | some words => .ok words
    | none =>
      (fieldLiterals fields).map fun texts => className ++ "(" ++ ", ".intercalate texts ++ ")"
  | block _ parameters => parameters.label
  | symbolProc _ => .ok "<function symbol_proc>"
  | hostClass name => .ok ("<class " ++ Text.literal name ++ ">")
  | function name => .ok ("<function " ++ name ++ ">")
  | method name => .ok ("<method " ++ name ++ ">")
  | again (some literal) => .ok literal
  | again none => .error .endless

/-- The literals of several data. -/
def literals : List Datum → Except Flaw (List String)
  | [] => .ok []
  | item :: rest => do
    let first ← literal item
    let others ← literals rest
    return first :: others

/-- The literals of table entries. -/
def entryLiterals : List (Datum × Datum) → Except Flaw (List String)
  | [] => .ok []
  | (name, value) :: rest => do
    let first ← literal name
    let second ← literal value
    let others ← entryLiterals rest
    return Literal.entry first second :: others

/-- The literals of fields. -/
def fieldLiterals : List (String × Datum) → Except Flaw (List String)
  | [] => .ok []
  | (_, value) :: rest => do
    let first ← literal value
    let others ← fieldLiterals rest
    return first :: others

end

/-- The form of a datum that is joined into other text: texts and symbols stand for themselves. -/
def plain : Datum → Except Flaw String
  | text s => .ok s
  | symbol s => .ok s
  | datum => literal datum

mutual

/-- The inspection form of a datum. -/
def inspect : Datum → Except Flaw String
  | nil => .ok "nil"
  | bool b => .ok (if b then "true" else "false")
  | int i => writtenInt i
  | float x => .ok x.plain
  | text s => .ok (Text.inspected s)
  | symbol s => .ok (":" ++ s)
  | tuple items => (inspections items).map Literal.list
  | list items => (inspections items).map Literal.list
  | table entries => (entryInspections entries).map Literal.table
  | range first last exclusive => do
    let a ← inspect first
    let b ← inspect last
    return a ++ dots exclusive ++ b
  | regexp pattern => .ok pattern.inspect
  | again _ => .error .endless
  | datum => literal datum

/-- The inspection forms of several data. -/
def inspections : List Datum → Except Flaw (List String)
  | [] => .ok []
  | item :: rest => do
    let first ← inspect item
    let others ← inspections rest
    return first :: others

/-- The inspection forms of table entries. -/
def entryInspections : List (Datum × Datum) → Except Flaw (List String)
  | [] => .ok []
  | (name, value) :: rest => do
    let first ← inspect name
    let second ← inspect value
    let others ← entryInspections rest
    return (first ++ "=>" ++ second) :: others

end

end Datum

end Treewalk
