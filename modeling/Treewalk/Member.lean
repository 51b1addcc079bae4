import Treewalk.Action
import Treewalk.Member.Entries
import Treewalk.Member.Octets
import Treewalk.Member.Text

/-!
Members of plain values: their attributes and methods by name. A method can also be read off a class,
and then takes the value that it is for as its first argument.
-/

set_option autoImplicit false
set_option relaxedAutoImplicit false

namespace Treewalk

/-- What reading an attribute gives: nothing, a value, a number or a method that is made anew at each
reading, a failure of its own, the parameter names of a block, which have to be evaluated, or something
of the interpreter itself, which has to be asked for it. -/
inductive Attribute where
  | absent
  | value (value : Value)
  | number (number : Number)
  | method (receiver : Value) (name : String)
  | trap (failure : Failure)
  | parameters (index : Nat)
  | inner
deriving Repr, Inhabited

namespace Member

/-! ### Names -/

/-- The methods of texts, symbols, byte strings and buffers. -/
def ofText : List String :=
  ["upper", "lower", "strip", "split", "join", "replace", "startswith", "endswith", "find", "index",
    "count"]

/-- The methods of queues. -/
def ofQueue : List String :=
  ["append", "extend", "pop", "insert", "index", "count", "reverse", "copy", "remove"]

/-- The methods of tables. -/
def ofTable : List String := ["get", "pop", "setdefault", "update", "copy"]

/-- The methods that a kind of plain values has. -/
def methodsOf (kindName : String) : List String :=
  match kindName with
  | "str" | "Symbol" | "bytes" => ofText
  | "list" => "sort" :: ofQueue
  | "deque" => ofQueue
  | "bytearray" => ofText ++ ofQueue
  | "dict" => ofTable
  | "tuple" | "range" => ["index", "count"]
  | "int" | "bool" => ["bit_length"]
  | "float" => ["is_integer"]
  | "Range" => ["to_list"]
  | "Node" => ["to_sexp_array"]
  | "Block" => ["call"]
  | _ => []

/-- The kind that a kind is a special case of, or else the kind itself. -/
def baseKind (kindName : String) : String :=
  match kindName with
  | "Symbol" => "str"
  | "bool" => "int"
  | _ => kindName

/-! ### Attributes -/

/-- The attributes of an integer, given what it is as a number. -/
def integerField (real : Value) (name : String) : Attribute :=
  if name = "real" || name = "numerator" then .value real
  else if name = "imag" then .value (.ofInt 0)
  else if name = "denominator" then .value (.ofInt 1)
  else .absent

/-- An attribute of a plain value that is no method. -/
def fieldOf (memory : Memory) (receiver : Value) (name : String) : Attribute :=
  match receiver with
  | .int _ _ => integerField receiver name
  | .bool b => integerField (.ofInt (if b then 1 else 0)) name
  | .float _ _ =>
    if name = "real" then .value receiver
    else if name = "imag" then .number (.float (Binary64.zero false))
    else .absent
  | .range first last exclusive _ =>
    if name = "first" then .value first
    else if name = "last" then .value last
    else if name = "exclude_end" then .value (.bool exclusive)
    else .absent
  | .regexp pattern => if name = "pattern" then .value (.ofText pattern.source) else .absent
  | .progression start stop step mark =>
    if name = "start" then .value (.markedInt start (mark.part 0))
    else if name = "stop" then .value (.markedInt stop (mark.part 1))
    else if name = "step" then .value (.markedInt step (mark.part 2))
    else .absent
  | .node tag children mark =>
    if name = "type" then .value (.markedText tag mark.tag)
    else if name = "children" then
      if children.isEmpty then .value (.tuple [] .common)
      else .value (.tuple (Value.childrenOf mark children) mark.together)
    else .absent
  | .closure index =>
    match memory.closure? index with
    | some (.block parameters body _) =>
      if name = "params" then .value parameters.toValue
      else if name = "body" then .value body.toValue
      else if name = "parameter_names" then .parameters index
      else .absent
    | _ => .absent
  | .hostClass className =>
    if (methodsOf className).contains name then
      .value (.method (.hostClass (baseKind className)) name .common)
    else .absent
  | _ => .absent

/-- Whether an attribute that is not known to be anything else leads to the interpreter itself: the
frames and the evaluator of a block do, and so may whatever these have, and whatever has a name that
starts with two underscores. -/
def leadsInside (memory : Memory) (receiver : Value) (name : String) : Bool :=
  match receiver with
  | .inner _ _ => true
  | .closure _ =>
    memory.kindName receiver == "Block" && (name == "frames" || name == "evaluator") ||
      Text.startsWith ['_', '_'] name.toList
  | _ => Text.startsWith ['_', '_'] name.toList

/-- An attribute, or what leads to the interpreter itself where there is none. -/
def orInner (memory : Memory) (receiver : Value) (name : String) (found : Attribute) : Attribute :=
  match found with
  | .absent => if leadsInside memory receiver name then .inner else .absent
  | found => found

/-- The attribute of a plain value. -/
def attributeOf (memory : Memory) (receiver : Value) (name : String) : Attribute :=
  let kindName := memory.kindName receiver
  if name = "__class__" then .value (.hostClass kindName)
  else if (methodsOf kindName).contains name then .method receiver name
  else orInner memory receiver name (fieldOf memory receiver name)

/-! ### Methods of other values -/

/-- A method of a tuple. -/
def runTuple (items : List Value) (name : String) (arguments : List Value) : Compute Value := do
  match name, arguments with
  | "index", wanted :: bounds => indexOf items wanted bounds
  | "count", [wanted] => Compute.newCount (occurrences (← get) wanted items)
  | _, _ => Compute.refuse .type

/-- A method of a progression, which holds integers and is searched for one number. -/
def runProgression (start stop step : Int) (name : String) (arguments : List Value) :
    Compute Value :=
  match name, arguments with
  | "index", [wanted] =>
    placeOr (Compute.refuse .value) (placeInProgression start stop step wanted)
  | "count", [wanted] =>
    pure (.ofInt (if (placeInProgression start stop step wanted).isSome then 1 else 0))
  | _, _ => Compute.refuse .type

/-- A method of a value that is no sequence: each kind has one at most. -/
def runSole (receiver : Value) (name : String) (arguments : List Value) : Compute Value := do
  match receiver, name, arguments with
  | .int i _, "bit_length", [] => Compute.newCount (Number.bitLength i)
  | .bool b, "bit_length", [] => return .ofInt (if b then 1 else 0)
  | .float x _, "is_integer", [] => return .bool x.toInt?.isSome
  | .range first last exclusive _, "to_list", [] =>
    Compute.newList (← Value.enumerate first last exclusive)
  | .node tag children mark, "to_sexp_array", [] => (Tree.node tag children).spelled mark
  | _, _, _ => Compute.refuse .type

/-- A method of a plain value, blocks apart. -/
def run (receiver : Value) (name : String) (arguments : List Value) : Compute Value := do
  match receiver with
  | .text s _ => runText receiver s name arguments
  | .symbol s _ => runText receiver s name arguments
  | .bytes data _ => runBytes receiver data name arguments
  | .tuple items _ => runTuple items name arguments
  | .progression start stop step _ => runProgression start stop step name arguments
  | .cell _ =>
    match ← Compute.cell? receiver with
    | some (.list items) => runList receiver items name arguments
    | some (.queue items revision) =>
      runItems receiver (.queue items revision) items name arguments
    | some (.table table removals) => runTable receiver table removals name arguments
    | some (.buffer data) => runBuffer receiver data name arguments
    | _ => Compute.refuse .type
  | _ => runSole receiver name arguments

/-- A method of a plain value, perhaps with a block. Only the update of a table takes one, and files it
after the other entries. -/
def runWith (receiver : Value) (name : String) (arguments : List Value) (block : Option Value) :
    Compute Value := do
  match block with
  | none => run receiver name arguments
  | some given =>
    match name, ← Compute.cell? receiver with
    | "update", some (.table _ _) =>
      let result ← run receiver name arguments
      fileBlock receiver given
      return result
    | _, _ => Compute.refuse .type

end Member

end Treewalk
