import Treewalk.Charset
import Treewalk.Member

/-!
What the classes of plain values build when they are called: numbers out of numerals, texts out of
bytes and bytes out of texts, and sequences and tables out of what other values list. A value that is of
the class already and never changes is given back as it is.
-/

set_option autoImplicit false
set_option relaxedAutoImplicit false

namespace Treewalk

namespace Builder

/-! ### Bytes -/

/-- The bytes that a value asks for: as many zeros as an integer says, the bytes that it holds, or the
integers that it lists. A text asks for none. -/
def bytesOf (value : Value) : Compute (List UInt8) := do
  match value.text?, value.integer? with
  | some _, _ => Compute.refuse .type
  | none, some count =>
    if !Number.fitsWord count then Compute.refuse .overflow
    else if count < 0 then Compute.refuse .value
    else return List.replicate count.toNat 0
  | none, none => Member.addedBytes value

/-- The bytes of a text, given the names of a charset and a remedy. -/
def encoded (value : Value) (names : List Value) : Compute (List UInt8) := do
  match ← names.mapM Member.textArgument, value.text? with
  | [charset], some s => Compute.ofExcept (Charset.write (String.ofList charset) "strict" s)
  | [charset, remedy], some s =>
    Compute.ofExcept (Charset.write (String.ofList charset) (String.ofList remedy) s)
  | _, _ => Compute.refuse .type

/-- The text of bytes, given the names of a charset and a remedy. -/
def decoded (value : Value) (names : List Value) : Compute String := do
  match ← names.mapM Member.textArgument, (← get).bytes? value with
  | [charset], some data => Compute.ofExcept (Charset.read (String.ofList charset) "strict" data)
  | [charset, remedy], some data =>
    Compute.ofExcept (Charset.read (String.ofList charset) (String.ofList remedy) data)
  | _, _ => Compute.refuse .type

/-! ### Numbers -/

/-- The numeral that a value is: a text, or bytes that are ASCII text. Other bytes are none. -/
def numeral? (value : Value) : Compute (Option String) := do
  match value.text?, (← get).bytes? value with
  | some s, _ => return some s
  | none, some data =>
    if data.all (· < 0x80) then return some (String.ofList (Charset.ascii.decode data))
    else Compute.refuse .value
  | none, none => return none

/-- Uses what a numeral stands for. -/
def fromNumeral {α : Type} (value : Value) (read : String → Option α) (use : α → Compute Value) :
    Compute Value := do
  match ← numeral? value with
  | some s =>
    match read s with
    | some result => use result
    | none => Compute.refuse .value
  | none => Compute.refuse .type

/-- The integer of a value: an integer is one already, other numbers are cut, and numerals are read. -/
def asInteger (value : Value) : Compute Value := do
  match value, value.number? with
  | .int _ _, _ => return value
  | _, some number => Compute.newInt (← Compute.ofExcept number.truncate)
  | _, none => fromNumeral value Numeral.int? Compute.newInt

/-- The integer of a numeral to a base: zero, which lets the numeral announce its base, or a number from
two to thirty-six. -/
def integerTo (value base : Value) : Compute Value := do
  let b ← Member.integerArgument base
  if b != 0 && (b < 2 || 36 < b) then Compute.refuse .value
  else fromNumeral value (Numeral.intTo? b.toNat) Compute.newInt

/-- The floating-point number of a value: such a number is one already, other numbers are rounded, and
numerals are read. -/
def asFloat (value : Value) : Compute Value := do
  match value, value.number? with
  | .float _ _, _ => return value
  | _, some number => Compute.newFloat (← Compute.ofExcept number.toBinary64)
  | _, none => fromNumeral value Numeral.float? Compute.newFloat

/-- A progression with a step, which is not zero. -/
def stepped (start stop step : Value) : Compute Value := do
  let first ← Member.integerArgument start
  let last ← Member.integerArgument stop
  let distance ← Member.integerArgument step
  if distance = 0 then Compute.refuse .value else Compute.newProgression first last distance

/-! ### Sequences and nodes -/

/-- The tuple of what a value lists: a tuple is one already. -/
def asTuple (value : Value) : Compute Value := do
  match value with
  | .tuple _ _ => return value
  | _ => Compute.newTuple (← value.items)

/-- The byte string of what a value asks for: a byte string is one already. -/
def asBytes (value : Value) : Compute Value := do
  match value with
  | .bytes _ _ => return value
  | _ => Compute.newBytePart (← bytesOf value)

/-- The child of a node that a value can be: a node or a scalar. -/
def child (value : Value) : Compute Tree :=
  match value with
  | .nil => pure (.leaf .null)
  | .bool b => pure (.leaf (.bool b))
  | .int i _ => pure (.leaf (.int i))
  | .float x _ => pure (.leaf (.float x))
  | .text s _ => pure (.leaf (.text s))
  | .symbol s _ => pure (.leaf (.symbol s))
  | .node tag children _ => pure (.node tag children)
  | _ => Compute.refuse .type

/-- A node with a tag and children. -/
def newNode (tag : Value) (children : List Value) : Compute Value := do
  let text ← Compute.plain tag
  let trees ← children.mapM child
  return .node text trees (← Compute.mint)

/-! ### Classes -/

/-- What a class of plain values builds from arguments. -/
def build (className : String) (arguments : List Value) : Compute Value := do
  match className, arguments with
  | "NoneType", [] => return .nil
  | "type", [value] => return .hostClass ((← get).kindName value)
  | "bool", [] => return .bool false
  | "bool", [value] => return .bool ((← get).isGranted value)
  | "int", [] => return .ofInt 0
  | "int", [value] => asInteger value
  | "int", [value, base] => integerTo value base
  | "float", [] => Compute.newFloat (Binary64.zero false)
  | "float", [value] => asFloat value
  | "str", [] => return .ofText ""
  | "str", [value] => Compute.asText value
  | "str", value :: names => Compute.newPart (← decoded value names)
  | "Symbol", [] => Compute.newSymbol ""
  | "Symbol", [value] => Compute.newSymbol (← Compute.plain value)
  | "Symbol", value :: names => Compute.newSymbol (← decoded value names)
  | "tuple", [] => Compute.newTuple []
  | "tuple", [value] => asTuple value
  | "list", [] => Compute.newList []
  | "list", [value] => Compute.newList (← value.items)
  | "deque", [] => Compute.allocate (.queue [] 0)
  | "deque", [value] => Compute.allocate (.queue (← value.items) 0)
  | "deque", [value, .nil] => Compute.allocate (.queue (← value.items) 0)
  | "dict", [] => Compute.newTable []
  | "dict", [value] =>
    let table ← Compute.newTable []
    Member.updateTable table [] [] value
    return table
  | "bytes", [] => return .bytes [] .common
  | "bytes", [value] => asBytes value
  | "bytes", value :: names => Compute.newBytePart (← encoded value names)
  | "bytearray", [] => Compute.allocate (.buffer [])
  | "bytearray", [value] => Compute.allocate (.buffer (← bytesOf value))
  | "bytearray", value :: names => Compute.allocate (.buffer (← encoded value names))
  | "Range", [first, last] => Compute.newRange first last false
  | "Range", [first, last, exclusive] =>
    Compute.newRange first last ((← get).isGranted exclusive)
  | "range", [stop] => Compute.newProgression 0 (← Member.integerArgument stop) 1
  | "range", [start, stop] => stepped start stop (.ofInt 1)
  | "range", [start, stop, step] => stepped start stop step
  | "Node", [tag] => newNode tag []
  | "Node", [tag, children] => newNode tag (← children.items)
  | _, _ => Compute.refuse .type

/-- What a class of plain values builds from arguments and perhaps a block. Only a table takes one, and
files it after the other entries. -/
def buildWith (className : String) (arguments : List Value) (block : Option Value) :
    Compute Value := do
  match block with
  | none => build className arguments
  | some given =>
    if className = "dict" then
      let table ← build className arguments
      Member.fileBlock table given
      return table
    else Compute.refuse .type

end Builder

end Treewalk
