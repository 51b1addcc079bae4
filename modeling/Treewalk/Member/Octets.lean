import Treewalk.Member.Items

/-!
Methods of byte strings and of buffers, which are byte strings that change in place. Methods that do not
change a buffer make a new one; of a byte string, those that leave it as it is give back the same thing.
-/

set_option autoImplicit false
set_option relaxedAutoImplicit false

namespace Treewalk

namespace Member

/-! ### New bytes -/

/-- Bytes cut out of a receiver, of the same kind. -/
def bytePart (receiver : Value) (data : List UInt8) : Compute Value :=
  match receiver with
  | .bytes _ _ => Compute.newBytePart data
  | _ => Compute.allocate (.buffer data)

/-- Bytes put together, of the same kind as a receiver; of the empty byte string there is only one. -/
def freshBytes (receiver : Value) (data : List UInt8) : Compute Value :=
  match receiver with
  | .bytes _ _ => if data.isEmpty then Compute.newBytePart data else Compute.newBytes data
  | _ => Compute.allocate (.buffer data)

/-- The bytes of a receiver as they are. -/
def sameBytes (receiver : Value) (data : List UInt8) : Compute Value :=
  match receiver with
  | .bytes _ _ => pure receiver
  | _ => Compute.allocate (.buffer data)

/-! ### Bytes as ASCII characters -/

/-- Whether a byte is an ASCII blank. -/
def isBlankByte (byte : UInt8) : Bool := (9 ≤ byte && byte ≤ 13) || byte == 32

/-- An ASCII letter in upper case. -/
def upperByte (byte : UInt8) : UInt8 := if 97 ≤ byte && byte ≤ 122 then byte - 32 else byte

/-- An ASCII letter in lower case. -/
def lowerByte (byte : UInt8) : UInt8 := if 65 ≤ byte && byte ≤ 90 then byte + 32 else byte

/-! ### Methods that byte strings and buffers share -/

/-- What is sought in bytes: other bytes, or a single one as an integer. -/
def needle (value : Value) : Compute (List UInt8) := do
  match (← get).bytes? value with
  | some data => return data
  | none => return [← byteArgument value]

/-- The first place of what is sought in a part of the bytes. -/
def needlePlace (data : List UInt8) (value : Value) (bounds : List Value) :
    Compute (Option Nat) := do
  let _ ← slice data bounds
  firstPlace data (← needle value) bounds

/-- Bytes without certain ones at their ends. -/
def stripBytes (receiver : Value) (data : List UInt8) (isStrange : UInt8 → Bool) : Compute Value :=
  let left := ((data.dropWhile isStrange).reverse.dropWhile isStrange).reverse
  if left.length = data.length then sameBytes receiver data else bytePart receiver left

/-- The parts of bytes as a new list; bytes that are their own only part stay as they are. -/
def byteList (receiver : Value) (data : List UInt8) (isWhole : Bool) (parts : List (List UInt8)) :
    Compute Value := do
  if isWhole then Compute.newList [← sameBytes receiver data]
  else Compute.newList (← parts.mapM (bytePart receiver))

/-- Splits bytes at a separator. -/
def splitBytesAt (receiver : Value) (data : List UInt8) (separator : Value) (cuts : Nat) :
    Compute Value := do
  let pattern ← bytesArgument separator
  if pattern.isEmpty then Compute.refuse .value
  else
    let parts := Text.split pattern cuts data
    byteList receiver data (parts.length == 1) parts

/-- Splits bytes at a separator, or at blanks if it is nil. -/
def splitBytes (receiver : Value) (data : List UInt8) (separator : Value) (count : Int) :
    Compute Value :=
  let cuts := limit data.length count
  match separator with
  | .nil =>
    let parts := Text.words isBlankByte cuts data
    byteList receiver data (cuts != 0 && parts == [data]) parts
  | _ => splitBytesAt receiver data separator cuts

/-- Replaces occurrences of a pattern; where there are none, the bytes stay what they are. -/
def replaceBytes (receiver : Value) (data pattern replacement : List UInt8) (count : Int) :
    Compute Value :=
  let most := limit data.length count
  if most = 0 || (pattern.isEmpty && replacement.isEmpty) || Text.count pattern data = 0 then
    sameBytes receiver data
  else freshBytes receiver (Text.replace pattern replacement most data)

/-- Bytes joined out of items; a byte string that is the only item of a byte string stays what it is. -/
def joinedBytes (receiver : Value) (items : List Value) (joined : List UInt8) : Compute Value :=
  match receiver, items with
  | .bytes _ _, [.bytes only mark] => pure (.bytes only mark)
  | _, _ => freshBytes receiver joined

/-- A method that byte strings and buffers share. -/
def runBytes (receiver : Value) (data : List UInt8) (name : String) (arguments : List Value) :
    Compute Value := do
  match name, arguments with
  | "upper", [] => freshBytes receiver (data.map upperByte)
  | "lower", [] => freshBytes receiver (data.map lowerByte)
  | "strip", [] => stripBytes receiver data isBlankByte
  | "strip", [.nil] => stripBytes receiver data isBlankByte
  | "strip", [strange] => stripBytes receiver data (← bytesArgument strange).contains
  | "split", [] => splitBytes receiver data .nil (-1)
  | "split", [separator] => splitBytes receiver data separator (-1)
  | "split", [separator, count] => splitBytes receiver data separator (← countArgument count)
  | "join", [list] =>
    let items ← list.items
    let parts ← items.mapM bytesArgument
    joinedBytes receiver items (List.intercalate data parts)
  | "replace", [pattern, replacement] =>
    replaceBytes receiver data (← bytesArgument pattern) (← bytesArgument replacement) (-1)
  | "replace", [pattern, replacement, count] =>
    let p ← bytesArgument pattern
    let r ← bytesArgument replacement
    replaceBytes receiver data p r (← countArgument count)
  | "startswith", pattern :: bounds => anyPattern bytesArgument Text.startsWith data pattern bounds
  | "endswith", pattern :: bounds => anyPattern bytesArgument Text.endsWith data pattern bounds
  | "find", wanted :: bounds =>
    placeOr (pure (.ofInt (-1))) (← needlePlace data wanted bounds)
  | "index", wanted :: bounds =>
    placeOr (Compute.refuse .value) (← needlePlace data wanted bounds)
  | "count", wanted :: bounds =>
    let found ← slice data bounds
    let pattern ← needle wanted
    Compute.newCount ((found.map fun place => Text.count pattern place.2).getD 0)
  | _, _ => Compute.refuse .type

/-! ### Methods of buffers -/

/-- The bytes that a value adds to a buffer: those that it holds, or the integers that it lists. -/
def addedBytes (value : Value) : Compute (List UInt8) := do
  match (← get).bytes? value with
  | some data => return data
  | none => (← value.items).mapM byteArgument

/-- Takes the byte at an index out of a buffer. -/
def popByte (receiver : Value) (data : List UInt8) (index : Int) : Compute Value := do
  let (byte, others) ← takeOut data index
  Compute.store receiver (.buffer others)
  return .ofInt (byte.toNat : Int)

/-- A method of a buffer. -/
def runBuffer (receiver : Value) (data : List UInt8) (name : String) (arguments : List Value) :
    Compute Value := do
  match name, arguments with
  | "append", [item] =>
    Compute.store receiver (.buffer (data ++ [← byteArgument item]))
    return .nil
  | "extend", [list] =>
    Compute.store receiver (.buffer (data ++ (← addedBytes list)))
    return .nil
  | "pop", [] => popByte receiver data (-1)
  | "pop", [index] => popByte receiver data (← countArgument index)
  | "insert", [index, item] =>
    let place := clamp data.length (← countArgument index)
    let byte ← byteArgument item
    Compute.store receiver (.buffer (data.take place ++ byte :: data.drop place))
    return .nil
  | "reverse", [] =>
    Compute.store receiver (.buffer data.reverse)
    return .nil
  | "copy", [] => Compute.allocate (.buffer data)
  | "remove", [item] =>
    let byte ← byteArgument item
    if data.contains byte then
      Compute.store receiver (.buffer (data.erase byte))
      return .nil
    else Compute.refuse .value
  | _, _ => runBytes receiver data name arguments

end Member

end Treewalk
