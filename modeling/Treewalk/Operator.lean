import Treewalk.Charset
import Treewalk.Compute

/-!
Operators. Each is a member name that every value answers to in the same way: arithmetic and bits on
numbers, joining and repeating of sequences, formatting of texts, comparison, and access by index. An
operation that leaves an immutable sequence as it is gives back the same thing.
-/

set_option autoImplicit false
set_option relaxedAutoImplicit false

namespace Treewalk

/-- The operators. -/
inductive Operator where
  | add
  | subtract
  | multiply
  | divide
  | remainder
  | power
  | equal
  | notEqual
  | less
  | atMost
  | greater
  | atLeast
  | compare
  | shiftLeft
  | shiftRight
  | bitAnd
  | bitOr
  | bitXor
  | negate
  | affirm
  | invert
  | logicalNot
  | index
  | indexSet
deriving DecidableEq, Repr, Inhabited

namespace Operator

/-- All operators. -/
def all : List Operator :=
  [add, subtract, multiply, divide, remainder, power, equal, notEqual, less, atMost, greater,
    atLeast, compare, shiftLeft, shiftRight, bitAnd, bitOr, bitXor, negate, affirm, invert,
    logicalNot, index, indexSet]

/-- The member name of an operator. -/
def name : Operator → String
  | add => "+"
  | subtract => "-"
  | multiply => "*"
  | divide => "/"
  | remainder => "%"
  | power => "**"
  | equal => "=="
  | notEqual => "!="
  | less => "<"
  | atMost => "<="
  | greater => ">"
  | atLeast => ">="
  | compare => "<=>"
  | shiftLeft => "<<"
  | shiftRight => ">>"
  | bitAnd => "&"
  | bitOr => "|"
  | bitXor => "^"
  | negate => "-@"
  | affirm => "+@"
  | invert => "~"
  | logicalNot => "!"
  | index => "[]"
  | indexSet => "[]="

/-- The operator with a member name. -/
def ofName? (s : String) : Option Operator := all.find? fun operator => operator.name == s

end Operator

/-! ### Formatting of texts -/

namespace Format

/-- What is left to format: a list of arguments, of which all have to be used, or one argument that
may be left unused when `optional` is set. -/
structure Arguments where
  rest : List Value
  optional : Bool

/-- The text that a directive puts in. -/
def directive (letter : Char) (argument : Value) : Compute String := do
  if letter = 's' then Compute.plain argument
  else if letter = 'r' then Compute.ofPrinted (← Compute.view argument).literal
  else if letter = 'd' || letter = 'i' then
    match argument.number? with
    | some number => Compute.ofPrinted (writtenInt (← Compute.ofExcept number.truncate))
    | none => Compute.refuse .type
  else Compute.refuse .value

/-- The bytes that a directive puts in, one character each. -/
def byteDirective (letter : Char) (argument : Value) : Compute String := do
  if letter = 's' || letter = 'b' then
    match (← get).bytes? argument with
    | some data => return String.ofList (Charset.latin1.decode data)
    | none => Compute.refuse .type
  else if letter = 'd' || letter = 'i' then directive letter argument
  else Compute.refuse .value

/-- Formats a text, given what its directives put in; the result has its characters in order. -/
def run (directive : Char → Value → Compute String) : List Char → Arguments → Compute (List Char)
  | [], arguments =>
    if arguments.rest.isEmpty || arguments.optional then pure [] else Compute.refuse .type
  | ['%'], _ => Compute.refuse .value
  | '%' :: letter :: rest, arguments =>
    if letter = '%' then do
      let others ← run directive rest arguments
      return '%' :: others
    else
      match arguments.rest with
      | [] => Compute.refuse .type
      | argument :: remaining => do
        let put ← directive letter argument
        let others ← run directive rest { arguments with rest := remaining }
        return put.toList ++ others
  | c :: rest, arguments => do
    let others ← run directive rest arguments
    return c :: others

/-- The arguments that a value stands for: the items of a tuple, or the value alone, which may be left
unused if it is something that is looked up by index. -/
def arguments (value : Value) : Compute Arguments := do
  match value with
  | .tuple items _ => return ⟨items, false⟩
  | .node _ _ _ | .bytes _ _ | .progression _ _ _ _ => return ⟨[value], true⟩
  | _ =>
    match ← Compute.cell? value with
    | some (.list _) | some (.table _ _) | some (.buffer _) => return ⟨[value], true⟩
    | _ => return ⟨[value], false⟩

/-- The arguments that a value stands for in a byte format, where byte strings may not be left unused. -/
def byteArguments (value : Value) : Compute Arguments := do
  let given ← arguments value
  return { given with optional := given.optional && ((← get).bytes? value).isNone }

end Format

namespace Operator

/-! ### Arithmetic -/

/-- Applies an operation on numbers. -/
def arithmetic (operation : Number → Number → Except Cause Number) (a b : Value) :
    Compute Value :=
  match a.number?, b.number? with
  | some x, some y => do
    let result ← Compute.ofExcept (operation x y)
    Compute.newNumber result
  | _, _ => Compute.refuse .type

/-- Whether a value is the empty text. -/
def isEmptyText : Value → Bool
  | .text s _ => s.isEmpty
  | _ => false

/-- Two texts joined, symbols counting as the texts of their names; beside the empty text the other
one stays what it is. -/
def joinTexts (a b : Value) (s t : String) : Compute Value :=
  if isEmptyText a then Compute.asText b
  else if isEmptyText b then Compute.asText a
  else Compute.newText (s ++ t)

/-- Two byte strings joined; beside an empty one the other one stays what it is, unless it is a
buffer. -/
def joinBytes (a b : Value) (data others : List UInt8) : Compute Value :=
  match data, others, b with
  | [], _, .bytes _ _ => pure b
  | _, [], _ => pure a
  | _, _, _ => Compute.newBytes (data ++ others)

/-- Uses the bytes that a value holds. -/
def onBytes (value : Value) (use : List UInt8 → Compute Value) : Compute Value := do
  match (← get).bytes? value with
  | some data => use data
  | none => Compute.refuse .type

/-- Two cells of one kind joined, or a buffer and other bytes. -/
def joinCells (a b : Value) : Compute Value := do
  match ← Compute.cell? a, ← Compute.cell? b with
  | some (.list items), some (.list others) => Compute.newList (items ++ others)
  | some (.queue items _), some (.queue others _) =>
    Compute.allocate (.queue (items ++ others) 0)
  | some (.buffer data), _ => onBytes b fun others => Compute.allocate (.buffer (data ++ others))
  | _, _ => Compute.refuse .type

/-- Two sequences of one kind joined that are no texts; numbers are added. -/
def joinSequences (a b : Value) : Compute Value :=
  match a, b with
  | .tuple [] _, .tuple _ _ => pure b
  | .tuple _ _, .tuple [] _ => pure a
  | .tuple items _, .tuple others _ => Compute.newTuple (items ++ others)
  | .bytes data _, _ => onBytes b (joinBytes a b data)
  | .cell _, _ => joinCells a b
  | _, _ => arithmetic Number.add a b

/-- Two sequences of one kind joined; numbers are added. -/
def join (a b : Value) : Compute Value :=
  match a.text?, b.text? with
  | some s, some t => joinTexts a b s t
  | _, _ => joinSequences a b

/-- A list repeated; a negative count gives nothing. -/
def repeatList {α : Type} (count : Int) (items : List α) : List α :=
  if items.isEmpty then [] else (List.replicate count.toNat items).flatten

/-- A count, which has to fit into a word. -/
def checkedCount (count : Int) : Compute Int :=
  if Number.fitsWord count then pure count else Compute.refuse .overflow

/-- The characters or bytes of a sequence repeated; there may not be too many to be counted. -/
def repeatAtoms {α : Type} (count : Int) (atoms : List α) : Compute (List α) := do
  let _ ← checkedCount (max count 0 * atoms.length)
  return repeatList count atoms

/-- A text repeated; once, it stays what it is. -/
def repeatText (value : Value) (s : String) (count : Int) : Compute Value := do
  if count = 1 then Compute.asText value
  else Compute.newText (String.ofList (← repeatAtoms count s.toList))

/-- A sequence repeated. Once, an immutable one stays what it is. -/
def repeated (value : Value) (count : Int) : Compute Value := do
  match value with
  | .text s _ => repeatText value s (← checkedCount count)
  | .symbol s _ => repeatText value s (← checkedCount count)
  | .tuple items _ =>
    let times ← checkedCount count
    if times = 1 then return value else Compute.newTuple (repeatList times items)
  | .bytes data _ =>
    let times ← checkedCount count
    if times = 1 || data.isEmpty then return value
    else Compute.newBytes (← repeatAtoms times data)
  | _ =>
    match ← Compute.cell? value with
    | some (.list items) => Compute.newList (repeatList (← checkedCount count) items)
    | some (.queue items _) =>
      Compute.allocate (.queue (repeatList (← checkedCount count) items) 0)
    | some (.buffer data) => Compute.allocate (.buffer (repeatList (← checkedCount count) data))
    | _ => Compute.refuse .type

/-- A sequence repeated as often as an integer on either side says. -/
def repeatedEither (a b : Value) : Compute Value :=
  match a.integer?, b.integer? with
  | none, some count => repeated a count
  | some count, none => repeated b count
  | _, _ => Compute.refuse .type

/-- The product of numbers, or a sequence repeated. -/
def product (a b : Value) : Compute Value :=
  match a.number?, b.number? with
  | some _, some _ => arithmetic Number.mul a b
  | _, _ => repeatedEither a b

/-- The text that is put in for a directive which is the whole format: an integer is written anew, what
`%s` names stays the text it is, and what `%d` names is always a text of its own. -/
def formatOnly (s result : String) (argument : Value) : Compute Value :=
  match argument with
  | .int _ _ => Compute.newPart result
  | _ => if s = "%s" then Compute.asText argument else Compute.newText result

/-- A text formatted with arguments. Without directives a text or symbol stays what it is, unless it is
empty. -/
def format (value : Value) (s : String) (arguments : Format.Arguments) : Compute Value := do
  let result := String.ofList (← Format.run Format.directive s.toList arguments)
  if !s.isEmpty && !s.toList.contains '%' then return value
  else
    match arguments.rest with
    | [argument] =>
      if s = "%s" || s = "%d" || s = "%i" then formatOnly s result argument
      else Compute.newPart result
    | _ => Compute.newPart result

/-- A byte string formatted with arguments; that of a buffer is a new buffer. -/
def formatBytes (value : Value) (data : List UInt8) (arguments : Format.Arguments) :
    Compute Value := do
  let result ← Format.run Format.byteDirective (Charset.latin1.decode data) arguments
  let written := result.map fun c => UInt8.ofNat c.toNat
  match value with
  | .bytes _ _ => Compute.newBytePart written
  | _ => Compute.allocate (.buffer written)

/-- The remainder of numbers, or a text or byte string formatted with arguments. -/
def rest (a b : Value) : Compute Value := do
  match a.text? with
  | some s => format a s (← Format.arguments b)
  | none =>
    match (← get).bytes? a with
    | some data => formatBytes a data (← Format.byteArguments b)
    | none => arithmetic Number.mod a b

/-! ### Bits -/

/-- Applies an operation on integers. -/
def onIntegers (operation : Int → Int → Except Cause Int) (a b : Value) : Compute Value :=
  match a.integer?, b.integer? with
  | some i, some j => do
    let result ← Compute.ofExcept (operation i j)
    Compute.newInt result
  | _, _ => Compute.refuse .type

/-- Combines truth values to a truth value, and other integers bit by bit. -/
def bits (operation : Bool → Bool → Bool) (a b : Value) : Compute Value :=
  match a, b with
  | .bool x, .bool y => pure (.bool (operation x y))
  | _, _ => onIntegers (fun i j => .ok (Number.bitwise operation i j)) a b

/-- Two tables merged into a new one, or integers combined bit by bit. -/
def union (a b : Value) : Compute Value := do
  match ← Compute.cell? a, ← Compute.cell? b with
  | some (.table entries _), some (.table others _) => Compute.newTable (entries.merge others)
  | _, _ => bits (fun x y => x || y) a b

/-! ### Comparison -/

/-- Whether two values are equal. -/
def areEqual (a b : Value) : Compute Bool := do
  return (← get).same a b

/-- The answer to a question about the order of two values. -/
def ordered (relation : Relation) (a b : Value) : Compute Bool := do
  match (← get).ordered? relation a b with
  | some answer => return answer
  | none => Compute.refuse .type

/-- Minus one, zero or one; nil when the values have no order. -/
def spaceship (a b : Value) : Compute Value := do
  let memory ← get
  let digit (answer : Bool) : Int := if answer then 1 else 0
  match memory.ordered? .greater a b, memory.ordered? .less a b with
  | some more, some fewer => return .ofInt (digit more - digit fewer)
  | _, _ => return .nil

/-! ### Access by index -/

/-- The position that an index means in a sequence of a length; negative indices count from the end. -/
def position? (length : Nat) (index : Int) : Option Nat :=
  if 0 ≤ index then (if index < length then some index.toNat else none)
  else if 0 ≤ index + length then some (index + length).toNat
  else none

/-- The place that an index means in a sequence of a length. -/
def placeAt (length : Nat) (index : Value) : Compute Nat :=
  match index.integer? with
  | none => Compute.refuse .type
  | some i =>
    match position? length i with
    | some place => pure place
    | none => Compute.refuse .position

/-- The item of a list at an index. -/
def itemAt {α : Type} (items : List α) (index : Value) : Compute α := do
  match items[← placeAt items.length index]? with
  | some item => return item
  | none => Compute.refuse .position

/-- The character of a text at an index. -/
def characterAt (s : String) (index : Value) : Compute Value := do
  Compute.newPart (String.ofList [← itemAt s.toList index])

/-- What stands under a key or at an index. -/
def lookUp (receiver key : Value) : Compute Value := do
  match receiver with
  | .text s _ => characterAt s key
  | .symbol s _ => characterAt s key
  | .tuple items _ => itemAt items key
  | .bytes data _ => itemAt (Value.byteItems data) key
  | .progression start stop step _ =>
    let place ← placeAt (Progression.size start stop step) key
    Compute.newInt (Progression.item start step place)
  | .node _ children mark => itemAt (Value.childrenOf mark children) key
  | _ =>
    match ← Compute.cell? receiver with
    | some (.list items) => itemAt items key
    | some (.queue items _) => itemAt items key
    | some (.buffer data) => itemAt (Value.byteItems data) key
    | some (.table entries _) =>
      match entries.find? (← Compute.key key) with
      | some value => return value
      | none => Compute.refuse .entry
    | _ => Compute.refuse .type

/-- A list with the item at an index replaced. -/
def replaceAt {α : Type} (items : List α) (index : Value) (item : α) : Compute (List α) := do
  return items.set (← placeAt items.length index) item

/-- The byte that a value is. -/
def byte (value : Value) : Compute UInt8 :=
  match value.integer? with
  | none => Compute.refuse .type
  | some i => if 0 ≤ i && i < 256 then pure (UInt8.ofNat i.toNat) else Compute.refuse .value

/-- Whether a value is an integer that numbers no item of any sequence. -/
def isTooWide (index : Value) : Bool :=
  match index.integer? with
  | some i => !Number.fitsWord i
  | none => false

/-- Whether a value that takes no items is a sequence or an object all the same. -/
def isOrdered (receiver : Value) : Compute Bool := do
  match receiver with
  | .text _ _ | .symbol _ _ | .tuple _ _ | .bytes _ _ | .progression _ _ _ _ => return true
  | .range _ _ _ _ | .node _ _ _ | .cell _ => return true
  | .closure number =>
    match (← get).closure? number with
    | some (.block _ _ _) => return true
    | _ => return false
  | _ => return false

/-- Refuses to store into a value that takes no items. An index that is too wide is refused before
anything else. -/
def refusePut (receiver key : Value) : Compute Unit := do
  if isTooWide key && (← isOrdered receiver) then Compute.refuse .position
  else Compute.refuse .type

/-- Stores a value under a key or at an index. -/
def put (receiver key value : Value) : Compute Unit := do
  match ← Compute.cell? receiver with
  | some (.list items) => Compute.store receiver (.list (← replaceAt items key value))
  | some (.queue items revision) =>
    Compute.store receiver (.queue (← replaceAt items key value) revision)
  | some (.table entries removals) =>
    let found ← Compute.key key
    Compute.store receiver (.table (entries.insert found key value) removals)
  | some (.buffer data) =>
    if isTooWide key then Compute.refuse .position
    else
      match key.integer? with
      | none => Compute.refuse .type
      | some _ => Compute.store receiver (.buffer (← replaceAt data key (← byte value)))
  | _ => refusePut receiver key

/-- Several keys form one tuple. -/
def oneKey : List Value → Compute Value
  | [key] => pure key
  | keys => Compute.newTuple keys

/-! ### Application -/

/-- An operator applied to two values. -/
def binary (operator : Operator) (a b : Value) : Compute Value :=
  match operator with
  | add => join a b
  | subtract => arithmetic Number.sub a b
  | multiply => product a b
  | divide => arithmetic Number.div a b
  | remainder => rest a b
  | power => arithmetic Number.pow a b
  | equal => return .bool (← areEqual a b)
  | notEqual => return .bool (!(← areEqual a b))
  | less => return .bool (← ordered .less a b)
  | atMost => return .bool (← ordered .atMost a b)
  | greater => return .bool (← ordered .greater a b)
  | atLeast => return .bool (← ordered .atLeast a b)
  | compare => spaceship a b
  | shiftLeft => onIntegers Number.shiftLeft a b
  | shiftRight => onIntegers Number.shiftRight a b
  | bitAnd => bits (fun x y => x && y) a b
  | bitOr => union a b
  | bitXor => bits (fun x y => x != y) a b
  | _ => Compute.refuse .type

/-- A number as it is; truth values become integers. -/
def affirmed (value : Value) : Compute Value :=
  match value with
  | .int _ _ | .float _ _ => pure value
  | .bool b => Compute.newInt (if b then 1 else 0)
  | _ => Compute.refuse .type

/-- An operator applied to one value. -/
def unary (operator : Operator) (a : Value) : Compute Value :=
  match operator with
  | negate =>
    match a.number? with
    | some number => Compute.newNumber number.neg
    | none => Compute.refuse .type
  | affirm => affirmed a
  | invert =>
    match a.integer? with
    | some i => Compute.newInt (-i - 1)
    | none => Compute.refuse .type
  | logicalNot => pure (.bool (!a.isTruthy))
  | _ => Compute.refuse .type

/-- An operator applied to a receiver and at most one argument. -/
def plainly (operator : Operator) (receiver : Value) : List Value → Compute Value
  | [] => unary operator receiver
  | [argument] => binary operator receiver argument
  | _ => Compute.refuse .type

/-- An operator applied to a receiver and arguments. -/
def apply (operator : Operator) (receiver : Value) (arguments : List Value) : Compute Value :=
  match operator with
  | index => do lookUp receiver (← oneKey arguments)
  | indexSet =>
    match arguments.getLast? with
    | none => Compute.refuse .value
    | some value => do
      put receiver (← oneKey arguments.dropLast) value
      return value
  | _ => plainly operator receiver arguments

end Operator

end Treewalk
