import Treewalk.Datum
import Treewalk.Order
import Treewalk.Spelling

/-!
Computations on values: they read and change memory and may fail, and what they changed before a
failure stays changed. The module also holds how new values are made, each a thing of its own unless
there is only one of it, and what values list when they are gone through at once.
-/

set_option autoImplicit false
set_option relaxedAutoImplicit false

namespace Treewalk

/-- A computation on values. -/
abbrev Compute (α : Type) := ExceptT Cause (StateM Memory) α

namespace Compute

/-- Fails with a platform failure of a kind. -/
def refuse {α : Type} (kind : Kind) : Compute α := throw (.plain kind)

/-- The result of a pure step that may fail. -/
def ofExcept {α : Type} : Except Cause α → Compute α
  | .ok a => pure a
  | .error cause => throw cause

/-- The datum of a value. -/
def view (value : Value) : Compute Datum := do
  return (← get).view value

/-- The cell that a value holds, if it holds one. -/
def cell? (value : Value) : Compute (Option Cell) := do
  return (← get).cell? value

/-- Puts a new cell into the heap. -/
def allocate (cell : Cell) : Compute Value := do
  let (value, memory) := (← get).allocate cell
  set memory
  return value

/-- A new list. -/
def newList (items : List Value) : Compute Value := allocate (.list items)

/-- A new table. -/
def newTable (entries : Table) : Compute Value := allocate (.table entries [])

/-- Replaces the contents of the cell that a value holds. -/
def store (value : Value) (cell : Cell) : Compute Unit :=
  match value with
  | .cell address => modify fun memory => memory.store address cell
  | _ => pure ()

/-- The key of a value; a value that cannot be a key is a failure. -/
def key (value : Value) : Compute Key := do
  match (← get).key? value with
  | some key => return key
  | none => refuse .type

/-! ### New values -/

/-- A mark that was never given out before. -/
def mint : Compute Mark := do
  let (mark, memory) := (← get).mint
  set memory
  return mark

/-- A tree as a thing of its own. -/
def place (tree : Tree) : Compute Site := do
  return ⟨tree, ← mint⟩

/-- A new integer; of a small one there is only one. -/
def newInt (i : Int) : Compute Value := do
  if Value.isSmall i then return .ofInt i else return .int i (← mint)

/-- A count as a new integer. -/
def newCount (n : Nat) : Compute Value := newInt (n : Int)

/-- A new floating-point number. -/
def newFloat (x : Binary64) : Compute Value := do
  return .float x (← mint)

/-- A new number. -/
def newNumber : Number → Compute Value
  | .int i => newInt i
  | .float x => newFloat x

/-- A new text; of the empty one there is only one. -/
def newText (s : String) : Compute Value := do
  if s.isEmpty then return .ofText s else return .text s (← mint)

/-- A text cut out of another one. -/
def newPart (s : String) : Compute Value := do
  if Value.isShared s then return .ofText s else return .text s (← mint)

/-- A new symbol. -/
def newSymbol (s : String) : Compute Value := do
  return .symbol s (← mint)

/-- A new tuple; of the empty one there is only one. -/
def newTuple (items : List Value) : Compute Value := do
  if items.isEmpty then return .tuple [] .common else return .tuple items (← mint)

/-- A new byte string. -/
def newBytes (data : List UInt8) : Compute Value := do
  return .bytes data (← mint)

/-- A byte string cut out of or put together from others; of those of at most one byte there is only one
each. -/
def newBytePart (data : List UInt8) : Compute Value :=
  if data.length < 2 then pure (.bytes data .common) else newBytes data

/-- A new range. -/
def newRange (first last : Value) (exclusive : Bool) : Compute Value := do
  return .range first last exclusive (← mint)

/-- A new progression. -/
def newProgression (start stop step : Int) : Compute Value := do
  return .progression start stop step (← mint)

/-- A method of a receiver, made anew. -/
def newMethod (receiver : Value) (name : String) : Compute Value := do
  return .method receiver name (← mint)

/-! ### Values as text -/

/-- A printed form, or the failure that there is none. -/
def ofPrinted : Except Flaw String → Compute String
  | .ok s => pure s
  | .error flaw => refuse flaw.kind

/-- The form of a value that is joined into other text. -/
def plain (value : Value) : Compute String := do
  ofPrinted (← view value).plain

/-- A value as a text: a text is one already, and each truth value has one text. -/
def asText (value : Value) : Compute Value := do
  match value with
  | .text _ _ => return value
  | .bool b => return .ofText (Literal.bool b)
  | _ => newText (← plain value)

/-- A value as a text to interpolate: nil is empty, and truth values are in lower case. -/
def interpolated (value : Value) : Compute Value := do
  match value with
  | .nil => return .ofText ""
  | .bool b => return .ofText (if b then "true" else "false")
  | _ => asText value

/-- Texts joined; a single one stays what it is. -/
def joined (texts : List Value) : Compute Value :=
  match texts with
  | [only] => asText only
  | _ => newText (String.join (texts.map fun value => value.text?.getD ""))

end Compute

/-! ### Spellings as values -/

mutual

/-- The list spelling of a tree with a mark, as a value. Symbols are written as texts. -/
def Tree.spelled (mark : Mark) : Tree → Compute Value
  | .leaf (.symbol s) => Compute.newText s
  | .leaf scalar => pure (scalar.toValue mark)
  | .node tag children => do
    let items ← Tree.spelledAll mark 0 children
    Compute.newList (Value.markedText tag mark.tag :: items)

/-- The list spellings of the children of a marked node, counted from a place on. -/
def Tree.spelledAll (mark : Mark) (place : Nat) : List Tree → Compute (List Value)
  | [] => pure []
  | tree :: rest => do
    let first ← tree.spelled (mark.child place)
    let others ← Tree.spelledAll mark (place + 1) rest
    return first :: others

end

/-! ### Going through a value at once -/

namespace Value

/-- The characters of a text, each as a text. -/
def characters (s : String) : Compute (List Value) :=
  s.toList.mapM fun c => Compute.newPart (String.ofList [c])

/-- The bytes of a byte string as integers. -/
def byteItems (data : List UInt8) : List Value := data.map fun byte => ofInt (byte.toNat : Int)

/-- The integers of a progression, unless there are too many to be counted. -/
def progressionItems (start stop step : Int) : Compute (List Value) :=
  if Number.fitsWord (Progression.size start stop step) then
    (Progression.items start stop step).mapM Compute.newInt
  else Compute.refuse .overflow

/-- The integer after the last one of a range of integers. -/
def rangeStop (last : Int) (exclusive : Bool) : Int := if exclusive then last else last + 1

/-- The first integer of a range and the one after its last; its bounds have to be integers. -/
def rangeBounds (first last : Value) (exclusive : Bool) : Compute (Int × Int) := do
  match first.integer?, last.integer? with
  | some a, some b => return (a, rangeStop b exclusive)
  | _, _ => throw (.notEnumerable ((← get).kindName first))

/-- The items that a range lists. -/
def enumerate (first last : Value) (exclusive : Bool) : Compute (List Value) := do
  let (start, stop) ← rangeBounds first last exclusive
  progressionItems start stop 1

/-- The items that a value lists when it is gone through: those of a sequence, the characters of a
text, the names of a table, the integers of a range, the children of a node. -/
def items (value : Value) : Compute (List Value) := do
  match value with
  | text s _ => characters s
  | symbol s _ => characters s
  | tuple items _ => return items
  | range first last exclusive _ => enumerate first last exclusive
  | bytes data _ => return byteItems data
  | progression start stop step _ => progressionItems start stop step
  | node _ children mark => return childrenOf mark children
  | _ =>
    match ← Compute.cell? value with
    | some (.list items) => return items
    | some (.table entries _) => return entries.names
    | some (.queue items _) => return items
    | some (.buffer data) => return byteItems data
    | _ => Compute.refuse .type

/-- The items of a sequence. Texts and byte strings are single values, not sequences. -/
def sequence? (value : Value) : Compute (Option (List Value)) := do
  match value with
  | tuple items _ => return some items
  | progression start stop step _ => return some (← progressionItems start stop step)
  | _ =>
    match ← Compute.cell? value with
    | some (.list items) => return some items
    | some (.queue items _) => return some items
    | _ => return none

/-- New two-item lists of the names and values of a table. -/
def pairLists : Table → Compute (List Value)
  | [] => pure []
  | entry :: rest => do
    let first ← Compute.newList [entry.name, entry.value]
    let others ← pairLists rest
    return first :: others

/-- The items that a spread contributes: none for nil, the items of a sequence or range, the pairs of
a table, and any other value as it stands. -/
def spread (value : Value) : Compute (List Value) := do
  match value with
  | nil => return []
  | range first last exclusive _ => enumerate first last exclusive
  | _ =>
    match ← sequence? value with
    | some items => return items
    | none =>
      match ← Compute.cell? value with
      | some (.table entries _) => pairLists entries
      | _ => return [value]

/-- The items that a destructured value has: those of a sequence, and else the value alone. -/
def toSequence (value : Value) : Compute (List Value) := do
  match ← sequence? value with
  | some items => return items
  | none => return [value]

end Value

end Treewalk
